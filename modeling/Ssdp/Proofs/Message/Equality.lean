import Ssdp.Proofs.Message.Refinement

/-!
# Equality of headers

Two headers maps are compared by their sizes, and by looking up in the second one what stands
in the first. The comparison treats its sides differently, and where a name stands twice it
is neither symmetric nor transitive. Headers that were reached by the operations have no name
twice, and for them it comes to the same as holding the same headers in any order and
spelling, which is an equivalence of whatever headers there are.

* `Headers.Same`: the same headers, but for their order and the spelling of their names;
* `Headers.Reached`: headers of which no more is known than that they are those of some
  message;
* `Headers.Sound.agree_iff_same`, `Headers.Sound.same_iff_get?`: what the comparison amounts
  to;
* `Headers.Same.edit`, `Headers.SameResult`: what is done to both sides is answered alike and
  leaves them equal.
-/

namespace Ssdp

/-- A header without the spelling of its name. -/
def Header.folded (e : Header) : Text × Text :=
  (e.key, e.value)

namespace Headers

/-- The same headers, but for their order and the spelling of their names. -/
def Same (a b : Headers) : Prop :=
  (a.entries.map Header.folded).Perm (b.entries.map Header.folded)

instance (a b : Headers) : Decidable (a.Same b) :=
  inferInstanceAs (Decidable (List.Perm _ _))

/-- The headers of a message that was read or put together, with whatever edits. -/
def Reached (h : Headers) : Prop :=
  ∃ m : Message, m.Made ∧ m.headers = h

theorem Reached.sound {h : Headers} (hr : h.Reached) : h.Sound := by
  obtain ⟨m, hm, rfl⟩ := hr
  exact hm.sound

/-! ## What the comparison amounts to -/

section

variable {a b c h : Headers} {name value : Text}

theorem Same.refl (a : Headers) : a.Same a := List.Perm.refl _

theorem Same.symm (hab : a.Same b) : b.Same a := List.Perm.symm hab

theorem Same.trans (hab : a.Same b) (hbc : b.Same c) : a.Same c := List.Perm.trans hab hbc

/-- Names that are the same up to ASCII case are looked up alike. -/
theorem find_congr {q : Text} (hq : Text.foldCase q = Text.foldCase name) (es : List Header) :
    find q es = find name es := by
  have hsame : (fun e : Header => Text.sameName e.name q) = fun e => Text.sameName e.name name := by
    funext e
    rw [Bool.eq_iff_iff, sameName_iff_key, sameName_iff_key, hq]
  rw [find, hsame, find]

namespace Sound

theorem nodup_folded (hs : h.Sound) : (h.entries.map Header.folded).Nodup := by
  refine .of_map Prod.fst ?_
  rw [List.map_map]
  exact hs.distinct

/-- A value is found under a name if it stands there under that name in any spelling. -/
theorem get?_eq_some_iff (hs : h.Sound) :
    h.get? name = some value ↔ (Text.foldCase name, value) ∈ h.entries.map Header.folded := by
  rw [List.mem_map]
  constructor
  · intro hfound
    obtain ⟨e, he, rfl⟩ := Option.map_eq_some_iff.1 hfound
    have hsame : Text.sameName e.name name = true := by simpa using List.find?_some he
    exact ⟨e, List.mem_of_find?_eq_some he, Prod.ext (sameName_iff_key.1 hsame) rfl⟩
  · rintro ⟨e, he, hfolded⟩
    obtain ⟨hkey, hvalue⟩ := Prod.mk.inj hfolded
    rw [get?_eq, find_congr hkey.symm, ← get?_eq, hs.get?_of_mem he, hvalue]

/-- What is found in the other headers stands there. -/
theorem folded_subset (hb : b.Sound) (hab : ∀ e ∈ a.entries, b.get? e.name = some e.value) :
    a.entries.map Header.folded ⊆ b.entries.map Header.folded := by
  intro p hp
  obtain ⟨e, he, rfl⟩ := List.mem_map.1 hp
  exact hb.get?_eq_some_iff.1 (hab e he)

/-- Where no name stands twice, the same headers are those that answer alike. -/
theorem same_iff_get? (ha : a.Sound) (hb : b.Sound) :
    a.Same b ↔ ∀ name, a.get? name = b.get? name := by
  constructor
  · intro hab name
    refine Option.ext fun value => ?_
    rw [ha.get?_eq_some_iff, hb.get?_eq_some_iff]
    exact List.Perm.mem_iff hab
  · intro hab
    refine (List.perm_ext_iff_of_nodup ha.nodup_folded hb.nodup_folded).2 fun p => ⟨?_, ?_⟩
    · exact fun hp => hb.folded_subset (fun e he => hab e.name ▸ ha.get?_of_mem he) hp
    · exact fun hp => ha.folded_subset (fun e he => hab e.name ▸ hb.get?_of_mem he) hp

/-- Where no name stands twice, the comparison tells whether the headers are the same: those
of the first are all among those of the second, which are as many. -/
theorem agree_iff_same (ha : a.Sound) (hb : b.Sound) : a.agree b = true ↔ a.Same b := by
  rw [agree_iff]
  constructor
  · rintro ⟨hlength, hfound⟩
    have hsubperm := List.subperm_of_subset ha.nodup_folded (hb.folded_subset hfound)
    refine hsubperm.perm_of_length_le ?_
    rw [List.length_map, List.length_map, hlength]
  · intro hab
    have hlength := List.Perm.length_eq hab
    rw [List.length_map, List.length_map] at hlength
    refine ⟨hlength, fun e he => ?_⟩
    rw [← (same_iff_get? ha hb).1 hab]
    exact ha.get?_of_mem he

end Sound

/-! ## Doing the same to both sides -/

/-- The same edit leaves the same headers. -/
theorem Same.edit (hab : a.Same b) (ha : a.Sound) (hb : b.Sound) (x : Edit) :
    (a.edit x).Same (b.edit x) := by
  refine ((ha.edit x).same_iff_get? (hb.edit x)).2 fun name => ?_
  rw [ha.get?_edit, hb.get?_edit, (ha.same_iff_get? hb).1 hab]

/-- The same insertion into the same headers is refused for the same fault, or replaces the
same value and leaves headers that are equal. -/
theorem Same.insert (hab : a.Same b) (ha : a.Sound) (hb : b.Sound) (name value : Text) :
    (∃ error, a.insert name value = .error error ∧ b.insert name value = .error error) ∨
      ∃ a' b' old, a.insert name value = .ok (a', old) ∧ b.insert name value = .ok (b', old) ∧
        a'.agree b' = true := by
  by_cases hfits : Header.Fits ⟨name, value⟩
  · have hleft (h : Headers) :
        h.edit (.tryInsert name value) = ⟨(place ⟨name, value⟩ h.entries).1⟩ := by
      rw [edit_eq, show (Edit.tryInsert name value).effect = .put ⟨name, value⟩ from if_pos hfits]
    have hold : a.get? name = b.get? name := (ha.same_iff_get? hb).1 hab name
    refine .inr ⟨_, _, _, insert_of_fits hfits a, hold ▸ insert_of_fits hfits b, ?_⟩
    rw [← hleft, ← hleft]
    exact ((ha.edit _).agree_iff_same (hb.edit _)).2 (hab.edit ha hb _)
  · obtain ⟨error, hfault⟩ := Option.ne_none_iff_exists'.1 (mt fits_iff.2 hfits)
    exact .inl ⟨error, insert_eq_error_iff.2 hfault, insert_eq_error_iff.2 hfault⟩

/-- Both come to the same answer, or panic for the same reason, and leave headers that are
equal. -/
inductive SameResult {α : Type} :
    EStateM.Result PanicReason Headers α → EStateM.Result PanicReason Headers α → Prop
  | answer (x : α) {a b : Headers} (h : a.agree b = true) : SameResult (.ok x a) (.ok x b)
  | panic (reason : PanicReason) {a b : Headers} (h : a.agree b = true) :
    SameResult (.error reason a) (.error reason b)

theorem Same.run_tryInsert (hab : a.Same b) (ha : a.Sound) (hb : b.Sound) (name value : Text) :
    SameResult ((tryInsert name value).run a) ((tryInsert name value).run b) := by
  rw [Headers.run_tryInsert, Headers.run_tryInsert]
  rcases hab.insert ha hb name value with ⟨error, hea, heb⟩ | ⟨a', b', old, hia, hib, hagree⟩
  · rw [hea, heb]
    exact .answer _ ((ha.agree_iff_same hb).2 hab)
  · rw [hia, hib]
    exact .answer _ hagree

theorem Same.run_insertOrPanic (hab : a.Same b) (ha : a.Sound) (hb : b.Sound)
    (name value : Text) :
    SameResult ((insertOrPanic name value).run a) ((insertOrPanic name value).run b) := by
  rw [Headers.run_insertOrPanic, Headers.run_insertOrPanic]
  rcases hab.insert ha hb name value with ⟨error, hea, heb⟩ | ⟨a', b', old, hia, hib, hagree⟩
  · rw [hea, heb]
    exact .panic _ ((ha.agree_iff_same hb).2 hab)
  · rw [hia, hib]
    exact .answer _ hagree

theorem Same.run_takeOut (hab : a.Same b) (ha : a.Sound) (hb : b.Sound) (name : Text) :
    SameResult ((takeOut name).run a) ((takeOut name).run b) := by
  have hleft (h : Headers) : (h.remove name).1 = h.edit (.takeOut name) := by
    rw [edit_eq]
    rfl
  have hanswer : (b.remove name).2 = (a.remove name).2 :=
    ((ha.same_iff_get? hb).1 hab name).symm
  rw [Headers.run_takeOut, Headers.run_takeOut, hanswer, hleft, hleft]
  exact .answer _ (((ha.edit _).agree_iff_same (hb.edit _)).2 (hab.edit ha hb _))

end

end Headers

end Ssdp
