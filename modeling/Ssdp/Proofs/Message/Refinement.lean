import Mathlib.Data.Finmap
import Ssdp.Proofs.Device
import Ssdp.Proofs.Message.Editing

/-!
# Headers refine a finite map

A finite map from names in small letters to values has no order and no spelling. Whichever
edits headers go through, they answer as the map does that these edits amount to; and what
the map does not tell can be told from the edits as well: the headers stand in the order
of the insertions since which their names are present, each spelled as it was inserted last.

* `HeaderMap`, `HeaderMap.apply`: finite maps, and what an edit makes of them;
* `PresentSince`, `LastInserted`: what a sequence of edits says of a name;
* `Headers.Shows`, `Headers.Stands`: headers hold what a map holds, and stand as edits have
  left them; `Headers.shows_edited`, `Headers.stands_edited`: they do, after any edits;
* `headers_refine_map`: what headers answer, and how they are listed.
-/

namespace Ssdp

/-! ## The map that edits amount to -/

/-- The header can be written: its name is not empty and ends at its colon, and it fits on
a line of its own. -/
def Header.Fits (e : Header) : Prop :=
  e.name ≠ [] ∧ ':' ∉ e.name ∧ ('\r' ∉ e.name ∧ '\n' ∉ e.name) ∧ '\r' ∉ e.value ∧ '\n' ∉ e.value

instance (e : Header) : Decidable e.Fits :=
  inferInstanceAs (Decidable (_ ∧ _))

namespace Headers

/-- What an edit amounts to: a header is put in, the one with a name is taken out, or
nothing is done. -/
inductive Effect where
  | put (e : Header)
  | drop (name : Text)
  | nothing
deriving DecidableEq, Repr

/-- An insertion amounts to nothing unless the header can be written. -/
def Edit.effect : Edit → Effect
  | .tryInsert name value | .insertOrPanic name value =>
    if Header.Fits ⟨name, value⟩ then .put ⟨name, value⟩ else .nothing
  | .takeOut name => .drop name

end Headers

/-- A finite map from names in small letters to values. -/
abbrev HeaderMap := Finmap fun _ : Text => Text

namespace HeaderMap

/-- The map after an edit. -/
def apply (m : HeaderMap) (x : Headers.Edit) : HeaderMap :=
  match x.effect with
  | .put e => m.insert e.key e.value
  | .drop name => m.erase (Text.foldCase name)
  | .nothing => m

/-- The map that edits amount to, from the empty one. -/
def ofEdits (edits : List Headers.Edit) : HeaderMap :=
  edits.foldl apply ∅

theorem ofEdits_concat (edits : List Headers.Edit) (x : Headers.Edit) :
    ofEdits (edits ++ [x]) = (ofEdits edits).apply x :=
  List.foldl_concat ..

theorem mem_apply {m : HeaderMap} {x : Headers.Edit} {k : Text} : k ∈ m.apply x ↔
    match x.effect with
    | .put e => k = e.key ∨ k ∈ m
    | .drop name => k ≠ Text.foldCase name ∧ k ∈ m
    | .nothing => k ∈ m := by
  unfold apply
  cases x.effect with
  | put e => exact Finmap.mem_insert
  | drop name => exact Finmap.mem_erase
  | nothing => rfl

end HeaderMap

/-! ## What a sequence of edits says of a name -/

section

variable {edits : List Headers.Edit} {x : Headers.Edit} {k : Text} {e : Header} {i j : Nat}

/-- The name, in small letters, has been present since this edit: it was not before, and it
is after it and after each later one. -/
structure PresentSince (edits : List Headers.Edit) (k : Text) (i : Nat) : Prop where
  lt : i < edits.length
  absent : k ∉ HeaderMap.ofEdits (edits.take i)
  present : ∀ j, i < j → j ≤ edits.length → k ∈ HeaderMap.ofEdits (edits.take j)

/-- Of the headers with this name that were put in, this one was the last. -/
def LastInserted (edits : List Headers.Edit) (e : Header) : Prop :=
  ∃ before x after, edits = before ++ x :: after ∧ x.effect = .put e ∧
    ∀ y ∈ after, ∀ e', y.effect = .put e' → e'.key ≠ e.key

namespace PresentSince

theorem le_of (h : PresentSince edits k i) (h' : PresentSince edits k j) : i ≤ j :=
  Nat.le_of_not_lt fun hlt => h.absent (h'.present i hlt (Nat.le_of_lt h.lt))

/-- There is one such edit at most. -/
theorem unique (h : PresentSince edits k i) (h' : PresentSince edits k j) : i = j :=
  Nat.le_antisymm (h.le_of h') (h'.le_of h)

theorem concat (h : PresentSince edits k i) (hk : k ∈ HeaderMap.ofEdits (edits ++ [x])) :
    PresentSince (edits ++ [x]) k i := by
  have hlt := h.lt
  refine ⟨by simp; omega, ?_, fun j hij hj => ?_⟩
  · rw [List.take_append_of_le_length (Nat.le_of_lt hlt)]
    exact h.absent
  · by_cases hlast : j ≤ edits.length
    · rw [List.take_append_of_le_length hlast]
      exact h.present j hij hlast
    · rwa [List.take_of_length_le (by simp; omega)]

/-- What an edit makes present is present since then. -/
theorem last (habsent : k ∉ HeaderMap.ofEdits edits)
    (hk : k ∈ HeaderMap.ofEdits (edits ++ [x])) :
    PresentSince (edits ++ [x]) k edits.length := by
  refine ⟨by simp, by rwa [List.take_left], fun j hij hj => ?_⟩
  rwa [List.take_of_length_le (by simp; omega)]

/-- What is present before an edit and after it has not come with the edit. -/
theorem of_concat (h : PresentSince (edits ++ [x]) k i) (hk : k ∈ HeaderMap.ofEdits edits) :
    PresentSince edits k i := by
  have hle : i ≤ edits.length := Nat.le_of_lt_succ (by simpa using h.lt)
  have habsent := h.absent
  rw [List.take_append_of_le_length hle] at habsent
  have hne : i ≠ edits.length := by
    rintro rfl
    exact habsent (by rwa [List.take_length])
  refine ⟨Nat.lt_of_le_of_ne hle hne, habsent, fun j hij hj => ?_⟩
  have hpresent := h.present j hij (by simp; omega)
  rwa [List.take_append_of_le_length hj] at hpresent

end PresentSince

/-- What is present has been so since some edit. -/
theorem exists_presentSince (h : k ∈ HeaderMap.ofEdits edits) : ∃ i, PresentSince edits k i := by
  induction edits using List.reverseRecOn with
  | nil => exact absurd h Finmap.notMem_empty
  | append_singleton edits x ih =>
    by_cases hbefore : k ∈ HeaderMap.ofEdits edits
    · obtain ⟨i, hi⟩ := ih hbefore
      exact ⟨i, hi.concat h⟩
    · exact ⟨_, .last hbefore h⟩

theorem LastInserted.concat (h : LastInserted edits e)
    (hx : ∀ e', x.effect = .put e' → e'.key ≠ e.key) : LastInserted (edits ++ [x]) e := by
  obtain ⟨before, y, after, rfl, hy, hafter⟩ := h
  refine ⟨before, y, after ++ [x], by rw [List.append_assoc, List.cons_append], hy, ?_⟩
  exact List.forall_mem_append.2 ⟨hafter, List.forall_mem_singleton.2 hx⟩

theorem LastInserted.last (hx : x.effect = .put e) : LastInserted (edits ++ [x]) e :=
  ⟨edits, x, [], rfl, hx, List.forall_mem_nil _⟩

end

namespace Headers

/-! ## What edits do -/

section

variable {e : Header}

theorem fits_iff : e.Fits ↔ fault? e.name e.value = none :=
  fault?_eq_none_iff.symm

theorem insert_of_fits (he : e.Fits) (h : Headers) :
    h.insert e.name e.value = .ok (⟨(place e h.entries).1⟩, h.get? e.name) := by
  rw [insert, fits_iff.1 he, get?_eq, ← place_snd]

theorem run_tryInsert_of_fits (he : e.Fits) (h : Headers) :
    (tryInsert e.name e.value).run h = .ok (.ok (h.get? e.name)) ⟨(place e h.entries).1⟩ := by
  rw [run_tryInsert, insert_of_fits he]

theorem run_insertOrPanic_of_fits (he : e.Fits) (h : Headers) :
    (insertOrPanic e.name e.value).run h = .ok (h.get? e.name) ⟨(place e h.entries).1⟩ := by
  rw [run_insertOrPanic, insert_of_fits he]

/-- A header that cannot be written is refused in either way, and nothing changes. -/
theorem exists_run_of_not_fits (he : ¬e.Fits) (h : Headers) : ∃ error,
    (tryInsert e.name e.value).run h = .ok (.error error) h ∧
      (insertOrPanic e.name e.value).run h = .error (.text error.message) h := by
  obtain ⟨error, hfault⟩ := Option.ne_none_iff_exists'.1 (mt fits_iff.2 he)
  refine ⟨error, ?_, ?_⟩
  · rw [run_tryInsert, insert_eq_error_iff.2 hfault]
  · rw [run_insertOrPanic, insert_eq_error_iff.2 hfault]

theorem edit_eq (h : Headers) (x : Edit) : h.edit x =
    match x.effect with
    | .put e => ⟨(place e h.entries).1⟩
    | .drop name => (h.remove name).1
    | .nothing => h := by
  have hinsertion (e : Header) : h.edit (.tryInsert e.name e.value) =
      h.edit (.insertOrPanic e.name e.value) ∧ h.edit (.tryInsert e.name e.value) =
      if e.Fits then ⟨(place e h.entries).1⟩ else h := by
    simp only [edit, leftBy]
    by_cases he : e.Fits
    · rw [run_tryInsert_of_fits he, run_insertOrPanic_of_fits he, if_pos he]
      exact ⟨rfl, rfl⟩
    · obtain ⟨error, htry, hpanic⟩ := exists_run_of_not_fits he h
      rw [htry, hpanic, if_neg he]
      exact ⟨rfl, rfl⟩
  cases x with
  | tryInsert name value =>
    rw [(hinsertion ⟨name, value⟩).2, Edit.effect]
    split <;> rfl
  | insertOrPanic name value =>
    rw [← (hinsertion ⟨name, value⟩).1, (hinsertion ⟨name, value⟩).2, Edit.effect]
    split <;> rfl
  | takeOut name =>
    rw [edit, leftBy, run_takeOut]
    rfl

/-- What is found under a name after an edit. -/
theorem Sound.get?_edit {h : Headers} (hs : h.Sound) (x : Edit) (name : Text) :
    (h.edit x).get? name = match x.effect with
      | .put e => if Text.foldCase name = e.key then some e.value else h.get? name
      | .drop other => if Text.foldCase name = Text.foldCase other then none else h.get? name
      | .nothing => h.get? name := by
  rw [edit_eq]
  cases x.effect with
  | put e =>
    show (find name (place e h.entries).1).map _ = if _ then _ else (find name h.entries).map _
    rw [find_place]
    by_cases hsame : Text.sameName e.name name = true
    · rw [if_pos hsame, if_pos (sameName_iff_key.1 hsame).symm]
      rfl
    · rw [if_neg hsame, if_neg fun heq => hsame (sameName_iff_key.2 heq.symm)]
  | drop other =>
    show (find name (h.entries.eraseP fun e => Text.sameName e.name other)).map _ =
      if _ then _ else (find name h.entries).map _
    rw [find_eraseP hs.distinct]
    split <;> rfl
  | nothing => rfl

theorem edited_concat (edits : List Edit) (x : Edit) :
    edited (edits ++ [x]) = (edited edits).edit x :=
  List.foldl_concat ..

end

/-! ## Headers and the map -/

/-- Headers hold what a map holds, every name once. -/
structure Shows (h : Headers) (m : HeaderMap) : Prop where
  sound : h.Sound
  mem_keys : ∀ k, k ∈ h.entries.map Header.key ↔ k ∈ m
  get?_eq : ∀ name, h.get? name = m.lookup (Text.foldCase name)

theorem shows_empty : Shows empty ∅ :=
  ⟨sound_empty, fun _ => iff_of_false List.not_mem_nil Finmap.notMem_empty, fun _ => rfl⟩

/-- The names that are left by an edit. -/
theorem Sound.mem_keys_edit {h : Headers} (hs : h.Sound) (x : Edit) {k : Text} :
    k ∈ (h.edit x).entries.map Header.key ↔
      match x.effect with
      | .put e => k = e.key ∨ k ∈ h.entries.map Header.key
      | .drop name => k ≠ Text.foldCase name ∧ k ∈ h.entries.map Header.key
      | .nothing => k ∈ h.entries.map Header.key := by
  rw [edit_eq]
  cases x.effect with
  | put e =>
    simp only [keys_place]
    split
    · rename_i hmem
      exact ⟨.inr, fun hk => hk.elim (fun heq => heq ▸ hmem) id⟩
    · rw [List.mem_append, List.mem_singleton, or_comm]
  | drop name =>
    show k ∈ (h.entries.eraseP fun e => Text.sameName e.name name).map Header.key ↔ _
    rw [keys_eraseP, hs.distinct.mem_erase_iff]
  | nothing => rfl

namespace Shows

variable {h : Headers} {m : HeaderMap}

theorem edit (hs : h.Shows m) (x : Edit) : (h.edit x).Shows (m.apply x) := by
  refine ⟨hs.sound.edit x, fun k => ?_, fun name => ?_⟩
  · rw [hs.sound.mem_keys_edit, HeaderMap.mem_apply]
    simp only [hs.mem_keys]
  · rw [hs.sound.get?_edit, HeaderMap.apply]
    cases x.effect with
    | put e =>
      show (if Text.foldCase name = e.key then _ else _) = _
      split
      · rename_i hsame
        rw [hsame, Finmap.lookup_insert]
      · rename_i hne
        rw [Finmap.lookup_insert_of_ne m hne, hs.get?_eq]
    | drop other =>
      show (if Text.foldCase name = Text.foldCase other then _ else _) = _
      split
      · rename_i hsame
        rw [hsame, Finmap.lookup_erase]
      · rename_i hne
        rw [Finmap.lookup_erase_ne hne, hs.get?_eq]
    | nothing => exact hs.get?_eq name

theorem contains_iff (hs : h.Shows m) {name : Text} :
    h.contains name = true ↔ Text.foldCase name ∈ m := by
  rw [← hs.mem_keys, contains_iff_mem_keys]

theorem card_keys (hs : h.Shows m) : m.keys.card = h.size := by
  have hkeys : m.keys = (h.entries.map Header.key).toFinset := by
    ext k
    rw [Finmap.mem_keys, List.mem_toFinset, hs.mem_keys]
  rw [hkeys, List.toFinset_card_of_nodup hs.sound.distinct, List.length_map, size]

theorem isEmpty_iff (hs : h.Shows m) : h.isEmpty = true ↔ m = ∅ := by
  rw [isEmpty, List.isEmpty_iff]
  constructor
  · intro hnil
    refine Finmap.ext_lookup fun k => ?_
    rw [Finmap.lookup_empty, Finmap.lookup_eq_none, ← hs.mem_keys, hnil]
    exact List.not_mem_nil
  · rintro rfl
    refine List.eq_nil_iff_forall_not_mem.2 fun e he => ?_
    exact absurd ((hs.mem_keys e.key).1 (List.mem_map_of_mem he)) Finmap.notMem_empty

end Shows

/-- Whatever was done to headers, they hold what the map holds that it amounts to. -/
theorem shows_edited (edits : List Edit) : (edited edits).Shows (.ofEdits edits) := by
  induction edits using List.reverseRecOn with
  | nil => exact shows_empty
  | append_singleton edits x ih =>
    rw [edited_concat, HeaderMap.ofEdits_concat]
    exact ih.edit x

/-! ## How headers stand -/

/-- Headers stand as edits leave them: every name that is present stands there once, as it
was inserted last, and the names are in the order of the edits since which they are
present. -/
structure Stands (h : Headers) (edits : List Edit) : Prop where
  distinct : (h.entries.map Header.key).Nodup
  present : ∀ k, k ∈ h.entries.map Header.key ↔ k ∈ HeaderMap.ofEdits edits
  spelled : ∀ e ∈ h.entries, LastInserted edits e
  since : ∀ e ∈ h.entries, ∃ i, PresentSince edits e.key i
  ordered : h.entries.Pairwise fun e e' =>
    ∀ i j, PresentSince edits e.key i → PresentSince edits e'.key j → i < j

section

variable {h : Headers} {e : Header} {edits : List Edit} {x : Edit}

/-- An edit leaves the headers that it does not replace or take out. -/
theorem mem_edit (hs : h.Sound) (he : e ∈ (h.edit x).entries) : x.effect = .put e ∨
    e ∈ h.entries ∧ ∀ e', x.effect = .put e' → e'.key ≠ e.key := by
  have hdistinct := (hs.edit x).distinct
  rw [edit_eq] at he hdistinct
  revert he hdistinct
  cases heffect : x.effect with
  | put x =>
    intro he hdistinct
    have hfound := find_of_mem hdistinct he
    rw [find_place] at hfound
    split at hfound
    · exact .inl (congrArg Effect.put (Option.some.inj hfound))
    · rename_i hne
      refine .inr ⟨List.mem_of_find?_eq_some hfound, fun e' heq => ?_⟩
      obtain rfl := Effect.put.inj heq
      exact fun hkey => hne (sameName_iff_key.2 hkey)
  | drop name => exact fun he _ => .inr ⟨List.mem_of_mem_eraseP he, nofun⟩
  | nothing => exact fun he _ => .inr ⟨he, nofun⟩

/-- The names that are left keep their order, and at most one that is new stands at the
end. -/
theorem keys_edit (h : Headers) (x : Edit) : ∃ kept fresh,
    (h.edit x).entries.map Header.key = kept ++ fresh ∧
      kept.Sublist (h.entries.map Header.key) ∧ fresh.length ≤ 1 ∧
      ∀ k ∈ fresh, k ∉ h.entries.map Header.key := by
  rw [edit_eq]
  cases x.effect with
  | put e =>
    simp only [keys_place]
    split
    · exact ⟨_, [], (List.append_nil _).symm, .refl _, Nat.zero_le 1, List.forall_mem_nil _⟩
    · rename_i hfresh
      exact ⟨_, [e.key], rfl, .refl _, Nat.le_refl 1, List.forall_mem_singleton.2 hfresh⟩
  | drop name =>
    exact ⟨_, [], (List.append_nil _).symm, List.eraseP_sublist.map _, Nat.zero_le 1,
      List.forall_mem_nil _⟩
  | nothing => exact ⟨_, [], (List.append_nil _).symm, .refl _, Nat.zero_le 1,
      List.forall_mem_nil _⟩

end

/-- The headers that are there are spelled as they were inserted last. -/
theorem lastInserted_edited {edits : List Edit} {e : Header} (he : e ∈ (edited edits).entries) :
    LastInserted edits e := by
  induction edits using List.reverseRecOn with
  | nil => exact absurd he List.not_mem_nil
  | append_singleton edits x ih =>
    rw [edited_concat] at he
    obtain hput | ⟨hkept, hother⟩ := mem_edit (shows_edited edits).sound he
    · exact .last hput
    · exact (ih hkept).concat hother

/-- The names that are there stand in the order of the edits since which they are present. -/
theorem ordered_edited (edits : List Edit) :
    ((edited edits).entries.map Header.key).Pairwise fun k k' =>
      ∀ i j, PresentSince edits k i → PresentSince edits k' j → i < j := by
  induction edits using List.reverseRecOn with
  | nil => exact .nil
  | append_singleton edits x ih =>
    have hshown := shows_edited edits
    obtain ⟨kept, fresh, hkeys, hkept, hfresh, hnew⟩ := (edited edits).keys_edit x
    -- What stood there before has been present since an earlier edit, and since the same one.
    have before {k : Text} (hk : k ∈ kept) {i : Nat} (hi : PresentSince (edits ++ [x]) k i) :
        PresentSince edits k i :=
      hi.of_concat ((hshown.mem_keys k).1 (hkept.subset hk))
    rw [edited_concat, hkeys, List.pairwise_append]
    refine ⟨?_, ?_, fun k hk k' hk' i j hi hj => ?_⟩
    · refine (ih.sublist hkept).imp_of_mem fun hk hk' hlt i j hi hj => ?_
      exact hlt i j (before hk hi) (before hk' hj)
    · cases fresh with
      | nil => exact .nil
      | cons k rest =>
        obtain rfl := List.length_eq_zero_iff.1 (Nat.le_zero.1 (Nat.le_of_succ_le_succ hfresh))
        exact List.pairwise_singleton _ k
    · have habsent : k' ∉ HeaderMap.ofEdits edits := mt (hshown.mem_keys k').2 (hnew k' hk')
      have hlt := (before hk hi).lt
      have hlast : j = edits.length := by
        refine hj.unique (.last habsent ?_)
        have hpresent := hj.present (edits ++ [x]).length hj.lt (Nat.le_refl _)
        rwa [List.take_length] at hpresent
      omega

/-- After any edits, headers stand as these have left them. -/
theorem stands_edited (edits : List Edit) : (edited edits).Stands edits where
  distinct := (shows_edited edits).sound.distinct
  present := (shows_edited edits).mem_keys
  spelled _ he := lastInserted_edited he
  since e he := exists_presentSince
    (((shows_edited edits).mem_keys e.key).1 (List.mem_map_of_mem he))
  ordered := List.pairwise_map.1 (ordered_edited edits)

end Headers

/-- Headers are an ordered map whose names are the same up to ASCII case. Let any edits have
been made, from no headers on, those that were refused and those that panicked included, and
let `m` be the finite map, keyed by names in small letters, that they amount to.

* What is found under a name, whether there is something, and what a removal answers are as
  the map has it; a value counts as not blank if something of it is left when it is trimmed.
* An insertion of a header that can be written is answered with the value that the map had
  under its name, be it one that may be refused or one that panics; any other insertion is
  refused, with an error or a panic, and leaves the headers as they were. What is left by an
  insertion or a removal is what is left by the edits with this one at their end.
* The headers that are listed are one for each name that is present, in the order of the
  edits since which the names are present; each is spelled, and has the value, as the last
  insertion under its name says. They are as many as there are names. -/
theorem headers_refine_map (edits : List Headers.Edit) :
    let h := Headers.edited edits
    let m := HeaderMap.ofEdits edits
    (∀ name,
      h.get? name = m.lookup (Text.foldCase name) ∧
      (h.contains name = true ↔ Text.foldCase name ∈ m) ∧
      (∀ value, h.getNonBlank? name = some value ↔
        m.lookup (Text.foldCase name) = some value ∧ Text.trim value ≠ []) ∧
      (Headers.takeOut name).run h =
        .ok (m.lookup (Text.foldCase name)) (Headers.edited (edits ++ [.takeOut name]))) ∧
    (∀ name value, if Header.Fits ⟨name, value⟩ then
        (Headers.tryInsert name value).run h =
          .ok (.ok (m.lookup (Text.foldCase name)))
            (Headers.edited (edits ++ [.tryInsert name value])) ∧
        (Headers.insertOrPanic name value).run h =
          .ok (m.lookup (Text.foldCase name))
            (Headers.edited (edits ++ [.insertOrPanic name value]))
      else ∃ error,
        (Headers.tryInsert name value).run h = .ok (.error error) h ∧
        (Headers.insertOrPanic name value).run h = .error (.text error.message) h) ∧
    h.Stands edits ∧
    h.size = m.keys.card ∧ (h.isEmpty = true ↔ m = ∅) := by
  intro h m
  have hshown : h.Shows m := Headers.shows_edited edits
  refine ⟨fun name => ⟨hshown.get?_eq name, hshown.contains_iff, fun value => ?_, ?_⟩,
    fun name value => ?_, Headers.stands_edited edits, hshown.card_keys.symm, ?_⟩
  · rw [Headers.getNonBlank?_eq_some_iff, hshown.get?_eq, ← Bool.not_eq_true,
      Text.isBlank_eq_true_iff_trim]
  · rw [Headers.run_takeOut, Headers.edited_concat, Headers.edit_eq, ← hshown.get?_eq]
    rfl
  · have hfound : m.lookup (Text.foldCase name) = h.get? name := (hshown.get?_eq name).symm
    split
    · rename_i hfits
      have heffect : ∀ x : Headers.Edit, x.effect = .put ⟨name, value⟩ →
          Headers.edited (edits ++ [x]) = ⟨(Headers.place ⟨name, value⟩ h.entries).1⟩ := by
        intro x hx
        rw [Headers.edited_concat, Headers.edit_eq, hx]
      rw [hfound, heffect (.tryInsert name value) (if_pos hfits),
        heffect (.insertOrPanic name value) (if_pos hfits)]
      exact ⟨Headers.run_tryInsert_of_fits hfits h, Headers.run_insertOrPanic_of_fits hfits h⟩
    · rename_i hfits
      exact Headers.exists_run_of_not_fits hfits h
  · exact hshown.isEmpty_iff

/-- Edits of headers with names that differ in more than ASCII case, and in that alone: one
is respelled where it stands and left blank, one is refused, and one is taken out and comes
in again. -/
def accented : List Headers.Edit :=
  [.tryInsert "É".toList "1".toList, .insertOrPanic "Host".toList "a".toList,
    .tryInsert "é".toList "2".toList, .tryInsert "HOST".toList " ".toList,
    .takeOut "É".toList, .insertOrPanic "a:b".toList "v".toList, .tryInsert "É".toList "3".toList]

/-- The name that came again stands at the end, and the one that was respelled where it
was. -/
theorem accented_refines_map :
    let h := Headers.edited accented
    h.entries = [⟨"HOST".toList, " ".toList⟩, ⟨"é".toList, "2".toList⟩, ⟨"É".toList, "3".toList⟩] ∧
      h.Stands accented ∧ (HeaderMap.ofEdits accented).keys.card = 3 ∧
      (HeaderMap.ofEdits accented).lookup "host".toList = some " ".toList ∧
      h.getNonBlank? "hOsT".toList = none ∧
      ∀ i j, PresentSince accented "é".toList i → PresentSince accented "É".toList j → i < j := by
  intro h
  have hentries : h.entries =
      [⟨"HOST".toList, " ".toList⟩, ⟨"é".toList, "2".toList⟩, ⟨"É".toList, "3".toList⟩] := by
    decide +kernel
  obtain ⟨hnames, -, hstands, hsize, -⟩ := headers_refine_map accented
  obtain ⟨hfound, -, hnonblank, -⟩ := hnames "hOsT".toList
  have hhost : (HeaderMap.ofEdits accented).lookup "host".toList = some " ".toList := by
    refine Eq.trans hfound.symm ?_
    decide +kernel
  refine ⟨hentries, hstands, ?_, hhost, ?_, ?_⟩
  · rw [← hsize, Headers.size]
    exact congrArg List.length hentries
  · refine Option.eq_none_iff_forall_ne_some.2 fun value hvalue => ?_
    obtain ⟨hlookup, hblank⟩ := (hnonblank value).1 hvalue
    obtain rfl := Option.some.inj (hhost.symm.trans hlookup)
    exact hblank rfl
  · have hordered := hstands.ordered
    rw [show (Headers.edited accented).entries = _ from hentries] at hordered
    exact List.rel_of_pairwise_cons (List.pairwise_cons.1 hordered).2 (List.mem_singleton_self _)

end Ssdp
