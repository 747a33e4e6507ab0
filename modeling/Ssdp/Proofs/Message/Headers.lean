import Mathlib.Data.List.Induction
import Ssdp.Message.Headers

/-!
# Headers as a map

Headers that are changed only through their operations hold headers that can be
written, and no name twice (`Headers.Sound`). Placing headers one after the
other keeps, for every name, the place of the first and the spelling and the
value of the last:

* `find_eraseP`: a removal takes one name out, and no other;
* `find_placeAll`: what is found under a name is the last header placed with it;
* `keys_placeAll`: names stand in the order in which they first came;
* `placeAll_of_distinct`: without repeated names, nothing is replaced;
* `insertAll_eq`: inserting headers that can be written is placing them;
* `Built.sound`: headers that were built are sound.
-/

namespace Ssdp

/-- What a header is looked up by: its name in small letters. -/
def Header.key (e : Header) : Text :=
  Text.foldCase e.name

namespace Headers

/-- The header found under a name. -/
def find (name : Text) (es : List Header) : Option Header :=
  es.find? fun e => Text.sameName e.name name

theorem get?_eq (h : Headers) (name : Text) :
    h.get? name = (find name h.entries).map (·.value) := rfl

theorem sameName_iff_key {e : Header} {name : Text} :
    Text.sameName e.name name = true ↔ e.key = Text.foldCase name :=
  Text.sameName_iff

/-- There is a header with a name if the name is there in some spelling. -/
theorem contains_iff_mem_keys {h : Headers} {name : Text} :
    h.contains name = true ↔ Text.foldCase name ∈ h.entries.map Header.key := by
  simp only [contains, List.any_eq_true, List.mem_map, sameName_iff_key]

theorem any_isLineBreak_iff {t : Text} : t.any isLineBreak = true ↔ '\r' ∈ t ∨ '\n' ∈ t := by
  simp only [List.any_eq_true, isLineBreak, Bool.or_eq_true, beq_iff_eq, and_or_left, exists_or,
    exists_eq_right]

theorem any_colon_or_isLineBreak_iff {t : Text} :
    (t.any fun c => c == ':' || isLineBreak c) = true ↔ ':' ∈ t ∨ '\r' ∈ t ∨ '\n' ∈ t := by
  simp only [List.any_eq_true, isLineBreak, Bool.or_eq_true, beq_iff_eq, and_or_left, exists_or,
    exists_eq_right]

/-- A header can be written if its name is not empty and has no colon, and neither
side has a line break. -/
theorem fault?_eq_none_iff {name value : Text} : fault? name value = none ↔
    name ≠ [] ∧ ':' ∉ name ∧ ('\r' ∉ name ∧ '\n' ∉ name) ∧ '\r' ∉ value ∧ '\n' ∉ value := by
  simp only [fault?, List.isEmpty_iff, any_colon_or_isLineBreak_iff, any_isLineBreak_iff]
  split_ifs <;> grind

/-- Line breaks are blanks, so a value without blanks can be written. -/
theorem fault?_of_forall_not_blank {name value : Text} (hname : fault? name [] = none)
    (h : ∀ c ∈ value, isBlankChar c = false) : fault? name value = none := by
  obtain ⟨hne, hcolon, hbreaks, -⟩ := fault?_eq_none_iff.1 hname
  refine fault?_eq_none_iff.2 ⟨hne, hcolon, hbreaks, fun hcr => ?_, fun hlf => ?_⟩
  · exact absurd (h _ hcr) (by decide)
  · exact absurd (h _ hlf) (by decide)

/-- Where names are distinct, every header is found under its own. -/
theorem find_of_mem {e : Header} {es : List Header} (hd : (es.map Header.key).Nodup) (h : e ∈ es) :
    find e.name es = some e := by
  induction es with
  | nil => exact (List.not_mem_nil h).elim
  | cons e' rest ih =>
    obtain ⟨hnot, hd⟩ := List.nodup_cons.1 hd
    rcases List.mem_cons.1 h with rfl | h
    · simp [find, Text.sameName_refl]
    · have hne : ¬Text.sameName e'.name e.name = true := fun hsame =>
        hnot (List.mem_map.2 ⟨e, h, (sameName_iff_key.1 hsame).symm⟩)
      simpa [find, hne] using ih hd h

/-! ## Placing one header -/

section Place

variable {x e : Header} {es : List Header} {name : Text}

theorem find_place : find name (place x es).1 =
    if Text.sameName x.name name then some x else find name es := by
  induction es with
  | nil => by_cases h : Text.sameName x.name name <;> simp [place, find, h]
  | cons e rest ih =>
    simp only [find] at ih
    by_cases he : Text.sameName e.name x.name
    · have hsame : Text.sameName e.name name = Text.sameName x.name name := by
        rw [Bool.eq_iff_iff, sameName_iff_key, sameName_iff_key, sameName_iff_key.1 he]
        rfl
      by_cases h : Text.sameName x.name name <;> simp [place, find, he, h, hsame]
    · by_cases h : Text.sameName e.name name
      · have hx : ¬Text.sameName x.name name = true := by
          intro hx
          refine he (sameName_iff_key.2 ?_)
          exact (sameName_iff_key.1 h).trans (sameName_iff_key.1 hx).symm
        simp [place, find, he, h, hx]
      · simp [place, find, he, h, ih]

/-- What a header replaces is what is found under its name. -/
theorem place_snd (x : Header) (es : List Header) :
    (place x es).2 = (find x.name es).map (·.value) := by
  induction es with
  | nil => rfl
  | cons e rest ih =>
    by_cases he : Text.sameName e.name x.name
    · simp [place, find, he]
    · simpa [place, find, he] using ih

/-- The names stay where they are; a new one goes to the end. -/
theorem keys_place : (place x es).1.map Header.key =
    if x.key ∈ es.map Header.key then es.map Header.key else es.map Header.key ++ [x.key] := by
  induction es with
  | nil => rfl
  | cons e rest ih =>
    by_cases he : Text.sameName e.name x.name
    · have hkey : e.key = x.key := sameName_iff_key.1 he
      simp [place, he, hkey]
    · have hkey : x.key ≠ e.key := fun h => he (sameName_iff_key.2 h.symm)
      simp only [place, he, if_false, List.map_cons, ih, List.mem_cons, hkey, false_or,
        Bool.false_eq_true]
      split <;> rfl

theorem mem_place (h : e ∈ (place x es).1) : e = x ∨ e ∈ es := by
  induction es with
  | nil => exact .inl (List.mem_singleton.1 h)
  | cons e' rest ih =>
    by_cases he : Text.sameName e'.name x.name
    · simp only [place, he, if_true, List.mem_cons] at h
      exact h.imp id (List.mem_cons_of_mem _)
    · simp only [place, he, if_false, List.mem_cons, Bool.false_eq_true] at h
      rcases h with rfl | h
      · exact .inr List.mem_cons_self
      · exact (ih h).imp id (List.mem_cons_of_mem _)

theorem place_of_not_mem (h : x.key ∉ es.map Header.key) : (place x es).1 = es ++ [x] := by
  induction es with
  | nil => rfl
  | cons e rest ih =>
    simp only [List.map_cons, List.mem_cons, not_or] at h
    have he : ¬Text.sameName e.name x.name = true := fun he => h.1 (sameName_iff_key.1 he).symm
    simp [place, he, ih h.2]

theorem nodup_keys_place (h : (es.map Header.key).Nodup) :
    ((place x es).1.map Header.key).Nodup := by
  rw [keys_place]
  split
  · exact h
  · rename_i hx
    refine List.nodup_append.2 ⟨h, by simp, fun a ha b hb => ?_⟩
    rintro rfl
    exact hx (List.mem_singleton.1 hb ▸ ha)

end Place

/-! ## Taking a header out -/

section TakeOut

variable {es : List Header} {name : Text}

/-- A removal takes the name out of those that are there. -/
theorem keys_eraseP (es : List Header) (name : Text) :
    (es.eraseP fun e => Text.sameName e.name name).map Header.key =
      (es.map Header.key).erase (Text.foldCase name) := by
  rw [List.erase_eq_eraseP, List.eraseP_map]
  congr 2
  funext e
  rw [Bool.eq_iff_iff, sameName_iff_key, Function.comp_apply, beq_iff_eq, eq_comm]

/-- Names other than the one that is removed are found as before. -/
theorem find_eraseP_of_ne {q : Text} (hq : Text.foldCase q ≠ Text.foldCase name) :
    find q (es.eraseP fun e => Text.sameName e.name name) = find q es := by
  induction es with
  | nil => rfl
  | cons e rest ih =>
    by_cases he : Text.sameName e.name name
    · have hne : ¬Text.sameName e.name q = true := fun hsame =>
        hq ((sameName_iff_key.1 hsame).symm.trans (sameName_iff_key.1 he))
      simp [find, he, hne]
    · simp only [find] at ih ⊢
      simp only [List.eraseP_cons, he, cond_false, List.find?_cons, ih]

/-- After a removal the name is not found, and all others are found as before. -/
theorem find_eraseP (hd : (es.map Header.key).Nodup) (q : Text) :
    find q (es.eraseP fun e => Text.sameName e.name name) =
      if Text.foldCase q = Text.foldCase name then none else find q es := by
  split
  · rename_i hq
    refine List.find?_eq_none.2 fun e he hsame => ?_
    have hmem := List.mem_map_of_mem (f := Header.key) he
    rw [keys_eraseP, sameName_iff_key.1 hsame, hq] at hmem
    exact hd.not_mem_erase hmem
  · rename_i hq
    exact find_eraseP_of_ne hq

end TakeOut

/-! ## Placing headers one after the other -/

/-- The headers with more headers placed one after the other. -/
def placeAll (es hs : List Header) : List Header :=
  hs.foldl (fun es x => (place x es).1) es

section PlaceAll

variable {e : Header} {es hs : List Header} {name : Text}

theorem placeAll_cons (es : List Header) (x : Header) (hs : List Header) :
    placeAll es (x :: hs) = placeAll (place x es).1 hs := rfl

/-- What is found under a name is the last header placed with it. -/
theorem find_placeAll : find name (placeAll es hs) = (find name hs.reverse).or (find name es) := by
  induction hs generalizing es with
  | nil => rfl
  | cons x rest ih =>
    rw [placeAll_cons, ih, find_place, List.reverse_cons]
    simp only [find, List.find?_append, Option.or_assoc]
    by_cases hx : Text.sameName x.name name <;> simp [hx]

theorem find_placeAll_nil : find name (placeAll [] hs) = find name hs.reverse := by
  rw [find_placeAll]
  exact Option.or_none

theorem nodup_keys_placeAll (h : (es.map Header.key).Nodup) :
    ((placeAll es hs).map Header.key).Nodup := by
  induction hs generalizing es with
  | nil => exact h
  | cons x rest ih => exact ih (nodup_keys_place h)

theorem keys_placeAll_append (es hs : List Header) (x : Header) :
    (placeAll es (hs ++ [x])).map Header.key =
      if x.key ∈ (placeAll es hs).map Header.key then (placeAll es hs).map Header.key
      else (placeAll es hs).map Header.key ++ [x.key] := by
  rw [placeAll, List.foldl_append]
  exact keys_place

/-- Names stand in the order in which they first came. -/
theorem keys_placeAll (hs : List Header) :
    (placeAll [] hs).map Header.key = (hs.map Header.key).eraseDups := by
  induction hs using List.reverseRecOn with
  | nil => rfl
  | append_singleton hs x ih =>
    rw [keys_placeAll_append, ih, List.map_append, List.map_singleton, List.eraseDups_append]
    simp only [List.mem_eraseDups]
    by_cases hx : x.key ∈ hs.map Header.key
    · have hnone : [x.key].removeAll (hs.map Header.key) = [] := by
        simpa [List.removeAll] using hx
      rw [if_pos hx, hnone, List.eraseDups_nil, List.append_nil]
    · have hone : [x.key].removeAll (hs.map Header.key) = [x.key] := by
        simpa [List.removeAll] using hx
      rw [if_neg hx, hone]
      rfl

/-- Every header that is there is spelled as in the last one placed with its name. -/
theorem find_reverse_of_mem_placeAll (h : e ∈ placeAll [] hs) :
    find e.name hs.reverse = some e := by
  have hdistinct : ((placeAll [] hs).map Header.key).Nodup := nodup_keys_placeAll List.nodup_nil
  rw [← find_placeAll_nil]
  exact find_of_mem hdistinct h

theorem mem_placeAll (h : e ∈ placeAll es hs) : e ∈ es ∨ e ∈ hs := by
  induction hs generalizing es with
  | nil => exact .inl h
  | cons x rest ih =>
    rcases ih h with h | h
    · rcases mem_place h with rfl | h
      · exact .inr List.mem_cons_self
      · exact .inl h
    · exact .inr (List.mem_cons_of_mem _ h)

/-- Without repeated names nothing is replaced. -/
theorem placeAll_of_distinct (h : ((es ++ hs).map Header.key).Nodup) :
    placeAll es hs = es ++ hs := by
  induction hs generalizing es with
  | nil => exact (List.append_nil es).symm
  | cons x rest ih =>
    have hx : x.key ∉ es.map Header.key := by
      rw [List.map_append, List.nodup_append] at h
      exact fun hm => h.2.2 _ hm _ List.mem_cons_self rfl
    rw [placeAll_cons, place_of_not_mem hx, ih, List.append_assoc, List.singleton_append]
    rwa [List.append_assoc, List.singleton_append]

end PlaceAll

/-- Inserting headers that can be written is placing them one after the other. -/
theorem insertAll_eq {pairs : List (Text × Text)} (h : ∀ p ∈ pairs, fault? p.1 p.2 = none)
    (hs : Headers) : hs.insertAll pairs =
      .ok ⟨placeAll hs.entries (pairs.map fun p => ⟨p.1, p.2⟩)⟩ := by
  induction pairs generalizing hs with
  | nil => rfl
  | cons p rest ih =>
    obtain ⟨hp, hrest⟩ := List.forall_mem_cons.1 h
    simp only [insertAll, insert, hp]
    exact ih hrest _

/-- Headers can be passed on as pairs. -/
theorem map_pairs (es : List Header) :
    (es.map fun e => (e.name, e.value)).map (fun p => Header.mk p.1 p.2) = es := by
  rw [List.map_map]
  exact List.map_id _

/-! ## Headers that were built -/

/-- Every header can be written, and no name is there twice. -/
structure Sound (h : Headers) : Prop where
  valid : ∀ e ∈ h.entries, fault? e.name e.value = none
  distinct : (h.entries.map Header.key).Nodup

/-- Headers that come from none at all by accepted insertions and by removals. -/
inductive Built : Headers → Prop
  | empty : Built empty
  | insert {h h' : Headers} {name value : Text} {old : Option Text} (hb : Built h)
    (hi : h.insert name value = .ok (h', old)) : Built h'
  | remove {h : Headers} (hb : Built h) (name : Text) : Built (h.remove name).1

theorem sound_empty : Sound empty :=
  ⟨fun _ h => (List.not_mem_nil h).elim, List.nodup_nil⟩

/-- Sound headers are what comes of inserting them one after the other. -/
theorem Sound.insertAll_entries {h : Headers} (hs : h.Sound) :
    empty.insertAll (h.entries.map fun e => (e.name, e.value)) = .ok h := by
  have hplaced : placeAll [] h.entries = h.entries := placeAll_of_distinct hs.distinct
  rw [insertAll_eq (List.forall_mem_map.2 hs.valid), map_pairs]
  exact congrArg (fun entries => Except.ok (Headers.mk entries)) hplaced

theorem Sound.insert {h h' : Headers} {name value : Text} {old : Option Text} (hs : h.Sound)
    (hi : h.insert name value = .ok (h', old)) : h'.Sound := by
  unfold Headers.insert at hi
  split at hi
  · cases hi
  · rename_i hvalid
    obtain ⟨rfl, -⟩ := Prod.mk.inj (Except.ok.inj hi)
    refine ⟨fun e he => ?_, nodup_keys_place hs.distinct⟩
    rcases mem_place he with rfl | he
    · exact hvalid
    · exact hs.valid e he

theorem Sound.remove {h : Headers} (hs : h.Sound) (name : Text) : (h.remove name).1.Sound :=
  ⟨fun e he => hs.valid e (List.mem_of_mem_eraseP he),
    hs.distinct.sublist (List.eraseP_sublist.map _)⟩

theorem Built.sound {h : Headers} (hb : h.Built) : h.Sound := by
  induction hb with
  | empty => exact sound_empty
  | insert _ hi ih => exact ih.insert hi
  | remove _ name ih => exact ih.remove name

end Headers

end Ssdp
