/-!
# Text

Text is a list of characters: it is read, cut and compared character by
character, and every question about it is settled by recursion on the list.
This module has the operations that ignore ASCII case and the search for a
first occurrence.

* `sameName`: equality that ignores ASCII case;
* `afterFirst`: what follows the first occurrence of a word;
* `splitAtFirst`: the two sides of the first occurrence of a character.
-/

namespace Ssdp

/-- A text, character by character. -/
abbrev Text := List Char

namespace Text

/-- The text with its ASCII capitals replaced by small letters; no other
character changes. -/
def foldCase (t : Text) : Text :=
  t.map Char.toLower

/-- Whether two texts are equal up to ASCII case. -/
def sameName : Text → Text → Bool
  | [], [] => true
  | a :: as, b :: bs => a.toLower == b.toLower && sameName as bs
  | _, _ => false

/-- What follows the first occurrence of `word`, if there is one. -/
def afterFirst (word : Text) : Text → Option Text
  | [] => if word.isEmpty then some [] else none
  | c :: cs =>
    if word.isPrefixOf (c :: cs) then some ((c :: cs).drop word.length)
    else afterFirst word cs

/-- The text before the first `mark` and the text after it. -/
def splitAtFirst (mark : Char) : Text → Option (Text × Text)
  | [] => none
  | c :: cs =>
    if c = mark then some ([], cs)
    else (splitAtFirst mark cs).map fun (before, after) => (c :: before, after)

/-- The text without its longest suffix of characters satisfying `p`. -/
def dropWhileEnd (p : Char → Bool) (t : Text) : Text :=
  (t.reverse.dropWhile p).reverse

/-- The pieces between the occurrences of `mark`; there is always at least
one piece. -/
def splitOnChar (mark : Char) : Text → List Text
  | [] => [[]]
  | c :: cs =>
    match splitOnChar mark cs with
    | [] => [[c]]
    | piece :: pieces => if c = mark then [] :: piece :: pieces else (c :: piece) :: pieces

theorem sameName_iff {a b : Text} : sameName a b = true ↔ foldCase a = foldCase b := by
  induction a generalizing b with
  | nil => cases b <;> simp [sameName, foldCase]
  | cons c cs ih =>
    cases b with
    | nil => simp [sameName, foldCase]
    | cons d ds => simp [sameName, ih, foldCase]

theorem sameName_refl (a : Text) : sameName a a = true :=
  sameName_iff.2 rfl

theorem sameName_comm (a b : Text) : sameName a b = sameName b a := by
  rw [Bool.eq_iff_iff, sameName_iff, sameName_iff, eq_comm]

/-- The two sides of a split, joined by the mark again, are the text, and the
mark does not occur on the left. -/
theorem splitAtFirst_eq_some_iff {mark : Char} {t before after : Text} :
    splitAtFirst mark t = some (before, after) ↔
      t = before ++ mark :: after ∧ mark ∉ before := by
  induction t generalizing before with
  | nil => simp [splitAtFirst]
  | cons c cs ih =>
    by_cases h : c = mark
    · subst h
      simp only [splitAtFirst, if_true, Option.some.injEq, Prod.mk.injEq]
      constructor
      · rintro ⟨rfl, rfl⟩
        simp
      · rintro ⟨heq, hnot⟩
        cases before with
        | nil => simpa using heq
        | cons d ds => simp_all
    · simp only [splitAtFirst, h, if_false, Option.map_eq_some_iff, Prod.exists, Prod.mk.injEq]
      constructor
      · rintro ⟨b, a, hs, rfl, rfl⟩
        obtain ⟨rfl, hb⟩ := ih.1 hs
        simp [hb, Ne.symm h]
      · rintro ⟨heq, hnot⟩
        cases before with
        | nil => simp_all
        | cons d ds =>
          simp only [List.cons_append, List.cons.injEq] at heq
          refine ⟨ds, after, ih.2 ⟨heq.2, fun hd => hnot (List.mem_cons_of_mem d hd)⟩, ?_, rfl⟩
          rw [heq.1]

end Text

end Ssdp
