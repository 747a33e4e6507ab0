import Mathlib.Data.List.Infix
import Ssdp.Proofs.Text.Decimal

/-!
# Words in a text

Where a word first occurs in a text, and what ignoring ASCII case leaves alone. A word
whose first letter does not come again in it has no two occurrences that overlap, so that
no occurrence begins before the first one is over.

* `Text.Mentions`: a word occurs in a text in whatever case, and `Text.mentions_iff`: it
  does so in small letters;
* `Text.afterFirst_eq_some_iff`: what follows the first occurrence of a word;
* `isBlankChar_toLower`, `Text.isDigitChar_toLower`: blanks and digits have no case.
-/

namespace Ssdp

/-! ## Characters without case -/

theorem toNat_toLower (c : Char) :
    c.toLower.toNat = if 65 ≤ c.toNat ∧ c.toNat ≤ 90 then c.toNat + 32 else c.toNat := by
  have hcapital : c.val ≥ 'A'.val ∧ c.val ≤ 'Z'.val ↔ 65 ≤ c.toNat ∧ c.toNat ≤ 90 := by
    simp only [ge_iff_le, UInt32.le_iff_toNat_le]
    rfl
  by_cases h : 65 ≤ c.toNat ∧ c.toNat ≤ 90
  · have hlower : c.toLower.toNat = (c.val + 32).toNat :=
      congrArg Char.toNat (dif_pos (hcapital.2 h))
    have hval : (c.val + 32).toNat = (c.toNat + 32) % 2 ^ 32 := UInt32.toNat_add c.val 32
    rw [if_pos h, hlower, hval]
    omega
  · have hsame : c.toLower = c := dif_neg (mt hcapital.1 h)
    rw [if_neg h, hsame]

theorem isBlankChar_toLower (c : Char) : isBlankChar c.toLower = isBlankChar c := by
  rw [Bool.eq_iff_iff]
  simp only [isBlankChar, toNat_toLower, Bool.or_eq_true, Bool.and_eq_true, decide_eq_true_eq,
    beq_iff_eq]
  split <;> omega

/-- The only character whose small letter is the equals sign is the sign itself. -/
theorem toLower_eq_equals_iff {c : Char} : c.toLower = '=' ↔ c = '=' := by
  rw [← Char.toNat_inj, ← Char.toNat_inj, toNat_toLower]
  show (if 65 ≤ c.toNat ∧ c.toNat ≤ 90 then c.toNat + 32 else c.toNat) = 61 ↔ c.toNat = 61
  split <;> omega

namespace Text

theorem isDigitChar_toLower (c : Char) : isDigitChar c.toLower = isDigitChar c := by
  rw [Bool.eq_iff_iff, isDigitChar_iff, isDigitChar_iff, toNat_toLower]
  split <;> omega

theorem trimStart_foldCase (t : Text) : trimStart (foldCase t) = foldCase (trimStart t) := by
  have hblank : isBlankChar ∘ Char.toLower = isBlankChar := funext isBlankChar_toLower
  rw [trimStart, foldCase, List.dropWhile_map, hblank]
  rfl

/-- A run of digits is the same in small letters. -/
theorem takeWhile_isDigitChar_foldCase (t : Text) :
    (foldCase t).takeWhile isDigitChar = t.takeWhile isDigitChar := by
  have hdigit : isDigitChar ∘ Char.toLower = isDigitChar := funext isDigitChar_toLower
  rw [foldCase, List.takeWhile_map, hdigit]
  refine (List.map_congr_left fun c hc => ?_).trans (List.map_id _)
  exact toLower_of_isDigitChar (List.mem_takeWhile_imp hc)

theorem foldCase_append (s t : Text) : foldCase (s ++ t) = foldCase s ++ foldCase t :=
  List.map_append

/-! ## Occurrences -/

/-- A word occurs in a text, in whatever case. -/
def Mentions (word t : Text) : Prop :=
  ∃ before spelled after, t = before ++ spelled ++ after ∧ sameName spelled word = true

theorem mentions_iff {word t : Text} : Mentions word t ↔ foldCase word <:+: foldCase t := by
  constructor
  · rintro ⟨before, spelled, after, rfl, hsame⟩
    refine ⟨foldCase before, foldCase after, ?_⟩
    rw [foldCase_append, foldCase_append, sameName_iff.1 hsame]
  · rintro ⟨first, last, heq⟩
    obtain ⟨start, after, rfl, hstart, -⟩ := List.map_eq_append_iff.1 heq.symm
    obtain ⟨before, spelled, rfl, -, hspelled⟩ := List.map_eq_append_iff.1 hstart
    exact ⟨before, spelled, after, rfl, sameName_iff.2 hspelled⟩

theorem any_tails_isPrefixOf_iff {s t : Text} : t.tails.any s.isPrefixOf = true ↔ s <:+: t := by
  simp only [List.any_eq_true, List.mem_tails, List.isPrefixOf_iff_prefix,
    List.infix_iff_prefix_suffix, and_comm]

-- by the ends of the text, since the search for an infix folds the text again at each of them
instance (word t : Text) : Decidable (Mentions word t) :=
  decidable_of_iff ((foldCase t).tails.any (foldCase word).isPrefixOf = true)
    (any_tails_isPrefixOf_iff.trans mentions_iff.symm)

section

variable {c : Char} {cs before after : Text}

/-- A word whose first letter does not come again in it occurs in front of another one only
before that begins. -/
theorem isPrefix_of_isPrefix_append (h : c ∉ cs) (hne : before ≠ [])
    (hfront : c :: cs <+: before ++ (c :: cs) ++ after) : c :: cs <+: before := by
  rw [List.append_assoc] at hfront
  rcases List.prefix_or_prefix_of_prefix hfront (List.prefix_append before _) with hin | hover
  · exact hin
  · obtain ⟨rest, hrest⟩ := hover
    cases rest with
    | nil => exact ⟨[], by rw [List.append_nil, ← hrest, List.append_nil]⟩
    | cons d ds =>
      -- the second word would begin within the first one
      have hsecond : before ++ d :: ds <+: before ++ (c :: cs ++ after) := hrest.symm ▸ hfront
      rw [List.prefix_append_right_inj] at hsecond
      obtain ⟨rfl, -⟩ := List.cons_prefix_cons.1 hsecond
      cases before with
      | nil => exact absurd rfl hne
      | cons b bs =>
        obtain ⟨-, rfl⟩ := List.cons.inj hrest
        exact absurd (List.mem_append_right bs List.mem_cons_self) h

/-- The first occurrence of a word is the one that has no other before it. -/
theorem afterFirst_eq_some_iff (h : c ∉ cs) {t : Text} : afterFirst (c :: cs) t = some after ↔
    ∃ before, t = before ++ (c :: cs) ++ after ∧ ¬c :: cs <:+: before := by
  constructor
  · intro hfirst
    induction t with
    | nil => cases hfirst
    | cons d ds ih =>
      rw [afterFirst] at hfirst
      by_cases hfront : (c :: cs).isPrefixOf (d :: ds) = true
      · rw [if_pos hfront] at hfirst
        obtain ⟨rest, hrest⟩ := List.isPrefixOf_iff_prefix.1 hfront
        rw [← hrest, List.drop_left] at hfirst
        obtain rfl := Option.some.inj hfirst
        exact ⟨[], hrest.symm, by simp⟩
      · rw [if_neg hfront] at hfirst
        obtain ⟨before, rfl, hnot⟩ := ih hfirst
        refine ⟨d :: before, rfl, fun hinfix => ?_⟩
        rcases List.infix_cons_iff.1 hinfix with hin | hin
        · have hwhole : d :: before <+: d :: (before ++ (c :: cs) ++ after) :=
            ⟨c :: cs ++ after, by simp⟩
          exact hfront (List.isPrefixOf_iff_prefix.2 (hin.trans hwhole))
        · exact hnot hin
  · rintro ⟨before, rfl, hnot⟩
    induction before with
    | nil => exact afterFirst_append (c :: cs) after
    | cons d ds ih =>
      have hfront : ¬(c :: cs).isPrefixOf (d :: ds ++ (c :: cs) ++ after) = true := by
        intro hfront
        have hin := isPrefix_of_isPrefix_append h (List.cons_ne_nil d ds)
          (List.isPrefixOf_iff_prefix.1 hfront)
        exact hnot hin.isInfix
      simp only [List.cons_append] at hfront ⊢
      rw [afterFirst, if_neg hfront]
      exact ih fun hin => hnot (List.infix_cons hin)

end

end Text

end Ssdp
