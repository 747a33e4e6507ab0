import Mathlib.Data.List.DropRight
import Ssdp.Text.Blank

/-!
# Trimming

A trimmed text is a part of the text it is taken from, and begins and ends with
no blank. Nothing is left of a text of blanks alone.

* `Text.isInfix_trim`: what trimming leaves is a part of the text;
* `Text.trim_trim`: it is not trimmed any further;
* `Text.isBlank_iff`, `Text.not_isBlank_iff`: a text is blank if all its characters
  are;
* `Text.trimEnd_append_blanks`, `Text.trim_append_blanks`: blanks at the end make no
  difference.
-/

namespace Ssdp.Text

theorem isPrefix_trimEnd (t : Text) : trimEnd t <+: t :=
  List.rdropWhile_prefix isBlankChar (l := t)

theorem isInfix_trim (t : Text) : trim t <:+: t :=
  (isPrefix_trimEnd (trimStart t)).isInfix.trans (List.dropWhile_suffix isBlankChar).isInfix

theorem mem_of_mem_trim {t : Text} {c : Char} (h : c ∈ trim t) : c ∈ t :=
  (isInfix_trim t).subset h

theorem length_trim_le (t : Text) : (trim t).length ≤ t.length :=
  (isInfix_trim t).length_le

theorem trim_eq_of_length_eq {t : Text} (h : (trim t).length = t.length) : trim t = t :=
  (isInfix_trim t).eq_of_length h

/-- A blank in front makes no difference. -/
theorem trim_cons_of_blank {c : Char} (h : isBlankChar c = true) (t : Text) :
    trim (c :: t) = trim t := by
  rw [trim, trim, trimStart, trimStart, List.dropWhile_cons_of_pos h]

theorem trim_eq_nil_iff {t : Text} : trim t = [] ↔ ∀ c ∈ t, isBlankChar c = true := by
  have hparts : t.takeWhile isBlankChar ++ trimStart t = t := List.takeWhile_append_dropWhile
  have hend : trim t = [] ↔ ∀ c ∈ trimStart t, isBlankChar c = true :=
    List.rdropWhile_eq_nil_iff
  rw [hend]
  constructor
  · intro h c hc
    rw [← hparts, List.mem_append] at hc
    rcases hc with hc | hc
    · exact List.mem_takeWhile_imp hc
    · exact h c hc
  · intro h c hc
    exact h c ((List.dropWhile_suffix isBlankChar).subset hc)

/-- A text is blank if it consists of blanks. -/
theorem isBlank_iff {t : Text} : isBlank t = true ↔ ∀ c ∈ t, isBlankChar c = true := by
  rw [isBlank, List.isEmpty_iff, trim_eq_nil_iff]

/-- A text is not blank if one of its characters is no blank. -/
theorem not_isBlank_iff {t : Text} : ¬isBlank t = true ↔ ∃ c ∈ t, isBlankChar c = false := by
  rw [isBlank_iff]
  simp

theorem isBlank_eq_true_iff_trim {t : Text} : isBlank t = true ↔ trim t = [] := by
  rw [isBlank, List.isEmpty_iff]

/-- No blank is left in front after trimming. -/
theorem trimStart_trim (t : Text) : trimStart (trim t) = trim t := by
  obtain ⟨after, hafter⟩ := isPrefix_trimEnd (trimStart t)
  have hstart : trimStart (trimStart t) = trimStart t :=
    List.dropWhile_idempotent isBlankChar t
  rw [← hafter] at hstart
  change trimStart (trim t ++ after) = trim t ++ after at hstart
  cases htrim : trim t with
  | nil => rfl
  | cons c cs =>
    rw [htrim] at hstart
    have hc : ¬isBlankChar c = true := by
      intro hc
      have hlength := congrArg List.length hstart
      rw [List.cons_append, trimStart, List.dropWhile_cons_of_pos hc] at hlength
      have hle := (List.dropWhile_suffix isBlankChar (l := cs ++ after)).length_le
      simp only [List.length_cons] at hlength
      omega
    exact List.dropWhile_cons_of_neg hc

theorem trim_trim (t : Text) : trim (trim t) = trim t := by
  have hend : trimEnd (trim t) = trim t :=
    List.rdropWhile_idempotent isBlankChar (trimStart t)
  rw [trim, trimStart_trim]
  exact hend

/-- Trimming makes no text blank. -/
theorem isBlank_trim (t : Text) : isBlank (trim t) = isBlank t := by
  rw [isBlank, trim_trim, ← isBlank]

/-! ## Blanks at the end -/

section

variable {w : Text}

theorem trimEnd_append_blanks (s : Text) (h : ∀ c ∈ w, isBlankChar c = true) :
    trimEnd (s ++ w) = trimEnd s := by
  have hreverse : ∀ c ∈ w.reverse, isBlankChar c = true := fun c hc => h c (List.mem_reverse.1 hc)
  rw [trimEnd, trimEnd, dropWhileEnd, dropWhileEnd, List.reverse_append,
    List.dropWhile_append_of_pos hreverse]

theorem trim_append_blanks (s : Text) (h : ∀ c ∈ w, isBlankChar c = true) :
    trim (s ++ w) = trim s := by
  induction s with
  | nil => exact trim_eq_nil_iff.2 h
  | cons c cs ih =>
    by_cases hc : isBlankChar c = true
    · rw [List.cons_append, trim_cons_of_blank hc, trim_cons_of_blank hc, ih]
    · have hstart (rest : Text) : trimStart (c :: rest) = c :: rest :=
        List.dropWhile_cons_of_neg hc
      rw [trim, trim, hstart, List.cons_append, hstart, ← List.cons_append,
        trimEnd_append_blanks _ h]

/-- A text is its trimmed part with blanks behind it. -/
theorem exists_eq_trimEnd_append (t : Text) :
    ∃ w, (∀ c ∈ w, isBlankChar c = true) ∧ t = trimEnd t ++ w :=
  ⟨t.rtakeWhile isBlankChar, fun _ hc => List.mem_rtakeWhile_imp hc,
    List.rdropWhile_append_rtakeWhile.symm⟩

theorem trim_trimEnd (t : Text) : trim (trimEnd t) = trim t := by
  obtain ⟨w, hw, ht⟩ := exists_eq_trimEnd_append t
  conv_rhs => rw [ht]
  exact (trim_append_blanks _ hw).symm

theorem isBlank_trimEnd (t : Text) : isBlank (trimEnd t) = isBlank t := by
  rw [isBlank, trim_trimEnd, ← isBlank]

end

end Ssdp.Text
