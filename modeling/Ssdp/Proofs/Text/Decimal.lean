import Ssdp.Message.MaxAge
import Ssdp.Proofs.Text.Trim

/-!
# Numbers written and read

The decimal digits of a number have that number as their value, and are no blanks; so
an age limit that is written in decimal is read as it was meant.

* `Text.valueOf?_decimal`: a number is read from its digits;
* `Text.IsDecimal.eq_decimal`: no other digits without a zero in front are read as this number;
* `maxAge?_decimal`: an age limit is read from the directive that names it.
-/

namespace Ssdp

namespace Text

theorem isDigitChar_of_mem_decimal {n : Nat} {c : Char} (h : c ∈ decimal n) :
    isDigitChar c = true := by
  have hdigit : c.isDigit = true :=
    Nat.isDigit_of_mem_toDigits (by decide) (by decide) h
  simpa [isDigitChar, Char.isDigit, Char.le_def] using hdigit

theorem isDigitChar_iff {c : Char} : isDigitChar c = true ↔ 48 ≤ c.toNat ∧ c.toNat ≤ 57 := by
  simp only [isDigitChar, Bool.and_eq_true, decide_eq_true_eq, Char.le_def,
    UInt32.le_iff_toNat_le]
  rfl

/-- A digit is no blank. -/
theorem isBlankChar_of_isDigitChar {c : Char} (h : isDigitChar c = true) :
    isBlankChar c = false := by
  rw [isDigitChar_iff] at h
  simp only [isBlankChar, Bool.or_eq_false_iff, Bool.and_eq_false_iff, decide_eq_false_iff_not,
    beq_eq_false_iff_ne, ne_eq]
  omega

theorem isBlankChar_of_mem_decimal {n : Nat} {c : Char} (h : c ∈ decimal n) :
    isBlankChar c = false :=
  isBlankChar_of_isDigitChar (isDigitChar_of_mem_decimal h)

/-- A digit is no capital letter. -/
theorem toLower_of_isDigitChar {c : Char} (h : isDigitChar c = true) : c.toLower = c := by
  have hbounds := isDigitChar_iff.1 h
  have hcapital : ¬(c.val ≥ 65 ∧ c.val ≤ 90) := by
    simp only [ge_iff_le, UInt32.le_iff_toNat_le, not_and, not_le]
    intro hge
    change 65 ≤ c.toNat at hge
    omega
  exact dif_neg hcapital

/-- A digit has its value in base ten. -/
theorem digitValue?_of_isDigitChar {c : Char} (h : isDigitChar c = true) :
    digitValue? 10 c = some (c.toNat - '0'.toNat) := by
  have hle : c.toNat - '0'.toNat < 10 := by
    have hbounds := isDigitChar_iff.1 h
    show c.toNat - 48 < 10
    omega
  have hdigit : ('0' ≤ c && c ≤ '9') = true := h
  simp only [digitValue?, hdigit, if_true]
  exact Option.filter_eq_some_iff.2 ⟨rfl, decide_eq_true hle⟩

theorem valueOf?_of_digits {t : Text} (h : ∀ c ∈ t, isDigitChar c = true) :
    valueOf? 10 t = some (Nat.ofDigitChars 10 t 0) := by
  suffices hall : ∀ n, t.foldlM (fun n c => (digitValue? 10 c).map (n * 10 + ·)) n =
      some (Nat.ofDigitChars 10 t n) from hall 0
  induction t with
  | nil => exact fun n => rfl
  | cons c rest ih =>
    intro n
    obtain ⟨hc, hrest⟩ := List.forall_mem_cons.1 h
    rw [List.foldlM_cons, digitValue?_of_isDigitChar hc]
    simp only [Option.map_some, Option.bind_eq_bind, Option.bind_some, ih hrest]
    rw [Nat.ofDigitChars_cons, Nat.mul_comm]

/-- A number is read from its digits. -/
theorem valueOf?_decimal (n : Nat) : valueOf? 10 (decimal n) = some n := by
  rw [valueOf?_of_digits fun c => isDigitChar_of_mem_decimal, decimal,
    Nat.ofDigitChars_toDigits (by decide) (by decide)]

/-! ## Numbers in decimal -/

/-- A text is a number in decimal: digits with this value, of which the first is a zero only
if it is the only one. -/
structure IsDecimal (t : Text) (n : Nat) : Prop where
  nonempty : t ≠ []
  value : valueOf? 10 t = some n
  minimal : t.head? = some '0' → t = ['0']

theorem valueOf?_append_singleton (base : Nat) (t : Text) (c : Char) :
    valueOf? base (t ++ [c]) =
      (valueOf? base t).bind fun n => (digitValue? base c).map (n * base + ·) := by
  rw [valueOf?, List.foldlM_append]
  simp [valueOf?]

/-- A character with a value in base ten is a digit, and the digit of this value. -/
theorem eq_digitChar_of_digitValue? {c : Char} {d : Nat} (h : digitValue? 10 c = some d) :
    d < 10 ∧ c = Nat.digitChar d := by
  have hdigit : isDigitChar c = true := by
    obtain ⟨hvalue, hlt⟩ := Option.filter_eq_some_iff.1 h
    have hten : d < 10 := of_decide_eq_true hlt
    split at hvalue
    · rename_i hdigit
      exact hdigit
    -- Letters have values from ten on.
    split at hvalue
    · obtain rfl := Option.some.inj hvalue
      omega
    split at hvalue
    · obtain rfl := Option.some.inj hvalue
      omega
    · cases hvalue
  have hbounds := isDigitChar_iff.1 hdigit
  rw [digitValue?_of_isDigitChar hdigit] at h
  obtain rfl : c.toNat - 48 = d := Option.some.inj h
  have hlt : c.toNat - 48 < 10 := by omega
  refine ⟨hlt, Char.toNat_inj.1 ?_⟩
  rw [Nat.toNat_digitChar_of_lt_ten hlt]
  omega

theorem head?_decimal_ne_zero {n : Nat} (h : 0 < n) : (decimal n).head? ≠ some '0' := by
  induction n using Nat.strong_induction_on with
  | _ n ih =>
    by_cases hdigit : n < 10
    · have hne : Nat.digitChar n ≠ '0' := by
        rw [Ne, Nat.digitChar_eq_zero]
        omega
      simpa [decimal, Nat.toDigits_of_lt_base hdigit] using hne
    · have hfirst : (decimal n).head? = (decimal (n / 10)).head? := by
        rw [decimal, Nat.toDigits_of_base_le (by decide) (by omega)]
        exact List.head?_append_of_ne_nil _ Nat.toDigits_ne_nil
      rw [hfirst]
      exact ih (n / 10) (by omega) (by omega)

theorem isDecimal_decimal (n : Nat) : IsDecimal (decimal n) n where
  nonempty := Nat.toDigits_ne_nil
  value := valueOf?_decimal n
  minimal hzero := by
    rcases Nat.eq_zero_or_pos n with rfl | hpos
    · rfl
    · exact absurd hzero (head?_decimal_ne_zero hpos)

/-- No other text is the number in decimal. -/
theorem IsDecimal.eq_decimal {t : Text} {n : Nat} (h : IsDecimal t n) : t = decimal n := by
  obtain ⟨hne, hvalue, hmin⟩ := h
  induction t using List.reverseRecOn generalizing n with
  | nil => exact absurd rfl hne
  | append_singleton front c ih =>
    rw [valueOf?_append_singleton] at hvalue
    obtain ⟨m, hfront, hlast⟩ := Option.bind_eq_some_iff.1 hvalue
    obtain ⟨d, hdigit, rfl⟩ := Option.map_eq_some_iff.1 hlast
    obtain ⟨hlt, rfl⟩ := eq_digitChar_of_digitValue? hdigit
    by_cases hnil : front = []
    · subst hnil
      obtain rfl := Option.some.inj hfront
      rw [Nat.zero_mul, Nat.zero_add, decimal, Nat.toDigits_of_lt_base hlt]
      rfl
    · -- What comes before the last digit does not begin with a zero at all.
      have hhead : front.head? ≠ some '0' := by
        intro hzero
        have hone := congrArg List.length (hmin (by rwa [List.head?_append_of_ne_nil _ hnil]))
        have hlength := List.length_pos_iff.2 hnil
        simp only [List.length_append, List.length_singleton] at hone
        omega
      have hdecimal : front = decimal m := ih hnil hfront fun hzero => absurd hzero hhead
      have hpos : 0 < m := by
        refine Nat.pos_of_ne_zero ?_
        rintro rfl
        exact hhead (by rw [hdecimal]; rfl)
      have hdigits := Nat.toDigits_append_toDigits (b := 10) (by decide) hpos hlt
      rw [Nat.toDigits_of_lt_base hlt] at hdigits
      rw [hdecimal, Nat.mul_comm]
      exact hdigits

/-! ## Words and blanks -/

/-- What follows a word at the front of a text. -/
theorem afterFirst_append (word rest : Text) : afterFirst word (word ++ rest) = some rest := by
  have hprefix : word.isPrefixOf (word ++ rest) = true :=
    List.isPrefixOf_iff_prefix.2 (List.prefix_append word rest)
  have hdrop : (word ++ rest).drop word.length = rest := List.drop_left
  cases hall : word ++ rest with
  | nil =>
    obtain ⟨rfl, rfl⟩ := List.append_eq_nil_iff.1 hall
    rfl
  | cons c cs =>
    rw [hall] at hprefix hdrop
    rw [afterFirst, if_pos hprefix, hdrop]

/-- A text without blanks has nothing to trim. -/
theorem trim_of_forall_not_blank {t : Text} (h : ∀ c ∈ t, isBlankChar c = false) :
    trim t = t := by
  have hstart : trimStart t = t := by
    cases t with
    | nil => rfl
    | cons c cs =>
      exact List.dropWhile_cons_of_neg (Bool.eq_false_iff.1 (h c List.mem_cons_self))
  rw [trim, hstart]
  refine List.rdropWhile_eq_self_iff.2 fun hne => Bool.eq_false_iff.1 ?_
  exact h _ (List.getLast_mem hne)

end Text

/-- The directive that names an age limit. -/
def maxAgeDirective (seconds : Nat) : Text :=
  "max-age".toList ++ '=' :: Text.decimal seconds

/-- What is true of the letters of its name, of the sign and of digits is true of all
characters of the directive. -/
theorem all_maxAgeDirective {p : Char → Bool} (hname : "max-age".toList.all p = true)
    (hsign : p '=' = true) (hdigit : ∀ c, Text.isDigitChar c = true → p c = true) (seconds : Nat) :
    ∀ c ∈ maxAgeDirective seconds, p c = true := by
  refine List.forall_mem_append.2 ⟨List.all_eq_true.1 hname, List.forall_mem_cons.2 ⟨hsign, ?_⟩⟩
  exact fun c hc => hdigit c (Text.isDigitChar_of_mem_decimal hc)

theorem isBlankChar_of_mem_maxAgeDirective {seconds : Nat} {c : Char}
    (h : c ∈ maxAgeDirective seconds) : isBlankChar c = false := by
  have hplain := all_maxAgeDirective (p := fun c => !isBlankChar c) (by decide) (by decide)
    (fun c hc => by simp [Text.isBlankChar_of_isDigitChar hc]) seconds
  simpa using hplain c h

theorem toLower_of_mem_maxAgeDirective {seconds : Nat} {c : Char}
    (h : c ∈ maxAgeDirective seconds) : c.toLower = c := by
  have hsmall := all_maxAgeDirective (p := fun c => c.toLower == c) (by decide) (by decide)
    (fun c hc => by simp [Text.toLower_of_isDigitChar hc]) seconds
  simpa using hsmall c h

/-- A number of seconds below `2 ^ 64` is read from its digits. -/
theorem secondsOfDigits?_decimal {seconds : Nat} (h : seconds < 0x10000000000000000) :
    secondsOfDigits? (Text.decimal seconds) = some (.ofSecs seconds h) := by
  have hne : (Text.decimal seconds).isEmpty = false :=
    List.isEmpty_eq_false_iff.2 Nat.toDigits_ne_nil
  rw [secondsOfDigits?, hne, Text.valueUpTo?_eq (by decide), Text.valueOf?_decimal]
  simp [Nat.min_eq_right (Nat.le_of_lt h), Duration.ofSecs?, h, Duration.ofSecs]

/-- An age limit is read from the directive that names it. -/
theorem maxAge?_decimal {seconds : Nat} (h : seconds < 0x10000000000000000) :
    maxAge? (maxAgeDirective seconds) = some (.ofSecs seconds h) := by
  have hfold : Text.foldCase (maxAgeDirective seconds) = maxAgeDirective seconds := by
    refine (List.map_congr_left fun c hc => ?_).trans (List.map_id _)
    exact toLower_of_mem_maxAgeDirective hc
  have hstart : Text.trimStart ('=' :: Text.decimal seconds) = '=' :: Text.decimal seconds :=
    List.dropWhile_cons_of_neg (by decide)
  have hblank : Text.trimStart (Text.decimal seconds) = Text.decimal seconds := by
    refine List.dropWhile_eq_self_iff.2 fun hlength => Bool.eq_false_iff.1 ?_
    exact Text.isBlankChar_of_isDigitChar (Text.isDigitChar_of_mem_decimal (List.getElem_mem _))
  have hdigits : (Text.decimal seconds).takeWhile Text.isDigitChar = Text.decimal seconds :=
    List.takeWhile_eq_self_iff.2 fun c => Text.isDigitChar_of_mem_decimal
  have hafter : Text.afterFirst "max-age".toList (maxAgeDirective seconds) =
      some ('=' :: Text.decimal seconds) :=
    Text.afterFirst_append _ _
  simp only [maxAge?, hfold, hafter, hstart, hblank, hdigits]
  exact secondsOfDigits?_decimal h

end Ssdp
