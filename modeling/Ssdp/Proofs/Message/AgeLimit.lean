import Ssdp.Proofs.Text.Search

/-!
# The grammar of age limits

Which values of `CACHE-CONTROL` name an age limit, told by how such a value is cut into
parts; any other value names none.

* `AgeAssignment`, `AgeDirective`: the parts of a value that names an age limit;
* `secondsOfDigits?_eq_some_iff`: the duration that a run of digits stands for;
* `ageAfter?_eq_some_iff`: what stands after the name;
* `maxAge?_eq_some_iff`: an age limit is read from the values that name one;
* `maxAge?_grammar`: and from no others, in whatever case they are written.
-/

namespace Ssdp

/-- The name that goes before an age limit. -/
def maxAgeName : Text := "max-age".toList

/-- What stands after the name of an age limit, cut into parts: blanks around an equals
sign, digits, and a text that does not begin with a digit. -/
structure AgeAssignment where
  gap : Text
  gap' : Text
  digits : Text
  rest : Text
  blank_of_gap : ∀ c ∈ gap, isBlankChar c = true
  blank_of_gap' : ∀ c ∈ gap', isBlankChar c = true
  digits_ne_nil : digits ≠ []
  digit_of_digits : ∀ c ∈ digits, Text.isDigitChar c = true
  no_digit_of_rest : ∀ c ∈ rest.head?, Text.isDigitChar c = false

/-- A value that names an age limit, cut into parts: a text that does not mention the name,
the name in whatever case, and what stands after it. -/
structure AgeDirective extends AgeAssignment where
  before : Text
  name : Text
  not_mentioned : ¬Text.Mentions maxAgeName before
  named : Text.sameName name maxAgeName = true

/-- The parts of an assignment, put together. -/
def AgeAssignment.text (a : AgeAssignment) : Text :=
  a.gap ++ '=' :: (a.gap' ++ (a.digits ++ a.rest))

/-- The number that the digits stand for. -/
def AgeAssignment.seconds (a : AgeAssignment) : Nat :=
  Nat.ofDigitChars 10 a.digits 0

/-- The parts of a directive, put together. -/
def AgeDirective.value (a : AgeDirective) : Text :=
  a.before ++ a.name ++ a.text

/-- A number of seconds written in decimal, after a text that does not mention the name and
before one that does not begin with a digit. -/
def AgeDirective.decimal (before : Text) (seconds : Nat) (rest : Text)
    (hbefore : ¬Text.Mentions maxAgeName before)
    (hrest : ∀ c ∈ rest.head?, Text.isDigitChar c = false) : AgeDirective where
  gap := []
  gap' := []
  digits := Text.decimal seconds
  rest
  blank_of_gap := nofun
  blank_of_gap' := nofun
  digits_ne_nil := Nat.toDigits_ne_nil
  digit_of_digits _ := Text.isDigitChar_of_mem_decimal
  no_digit_of_rest := hrest
  before
  name := maxAgeName
  not_mentioned := hbefore
  named := Text.sameName_refl maxAgeName

section

variable {before rest : Text} {seconds : Nat} {hbefore : ¬Text.Mentions maxAgeName before}
  {hrest : ∀ c ∈ rest.head?, Text.isDigitChar c = false}

theorem AgeDirective.value_decimal :
    (decimal before seconds rest hbefore hrest).value =
      before ++ maxAgeDirective seconds ++ rest := by
  show before ++ maxAgeName ++ '=' :: (Text.decimal seconds ++ rest) =
    before ++ (maxAgeName ++ '=' :: Text.decimal seconds) ++ rest
  simp only [List.append_assoc, List.cons_append]

theorem AgeDirective.seconds_decimal :
    (decimal before seconds rest hbefore hrest).seconds = seconds :=
  Nat.ofDigitChars_toDigits (by decide) (by decide)

end

/-! ## Blanks and digits -/

namespace Text

/-- Blanks in front are trimmed up to the first character that is none. -/
theorem trimStart_eq_cons_iff {t rest : Text} {c : Char} (hc : isBlankChar c = false) :
    trimStart t = c :: rest ↔
      ∃ gap, t = gap ++ c :: rest ∧ ∀ c ∈ gap, isBlankChar c = true := by
  constructor
  · intro h
    refine ⟨t.takeWhile isBlankChar, ?_, fun d hd => List.mem_takeWhile_imp hd⟩
    rw [← h]
    exact List.takeWhile_append_dropWhile.symm
  · rintro ⟨gap, rfl, hgap⟩
    rw [trimStart, List.dropWhile_append_of_pos hgap]
    exact List.dropWhile_cons_of_neg (Bool.eq_false_iff.1 hc)

/-- Digits are taken up to the first character that is none. -/
theorem takeWhile_isDigitChar_append {digits rest : Text}
    (h : ∀ c ∈ digits, isDigitChar c = true) (hrest : ∀ c ∈ rest.head?, isDigitChar c = false) :
    (digits ++ rest).takeWhile isDigitChar = digits := by
  rw [List.takeWhile_append_of_pos h]
  cases rest with
  | nil => exact List.append_nil digits
  | cons c cs =>
    rw [List.takeWhile_cons_of_neg (Bool.eq_false_iff.1 (hrest c rfl)), List.append_nil]

theorem isDigitChar_head?_dropWhile (t : Text) :
    ∀ c ∈ (t.dropWhile isDigitChar).head?, isDigitChar c = false := by
  intro c hc
  have hnot := List.head?_dropWhile_not isDigitChar t
  rw [Option.mem_def.1 hc] at hnot
  exact hnot

end Text

/-- A run of digits stands for its value, if that is below `2 ^ 64`. -/
theorem secondsOfDigits?_eq_some_iff {digits : Text} {d : Duration}
    (h : ∀ c ∈ digits, Text.isDigitChar c = true) : secondsOfDigits? digits = some d ↔
      digits ≠ [] ∧ ∃ hlt : Nat.ofDigitChars 10 digits 0 < 0x10000000000000000,
        d = .ofSecs (Nat.ofDigitChars 10 digits 0) hlt := by
  have hvalue : Text.valueUpTo? 10 0x10000000000000000 digits =
      some (min 0x10000000000000000 (Nat.ofDigitChars 10 digits 0)) := by
    rw [Text.valueUpTo?_eq (by decide), Text.valueOf?_of_digits h]
    rfl
  rw [secondsOfDigits?, hvalue, Option.bind_some]
  generalize Nat.ofDigitChars 10 digits 0 = n
  by_cases hnil : digits = []
  · simp [hnil]
  · rw [if_neg (mt List.isEmpty_iff.1 hnil), Duration.ofSecs?]
    by_cases hlt : n < 0x10000000000000000
    · have hmin : min 0x10000000000000000 n = n := Nat.min_eq_right (Nat.le_of_lt hlt)
      simp [hmin, hlt, hnil, Duration.ofSecs, eq_comm]
    · have hmin : min 0x10000000000000000 n = 0x10000000000000000 :=
        Nat.min_eq_left (Nat.le_of_not_lt hlt)
      simp [hmin, hlt]

/-! ## After the name -/

/-- The age limit that is named by what stands after the name. -/
def ageAfter? (t : Text) : Option Duration :=
  match Text.trimStart t with
  | '=' :: rest => secondsOfDigits? ((Text.trimStart rest).takeWhile Text.isDigitChar)
  | _ => none

theorem ageAfter?_eq_some_iff_trimStart {t : Text} {d : Duration} : ageAfter? t = some d ↔
    ∃ rest, Text.trimStart t = '=' :: rest ∧
      secondsOfDigits? ((Text.trimStart rest).takeWhile Text.isDigitChar) = some d := by
  unfold ageAfter?
  split
  · rename_i rest hrest
    simp [hrest]
  · rename_i hnot
    constructor
    · intro h
      cases h
    · rintro ⟨rest, hrest, -⟩
      exact absurd hrest (hnot rest)

/-- What stands after the name may be read in small letters. -/
theorem ageAfter?_foldCase (t : Text) : ageAfter? (Text.foldCase t) = ageAfter? t := by
  rw [ageAfter?, ageAfter?, Text.trimStart_foldCase]
  cases Text.trimStart t with
  | nil => rfl
  | cons c rest =>
    by_cases hc : c = '='
    · subst hc
      show secondsOfDigits? ((Text.trimStart (Text.foldCase rest)).takeWhile _) =
        secondsOfDigits? ((Text.trimStart rest).takeWhile _)
      rw [Text.trimStart_foldCase, Text.takeWhile_isDigitChar_foldCase]
    · have hlower : c.toLower ≠ '=' := fun h => hc (toLower_eq_equals_iff.1 h)
      simp [Text.foldCase, hc, hlower]

/-- An age limit is named by an assignment of a number below `2 ^ 64`. -/
theorem ageAfter?_eq_some_iff {t : Text} {d : Duration} : ageAfter? t = some d ↔
    ∃ a : AgeAssignment, a.text = t ∧
      ∃ h : a.seconds < 0x10000000000000000, d = .ofSecs a.seconds h := by
  rw [ageAfter?_eq_some_iff_trimStart]
  constructor
  · rintro ⟨rest, hrest, hseconds⟩
    obtain ⟨gap, rfl, hgap⟩ := (Text.trimStart_eq_cons_iff (by decide)).1 hrest
    have hdigits : ∀ c ∈ (Text.trimStart rest).takeWhile Text.isDigitChar,
        Text.isDigitChar c = true := fun c hc => List.mem_takeWhile_imp hc
    obtain ⟨hne, hlt, rfl⟩ := (secondsOfDigits?_eq_some_iff hdigits).1 hseconds
    refine ⟨{
      gap
      gap' := rest.takeWhile isBlankChar
      digits := (Text.trimStart rest).takeWhile Text.isDigitChar
      rest := (Text.trimStart rest).dropWhile Text.isDigitChar
      blank_of_gap := hgap
      blank_of_gap' := fun c hc => List.mem_takeWhile_imp hc
      digits_ne_nil := hne
      digit_of_digits := hdigits
      no_digit_of_rest := Text.isDigitChar_head?_dropWhile _ }, ?_, hlt, rfl⟩
    have hparts : rest.takeWhile isBlankChar ++ Text.trimStart rest = rest :=
      List.takeWhile_append_dropWhile
    rw [AgeAssignment.text, List.takeWhile_append_dropWhile, hparts]
  · rintro ⟨a, rfl, hlt, rfl⟩
    have hdigits : Text.trimStart (a.gap' ++ (a.digits ++ a.rest)) = a.digits ++ a.rest := by
      obtain ⟨c, cs, hcons⟩ := List.exists_cons_of_ne_nil a.digits_ne_nil
      have hc : Text.isDigitChar c = true := a.digit_of_digits c (hcons ▸ List.mem_cons_self)
      rw [hcons]
      exact (Text.trimStart_eq_cons_iff (Text.isBlankChar_of_isDigitChar hc)).2
        ⟨a.gap', rfl, a.blank_of_gap'⟩
    refine ⟨a.gap' ++ (a.digits ++ a.rest), ?_, ?_⟩
    · exact (Text.trimStart_eq_cons_iff (by decide)).2 ⟨a.gap, rfl, a.blank_of_gap⟩
    · rw [hdigits, Text.takeWhile_isDigitChar_append a.digit_of_digits a.no_digit_of_rest]
      exact (secondsOfDigits?_eq_some_iff a.digit_of_digits).2 ⟨a.digits_ne_nil, hlt, rfl⟩

/-! ## The whole value -/

theorem maxAge?_eq (v : Text) :
    maxAge? v = (Text.afterFirst maxAgeName (Text.foldCase v)).bind ageAfter? := by
  unfold maxAge?
  show _ = (Text.afterFirst "max-age".toList (Text.foldCase v)).bind ageAfter?
  cases Text.afterFirst "max-age".toList (Text.foldCase v) <;> rfl

/-- What follows the name where it is first mentioned. -/
theorem afterFirst_maxAgeName_iff {v rest : Text} :
    Text.afterFirst maxAgeName (Text.foldCase v) = some rest ↔
      ∃ before name after, v = before ++ name ++ after ∧ ¬Text.Mentions maxAgeName before ∧
        Text.sameName name maxAgeName = true ∧ rest = Text.foldCase after := by
  have hfold : Text.foldCase maxAgeName = maxAgeName := by decide
  have hfirst : 'm' ∉ "ax-age".toList := by decide
  have hname : maxAgeName = 'm' :: "ax-age".toList := rfl
  simp only [Text.mentions_iff, Text.sameName_iff, hfold]
  rw [hname, Text.afterFirst_eq_some_iff hfirst, ← hname]
  constructor
  · rintro ⟨before, hv, hnot⟩
    obtain ⟨start, after, rfl, hstart, rfl⟩ := List.map_eq_append_iff.1 hv
    obtain ⟨before, name, rfl, rfl, hname⟩ := List.map_eq_append_iff.1 hstart
    exact ⟨before, name, after, rfl, hnot, hname, rfl⟩
  · rintro ⟨before, name, after, rfl, hnot, hname, rfl⟩
    refine ⟨Text.foldCase before, ?_, hnot⟩
    rw [Text.foldCase_append, Text.foldCase_append, hname]

theorem maxAge?_eq_some_iff {v : Text} {d : Duration} : maxAge? v = some d ↔
    ∃ a : AgeDirective, a.value = v ∧
      ∃ h : a.seconds < 0x10000000000000000, d = .ofSecs a.seconds h := by
  rw [maxAge?_eq, Option.bind_eq_some_iff]
  constructor
  · rintro ⟨rest, hfirst, hafter⟩
    obtain ⟨before, name, after, rfl, hnot, hname, rfl⟩ := afterFirst_maxAgeName_iff.1 hfirst
    rw [ageAfter?_foldCase] at hafter
    obtain ⟨a, rfl, hlt, rfl⟩ := ageAfter?_eq_some_iff.1 hafter
    exact ⟨{ a with before, name, not_mentioned := hnot, named := hname }, rfl, hlt, rfl⟩
  · rintro ⟨a, rfl, hlt, rfl⟩
    refine ⟨Text.foldCase a.text, ?_, ?_⟩
    · exact afterFirst_maxAgeName_iff.2
        ⟨a.before, a.name, a.text, rfl, a.not_mentioned, a.named, rfl⟩
    · rw [ageAfter?_foldCase]
      exact ageAfter?_eq_some_iff.2 ⟨a.toAgeAssignment, rfl, hlt, rfl⟩

/-- The grammar of age limits. A value names an age limit of `n` seconds if it can be cut
into a text that does not mention `max-age`, this name in whatever case, blanks, an equals
sign, blanks, a run of digits that stands for `n`, and a text that does not begin with a
digit. It names none if it can be cut like that for no number below `2 ^ 64`. So the case of
its letters makes no difference; and an age limit that is written in decimal is read again,
after whatever does not mention the name and before whatever does not begin with a digit. -/
theorem maxAge?_grammar (v : Text) :
    (∀ n (h : n < 0x10000000000000000), maxAge? v = some (.ofSecs n h) ↔
      ∃ a : AgeDirective, a.value = v ∧ a.seconds = n) ∧
    (maxAge? v = none ↔
      ∀ a : AgeDirective, a.value = v → 0x10000000000000000 ≤ a.seconds) ∧
    (∀ v', Text.sameName v v' = true → maxAge? v = maxAge? v') ∧
    ∀ n (h : n < 0x10000000000000000) (before after : Text),
      ¬Text.Mentions maxAgeName before → (∀ c ∈ after.head?, Text.isDigitChar c = false) →
      v = before ++ maxAgeDirective n ++ after → maxAge? v = some (.ofSecs n h) := by
  have hread (n : Nat) (h : n < 0x10000000000000000) : maxAge? v = some (.ofSecs n h) ↔
      ∃ a : AgeDirective, a.value = v ∧ a.seconds = n := by
    rw [maxAge?_eq_some_iff]
    constructor
    · rintro ⟨a, hvalue, hlt, heq⟩
      exact ⟨a, hvalue, (congrArg Duration.secs heq).symm⟩
    · rintro ⟨a, hvalue, rfl⟩
      exact ⟨a, hvalue, h, rfl⟩
  refine ⟨hread, ?_, fun v' hsame => ?_, fun n h before after hnot hdigit hv => ?_⟩
  · constructor
    · intro hnone a hvalue
      by_contra hlt
      have hsome := maxAge?_eq_some_iff.2 ⟨a, hvalue, Nat.lt_of_not_le hlt, rfl⟩
      rw [hnone] at hsome
      cases hsome
    · intro hall
      refine Option.eq_none_iff_forall_ne_some.2 fun d hd => ?_
      obtain ⟨a, hvalue, hlt, -⟩ := maxAge?_eq_some_iff.1 hd
      exact absurd hlt (Nat.not_lt.2 (hall a hvalue))
  · rw [maxAge?_eq, maxAge?_eq, Text.sameName_iff.1 hsame]
  · exact (hread n h).2 ⟨.decimal before n after hnot hdigit,
      AgeDirective.value_decimal.trans hv.symm, AgeDirective.seconds_decimal⟩

/-- The parts of a value that mentions the name twice. -/
def renewed : AgeDirective where
  before := "no-cache, max- age, ".toList
  name := "Max-AGE".toList
  gap := " \u00a0".toList
  gap' := "\t".toList
  digits := "0060".toList
  rest := "s, max-age=7".toList
  not_mentioned := by decide
  named := by decide
  blank_of_gap := List.all_eq_true.1 (by decide)
  blank_of_gap' := List.all_eq_true.1 (by decide)
  digits_ne_nil := by decide
  digit_of_digits := List.all_eq_true.1 (by decide)
  no_digit_of_rest := fun _ hc => Option.mem_some.1 hc ▸ (by decide)

/-- The first mention counts, in any case; and the greatest number of seconds is read where it
stands between a part of the name and a point. -/
theorem renewed_grammar :
    renewed.value = "no-cache, max- age, Max-AGE \u00a0=\t0060s, max-age=7".toList ∧
    maxAge? renewed.value = some (.ofSecs 60) ∧
    Text.sameName renewed.value "NO-CACHE, max- age, max-age \u00a0=\t0060S, MAX-AGE=7".toList ∧
    maxAge? "NO-CACHE, max- age, max-age \u00a0=\t0060S, MAX-AGE=7".toList = some (.ofSecs 60) ∧
    ¬Text.Mentions maxAgeName "max-ag".toList ∧
    (maxAge? ("max-ag".toList ++ maxAgeDirective 0xffffffffffffffff ++ ".5".toList)).map (·.secs) =
      some 0xffffffffffffffff := by
  obtain ⟨hread, -, hcase, -⟩ := maxAge?_grammar renewed.value
  have hsixty : maxAge? renewed.value = some (.ofSecs 60) :=
    (hread 60 (by decide)).2 ⟨renewed, rfl, by decide⟩
  have hsame : Text.sameName renewed.value
      "NO-CACHE, max- age, max-age \u00a0=\t0060S, MAX-AGE=7".toList = true := by
    decide
  have hnot : ¬Text.Mentions maxAgeName "max-ag".toList := by decide
  refine ⟨by decide, hsixty, hsame, (hcase _ hsame).symm.trans hsixty, hnot, ?_⟩
  obtain ⟨-, -, -, hwritten⟩ := maxAge?_grammar
    ("max-ag".toList ++ maxAgeDirective 0xffffffffffffffff ++ ".5".toList)
  rw [hwritten 0xffffffffffffffff (by decide) "max-ag".toList ".5".toList hnot
    (fun _ hc => Option.mem_some.1 hc ▸ (by decide)) rfl]
  rfl

end Ssdp
