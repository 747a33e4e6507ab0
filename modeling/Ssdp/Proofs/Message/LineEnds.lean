import Ssdp.Proofs.Message.Grammar

/-!
# Line ends

A line may be ended by a line feed alone or with carriage returns in front of it, and
likewise the text as a whole. Splitting takes one carriage return off a line that is
ended; the others stay at the end of the line. There they are blanks like any other, and
reading trims them wherever they come to stand: on the start line, in a value, on a line
that tells of no header or that is blank but for them.

* `Text.SameButReturns`: texts that differ in nothing but their line ends;
* `Text.SameLines`, `Text.SameButReturns.sameLines`: what they are split into is the same but for
  blanks at the ends of lines, and lines after the last that are empty;
* `Message.readLines?_map_trimEnd`: such blanks make no difference to what is read;
* `Message.read?_trimmed`: texts that differ in their line ends are read as the same
  message.
-/

namespace Ssdp

namespace Text

variable {s w : Text}

theorem splitAtFirst_append {mark : Char} (s : Text) (h : mark ∉ w) :
    splitAtFirst mark (s ++ w) =
      (splitAtFirst mark s).map fun (before, after) => (before, after ++ w) := by
  induction s with
  | nil =>
    refine Option.eq_none_iff_forall_ne_some.2 fun (before, after) hsome => h ?_
    obtain ⟨rfl, -⟩ := splitAtFirst_eq_some_iff.1 hsome
    exact List.mem_append_right before List.mem_cons_self
  | cons c cs ih =>
    by_cases hc : c = mark
    · simp only [List.cons_append, splitAtFirst, if_pos hc, Option.map_some]
    · simp only [List.cons_append, splitAtFirst, if_neg hc, ih, Option.map_map]
      rfl

theorem trimEnd_chomp (s : Text) : trimEnd (chomp s) = trimEnd s := by
  unfold chomp
  split
  · rename_i hlast
    obtain ⟨start, rfl⟩ := List.getLast?_eq_some_iff.1 hlast
    rw [List.dropLast_concat, trimEnd_append_blanks start (List.forall_mem_singleton.2 (by decide))]
  · rfl

/-! ## Texts with other line ends -/

/-- The texts differ at most in how many carriage returns stand directly before a line
feed, or at the very end. -/
inductive SameButReturns : Text → Text → Prop
  | ending (s : Text) (m n : Nat) :
    SameButReturns (s ++ List.replicate m '\r') (s ++ List.replicate n '\r')
  | lineEnd (s : Text) (m n : Nat) {t t' : Text} (h : SameButReturns t t') :
    SameButReturns (s ++ List.replicate m '\r' ++ '\n' :: t)
      (s ++ List.replicate n '\r' ++ '\n' :: t')

/-- The lines are the same but for blanks at their ends, and for empty lines after the
last. -/
def SameLines (ls ls' : List Text) : Prop :=
  ∃ m n, ls.map trimEnd ++ List.replicate m [] = ls'.map trimEnd ++ List.replicate n []

theorem SameLines.cons {line line' : Text} {ls ls' : List Text}
    (hline : trimEnd line = trimEnd line') (h : SameLines ls ls') :
    SameLines (line :: ls) (line' :: ls') := by
  obtain ⟨m, n, heq⟩ := h
  exact ⟨m, n, by rw [List.map_cons, List.map_cons, List.cons_append, List.cons_append, hline, heq]⟩

theorem SameLines.append_left (first : List Text) {ls ls' : List Text} (h : SameLines ls ls') :
    SameLines (first ++ ls) (first ++ ls') := by
  induction first with
  | nil => exact h
  | cons line first ih => exact ih.cons rfl

/-- What comes after the last line feed of a text is its last line. -/
theorem exists_lastLine (s : Text) :
    ∃ a b, s = a ++ b ∧ (a = [] ∨ a.getLast? = some '\n') ∧ '\n' ∉ b := by
  by_cases h : '\n' ∈ s
  · obtain ⟨b, a, hs, hb⟩ := List.eq_append_cons_of_mem (List.mem_reverse.2 h)
    refine ⟨a.reverse ++ ['\n'], b.reverse, ?_, .inr List.getLast?_concat, mt List.mem_reverse.1 hb⟩
    rw [← List.reverse_reverse s, hs]
    simp
  · exact ⟨[], s, rfl, .inl rfl, h⟩

theorem lf_not_mem_append_returns (h : '\n' ∉ s) (n : Nat) : '\n' ∉ s ++ List.replicate n '\r' := by
  rw [List.mem_append, not_or]
  exact ⟨h, fun hmem => absurd (List.eq_of_mem_replicate hmem) (by decide)⟩

theorem isBlankChar_of_mem_returns {n : Nat} : ∀ c ∈ List.replicate n '\r', isBlankChar c = true :=
  fun _ hc => List.eq_of_mem_replicate hc ▸ (by decide)

/-- A last line without a line feed is one line, unless there is nothing of it. -/
theorem map_trimEnd_lines_unended (h : '\n' ∉ s) (n : Nat) :
    ∃ k, (lines (s ++ List.replicate n '\r')).map trimEnd ++ List.replicate k [] = [trimEnd s] := by
  by_cases hnil : s ++ List.replicate n '\r' = []
  · obtain ⟨rfl, -⟩ := List.append_eq_nil_iff.1 hnil
    rw [hnil]
    exact ⟨1, rfl⟩
  · have htrim := trimEnd_append_blanks s (isBlankChar_of_mem_returns (n := n))
    rw [lines_of_not_mem (lf_not_mem_append_returns h n) hnil]
    exact ⟨0, congrArg (· :: []) htrim⟩

/-- Carriage returns at line ends leave no more than blanks at the ends of lines. -/
theorem SameButReturns.sameLines {t t' : Text} (h : SameButReturns t t') :
    SameLines (lines t) (lines t') := by
  induction h with
  | ending s m n =>
    obtain ⟨a, b, rfl, ha, hb⟩ := exists_lastLine s
    obtain ⟨k, hk⟩ := map_trimEnd_lines_unended hb m
    obtain ⟨k', hk'⟩ := map_trimEnd_lines_unended hb n
    simp only [List.append_assoc, lines_append ha]
    exact .append_left _ ⟨k, k', hk.trans hk'.symm⟩
  | lineEnd s m n _ ih =>
    obtain ⟨a, b, rfl, ha, hb⟩ := exists_lastLine s
    have hline (n : Nat) : trimEnd (chomp (b ++ List.replicate n '\r')) = trimEnd b := by
      rw [trimEnd_chomp, trimEnd_append_blanks b isBlankChar_of_mem_returns]
    simp only [List.append_assoc _ b, List.append_assoc a, lines_append ha,
      lines_append_lf (lf_not_mem_append_returns hb _)]
    exact .append_left _ (.cons ((hline m).trans (hline n).symm) ih)

end Text

/-! ## What is read -/

/-- The line that was passed over, without blanks at its end. -/
def SkippedLine.trimmed : SkippedLine → SkippedLine
  | withoutColon line => withoutColon (Text.trimEnd line)
  | malformed line error => malformed (Text.trimEnd line) error

/-- The message, and the lines that were passed over without blanks at their ends. -/
def Reading.trimmed (r : Reading) : Reading :=
  { r with skipped := r.skipped.map SkippedLine.trimmed }

/-- Blanks at the ends of lines make no difference to the headers that are read. -/
theorem Headers.read_map_trimEnd (h : Headers) (ls : List Text) :
    h.read (ls.map Text.trimEnd) = ((h.read ls).1, (h.read ls).2.map SkippedLine.trimmed) := by
  induction ls generalizing h with
  | nil => rfl
  | cons line rest ih =>
    obtain ⟨w, hw, hline⟩ := Text.exists_eq_trimEnd_append line
    have hcolon : ':' ∉ w := fun hmem => absurd (hw _ hmem) (by decide)
    have hsplit : Text.splitAtFirst ':' line =
        (Text.splitAtFirst ':' (Text.trimEnd line)).map fun (before, after) =>
          (before, after ++ w) := by
      conv_lhs => rw [hline]
      exact Text.splitAtFirst_append _ hcolon
    simp only [List.map_cons, read, Text.isBlank_trimEnd, hsplit]
    by_cases hblank : Text.isBlank line = true
    · rw [if_pos hblank, if_pos hblank]
      rfl
    · rw [if_neg hblank, if_neg hblank]
      cases Text.splitAtFirst ':' (Text.trimEnd line) with
      | none => simp [ih, SkippedLine.trimmed]
      | some parts =>
        simp only [Option.map_some, Text.trim_append_blanks _ hw]
        cases h.insert (Text.trim parts.1) (Text.trim parts.2) with
        | ok inserted => exact ih _
        | error error => simp [ih, SkippedLine.trimmed]

namespace Message

/-- What lines are read as. -/
def readLines? : List Text → Except ParseError Reading
  | [] => .error .missingStartLine
  | first :: rest =>
    if Text.isBlank first then .error .missingStartLine
    else .ok ⟨⟨Text.trim first, (Headers.empty.read rest).1⟩, (Headers.empty.read rest).2⟩

theorem readText?_eq (t : Text) : readText? t = readLines? (Text.lines t) := by
  unfold readText?
  cases Text.lines t <;> rfl

theorem readLines?_map_trimEnd (ls : List Text) :
    readLines? (ls.map Text.trimEnd) = (readLines? ls).map Reading.trimmed := by
  cases ls with
  | nil => rfl
  | cons first rest =>
    simp only [List.map_cons, readLines?, Text.isBlank_trimEnd, Text.trim_trimEnd,
      Headers.read_map_trimEnd]
    split <;> rfl

/-- Empty lines after the last make no difference. -/
theorem readLines?_append_empty (ls : List Text) (n : Nat) :
    readLines? (ls ++ List.replicate n []) = readLines? ls := by
  cases n with
  | zero => rw [List.replicate_zero, List.append_nil]
  | succ n =>
    cases ls with
    | nil => rfl
    | cons first rest =>
      have hempty : Text.isBlank [] = true := rfl
      have hread := Headers.read_append_blank .empty rest hempty (List.replicate n [])
      simp only [List.cons_append, List.replicate_succ, readLines?, hread]

/-- Texts that differ in their line ends are read alike: the same error, or the same message
with the same lines passed over, but for blanks at the ends of these. -/
theorem read?_trimmed {t t' : Text} (h : t.SameButReturns t') :
    (read? t'.utf8Encode).map Reading.trimmed = (read? t.utf8Encode).map Reading.trimmed := by
  obtain ⟨m, n, hlines⟩ := h.sameLines
  simp only [read?_utf8Encode, readText?_eq, ← readLines?_map_trimEnd]
  rw [← readLines?_append_empty _ n, ← hlines, readLines?_append_empty]

/-- The same, case by case. -/
theorem read?_sameButReturns {t t' : Text} (h : t.SameButReturns t') :
    (∃ error, read? t.utf8Encode = .error error ∧ read? t'.utf8Encode = .error error) ∨
      ∃ message skipped skipped', read? t.utf8Encode = .ok ⟨message, skipped⟩ ∧
        read? t'.utf8Encode = .ok ⟨message, skipped'⟩ ∧
        skipped'.map SkippedLine.trimmed = skipped.map SkippedLine.trimmed := by
  have hread := read?_trimmed h
  cases ht : read? t.utf8Encode with
  | error error =>
    rw [ht] at hread
    cases ht' : read? t'.utf8Encode with
    | error error' =>
      rw [ht'] at hread
      exact .inl ⟨error, rfl, hread⟩
    | ok reading' =>
      rw [ht'] at hread
      cases hread
  | ok reading =>
    rw [ht] at hread
    cases ht' : read? t'.utf8Encode with
    | error error' =>
      rw [ht'] at hread
      cases hread
    | ok reading' =>
      rw [ht'] at hread
      obtain ⟨message, skipped⟩ := reading
      obtain ⟨message', skipped'⟩ := reading'
      obtain ⟨rfl, hskipped⟩ := Reading.mk.inj (Except.ok.inj hread)
      exact .inr ⟨_, skipped, skipped', rfl, rfl, hskipped⟩

/-- Texts that differ in their line ends are read as the same message, or not at all for the
same reason. -/
theorem map_message_read? {t t' : Text} (h : t.SameButReturns t') :
    (read? t'.utf8Encode).map Reading.message = (read? t.utf8Encode).map Reading.message := by
  rcases read?_sameButReturns h with ⟨error, ht, ht'⟩ | ⟨message, skipped, skipped', ht, ht', -⟩
  · rw [ht, ht']
  · rw [ht, ht']
    rfl

end Message

end Ssdp
