import Mathlib.Logic.ExistsUnique
import Ssdp.Text.Lines

/-!
# Splitting into lines

What the lines of a text are, told from the text as a whole: it is cut after
every line feed, and each piece that was ended by one is a line without one
carriage return at its end.

* `Text.SplitsInto`: how a text is cut into lines;
* `Text.splitsInto_iff`: the lines of a text are those it is cut into;
* `Text.existsUnique_splitsInto`: every text is cut in one way;
* `Text.lines_append`: what is joined after a line feed is split on its own.
-/

namespace Ssdp.Text

/-- The text without one carriage return at its end. -/
def chomp (s : Text) : Text :=
  if s.getLast? = some '\r' then s.dropLast else s

/-- How a text is cut into lines: the empty text has none, the last line may lack
its line feed, and any other is ended by one. -/
inductive SplitsInto : Text → List Text → Prop
  | nil : SplitsInto [] []
  | unended {s : Text} (h : '\n' ∉ s) (hne : s ≠ []) : SplitsInto s [s]
  | ended {s t : Text} {ls : List Text} (h : '\n' ∉ s) (ht : SplitsInto t ls) :
    SplitsInto (s ++ '\n' :: t) (chomp s :: ls)

theorem chomp_cons_cons (c d : Char) (s : Text) : chomp (c :: d :: s) = c :: chomp (d :: s) := by
  simp only [chomp, List.getLast?_cons_cons, List.dropLast_cons_cons]
  split <;> rfl

/-- Only the carriage return that is given away is missing. -/
theorem chomp_append_cr (s : Text) : chomp (s ++ ['\r']) = s := by
  simp [chomp]

theorem mem_of_mem_chomp {s : Text} {c : Char} (h : c ∈ chomp s) : c ∈ s := by
  unfold chomp at h
  split at h
  · exact (List.dropLast_sublist s).subset h
  · exact h

/-! ## The lines of a text -/

/-- A character that ends no line and begins no line end goes to the first line. -/
theorem lines_cons {c : Char} {cs : Text} (hc : c ≠ '\n')
    (hcr : ∀ rest, ¬(c = '\r' ∧ cs = '\n' :: rest)) :
    lines (c :: cs) = (c :: (lines cs).headD []) :: (lines cs).tail := by
  rw [lines]
  · cases lines cs <;> rfl
  · exact fun h => hc h
  · exact fun rest h h' => hcr rest ⟨h, h'⟩

/-- What comes before the first line feed is the first line. -/
theorem lines_append_lf {s : Text} (h : '\n' ∉ s) (t : Text) :
    lines (s ++ '\n' :: t) = chomp s :: lines t := by
  induction s with
  | nil => rfl
  | cons c cs ih =>
    obtain ⟨hc, hcs⟩ := List.ne_and_not_mem_of_not_mem_cons h
    cases cs with
    | nil =>
      by_cases hcr : c = '\r'
      · subst hcr
        rfl
      · rw [List.singleton_append, lines_cons hc.symm fun rest hrest => hcr hrest.1, lines]
        simp [chomp, hcr]
    | cons d ds =>
      have hd : d ≠ '\n' := fun hd => hcs (hd ▸ List.mem_cons_self)
      rw [List.cons_append, lines_cons hc.symm, ih hcs, chomp_cons_cons]
      · rfl
      · exact fun rest hrest => hd (List.cons.inj hrest.2).1

/-- A text without a line feed is one line, unless it is empty. -/
theorem lines_of_not_mem {s : Text} (h : '\n' ∉ s) (hne : s ≠ []) : lines s = [s] := by
  induction s with
  | nil => exact absurd rfl hne
  | cons c cs ih =>
    obtain ⟨hc, hcs⟩ := List.ne_and_not_mem_of_not_mem_cons h
    have hrest : ∀ rest, cs ≠ '\n' :: rest := fun rest hrest => hcs (hrest ▸ List.mem_cons_self)
    rw [lines_cons hc.symm fun rest hcr => hrest rest hcr.2]
    cases cs with
    | nil => rfl
    | cons d ds =>
      rw [ih hcs (List.cons_ne_nil d ds)]
      rfl

/-! ## The pieces of a text -/

theorem splitsInto_lines (t : Text) : SplitsInto t (lines t) := by
  by_cases h : '\n' ∈ t
  · obtain ⟨s, rest, ht, hs⟩ := List.eq_append_cons_of_mem h
    have hshorter : rest.length < t.length := by
      rw [ht, List.length_append, List.length_cons]
      omega
    rw [ht, lines_append_lf hs]
    exact .ended hs (splitsInto_lines rest)
  · by_cases hne : t = []
    · rw [hne]
      exact .nil
    · rw [lines_of_not_mem h hne]
      exact .unended h hne
termination_by t.length
decreasing_by exact hshorter

/-- The lines of a text are those it is cut into. -/
theorem splitsInto_iff {t : Text} {ls : List Text} : SplitsInto t ls ↔ lines t = ls := by
  constructor
  · intro h
    induction h with
    | nil => rfl
    | unended h hne => exact lines_of_not_mem h hne
    | ended h _ ih => rw [lines_append_lf h, ih]
  · rintro rfl
    exact splitsInto_lines t

/-- Every text is cut into lines, and in one way only. -/
theorem existsUnique_splitsInto (t : Text) : ∃! ls, SplitsInto t ls :=
  ⟨lines t, splitsInto_lines t, fun _ h => (splitsInto_iff.1 h).symm⟩

/-- No line holds a line feed. -/
theorem SplitsInto.lf_not_mem {t : Text} {ls : List Text} (h : SplitsInto t ls) :
    ∀ line ∈ ls, '\n' ∉ line := by
  induction h with
  | nil => exact fun line hline => (List.not_mem_nil hline).elim
  | unended h hne => exact List.forall_mem_singleton.2 h
  | ended h _ ih => exact List.forall_mem_cons.2 ⟨fun hm => h (mem_of_mem_chomp hm), ih⟩

/-- What is joined after a line feed is split on its own. -/
theorem lines_append {a : Text} (h : a = [] ∨ a.getLast? = some '\n') (b : Text) :
    lines (a ++ b) = lines a ++ lines b := by
  have hsplit : SplitsInto a (lines a) := splitsInto_lines a
  revert h
  generalize lines a = ls at hsplit
  induction hsplit with
  | nil => exact fun _ => rfl
  | @unended s hs hne =>
    rintro (h | h)
    · exact absurd h hne
    · exact absurd (List.mem_of_getLast? h) hs
  | @ended s t ls hs ht ih =>
    intro h
    have hlast : t = [] ∨ t.getLast? = some '\n' := by
      cases t with
      | nil => exact .inl rfl
      | cons c cs => simpa using h
    rw [List.append_assoc, List.cons_append, lines_append_lf hs, ih hlast, List.cons_append]

end Ssdp.Text
