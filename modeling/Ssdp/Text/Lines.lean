import Ssdp.Text.Basic

/-!
# Lines

A line ends at a line feed, and one carriage return directly before the line
feed belongs to the line end. The last line may lack its line feed, and then
keeps a trailing carriage return; the empty text has no line.
-/

namespace Ssdp.Text

/-- The lines of a text, without their ends. -/
def lines : Text → List Text
  | [] => []
  | '\n' :: cs => [] :: lines cs
  | '\r' :: '\n' :: cs => [] :: lines cs
  | c :: cs =>
    match lines cs with
    | [] => [[c]]
    | line :: rest => (c :: line) :: rest

example : lines "a\r\nb\n\nc\r".toList = ["a".toList, "b".toList, [], "c\r".toList] := by decide
example : lines "a\r\r\n".toList = ["a\r".toList] := by decide
example : lines "\n".toList = [[]] := by decide

/-- Only the empty text has no line. -/
theorem lines_eq_nil_iff {t : Text} : lines t = [] ↔ t = [] := by
  fun_cases lines t <;> simp_all

end Ssdp.Text
