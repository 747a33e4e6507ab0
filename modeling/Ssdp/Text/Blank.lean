import Ssdp.Text.Basic

/-!
# Blanks

A blank is a character with the Unicode property `White_Space`. Start lines,
header names and header values are trimmed of blanks at both ends; the method
of a request ends at ASCII white space only, which is a smaller class.

* `Text.trim`: the text without its blanks at either end;
* `Text.isBlank`: whether nothing is left after trimming.
-/

namespace Ssdp

/-- The property `White_Space` of the Unicode standard. -/
def isBlankChar (c : Char) : Bool :=
  let n := c.toNat
  (0x9 ≤ n && n ≤ 0xd) || n == 0x20 || n == 0x85 || n == 0xa0 || n == 0x1680 ||
    (0x2000 ≤ n && n ≤ 0x200a) || n == 0x2028 || n == 0x2029 || n == 0x202f || n == 0x205f ||
    n == 0x3000

/-- ASCII white space: space, tab, line feed, form feed and carriage return. -/
def isAsciiBlank (c : Char) : Bool :=
  c == ' ' || c == '\t' || c == '\n' || c == '\x0c' || c == '\r'

/-- Every ASCII blank is a blank. -/
theorem isBlankChar_of_isAsciiBlank {c : Char} (h : isAsciiBlank c = true) :
    isBlankChar c = true := by
  simp only [isAsciiBlank, Bool.or_eq_true, beq_iff_eq] at h
  rcases h with (((rfl | rfl) | rfl) | rfl) | rfl <;> decide

namespace Text

/-- The text without its leading blanks. -/
def trimStart (t : Text) : Text :=
  t.dropWhile isBlankChar

/-- The text without its trailing blanks. -/
def trimEnd (t : Text) : Text :=
  dropWhileEnd isBlankChar t

/-- The text without blanks at either end. -/
def trim (t : Text) : Text :=
  trimEnd (trimStart t)

/-- Whether the text holds nothing but blanks. -/
def isBlank (t : Text) : Bool :=
  (trim t).isEmpty

end Text

end Ssdp
