import Ssdp.Text.Decimal
import Ssdp.Text.Unprintable
import Ssdp.Text.GraphemeExtend

/-!
# Quoted text

Text in error messages and log lines stands in double quotes, with what could
not be seen or would end the quotes escaped: `\0`, `\t`, `\r`, `\n`, `\\` and
`\"` by their letters, any other unprintable character and any mark that joins
the character before it by its code point in hexadecimal, as in `\u{200b}`. An
apostrophe stands for itself.
-/

namespace Ssdp.Text

/-- The written form of one character inside quotes. -/
def escapeChar (c : Char) : Text :=
  if c = '\x00' then ['\\', '0']
  else if c = '\t' then ['\\', 't']
  else if c = '\r' then ['\\', 'r']
  else if c = '\n' then ['\\', 'n']
  else if c = '\\' then ['\\', '\\']
  else if c = '"' then ['\\', '"']
  else if isGraphemeExtend c || isUnprintable c then
    ['\\', 'u', '\x7b'] ++ hexadecimal c.toNat ++ ['\x7d']
  else [c]

/-- The text in double quotes, escaped. -/
def quoted (t : Text) : Text :=
  '"' :: t.flatMap escapeChar ++ ['"']

example : quoted "a\"b\\c'd\n".toList = "\"a\\\"b\\\\c'd\\n\"".toList := by decide +kernel

end Ssdp.Text
