import Ssdp.Text.Blank
import Ssdp.Text.Decimal
import Ssdp.Time.Duration

/-!
# The age limit of a message

The header `CACHE-CONTROL` says for how long a message may be believed: the
first `max-age` in it, in any case, blanks, an equals sign, blanks, and a run
of digits that stands for a number of seconds below `2 ^ 64`.
-/

namespace Ssdp

/-- The number of seconds given by a run of decimal digits. -/
def secondsOfDigits? (digits : Text) : Option Duration :=
  if digits.isEmpty then none
  else (Text.valueUpTo? 10 0x10000000000000000 digits).bind Duration.ofSecs?

/-- The age limit that a `CACHE-CONTROL` value names. -/
def maxAge? (cacheControl : Text) : Option Duration :=
  match Text.afterFirst "max-age".toList (Text.foldCase cacheControl) with
  | none => none
  | some rest =>
    match Text.trimStart rest with
    | '=' :: rest => secondsOfDigits? ((Text.trimStart rest).takeWhile Text.isDigitChar)
    | _ => none

example : (maxAge? "no-cache=\"Ext\", MAX-AGE = 0120, private".toList).map (·.secs) = some 120 := by
  decide
example : maxAge? "max-age=".toList = none := by decide
example : maxAge? "max-age=18446744073709551616".toList = none := by decide

end Ssdp
