import Ssdp.Text.Decimal

/-!
# Durations

A span of time: whole seconds below `2 ^ 64` and nanoseconds below one second.
A duration is written in the largest of the units `s`, `ms`, `µs` and `ns` that
it reaches, with the rest as a fraction without trailing zeros.
-/

namespace Ssdp

/-- The nanoseconds of a second. -/
def nanosPerSec : Nat := 1000000000

theorem nanosPerSec_pos : 0 < nanosPerSec := by
  decide

/-- A span of time of at most `2 ^ 64 - 1` seconds and 999999999 nanoseconds. -/
structure Duration where
  secs : Nat
  nanos : Nat
  secs_lt : secs < 0x10000000000000000
  nanos_lt : nanos < nanosPerSec
deriving DecidableEq

namespace Duration

/-- The whole length in nanoseconds. -/
def toNanos (d : Duration) : Nat :=
  d.secs * nanosPerSec + d.nanos

/-- The duration of this many nanoseconds, if it can be represented. -/
def ofNanos? (n : Nat) : Option Duration :=
  if h : n / nanosPerSec < 0x10000000000000000 then
    some ⟨n / nanosPerSec, n % nanosPerSec, h, Nat.mod_lt n nanosPerSec_pos⟩
  else none

/-- The duration of this many seconds, if it can be represented. -/
def ofSecs? (n : Nat) : Option Duration :=
  if h : n < 0x10000000000000000 then some ⟨n, 0, h, nanosPerSec_pos⟩ else none

/-- The duration of this many milliseconds, if it can be represented. -/
def ofMillis? (n : Nat) : Option Duration :=
  ofNanos? (n * 1000000)

/-- A number of seconds known to be representable. -/
def ofSecs (n : Nat) (h : n < 0x10000000000000000 := by decide) : Duration :=
  ⟨n, 0, h, nanosPerSec_pos⟩

/-- The whole length in milliseconds, rounded down. -/
def toMillis (d : Duration) : Nat :=
  d.secs * 1000 + d.nanos / 1000000

/-- Whether nothing is left of the duration. -/
def isZero (d : Duration) : Bool :=
  d.secs == 0 && d.nanos == 0

/-- Whether the first duration is shorter than the second. -/
def isShorter (a b : Duration) : Bool :=
  a.secs < b.secs || (a.secs == b.secs && a.nanos < b.nanos)

/-- The duration less a number of whole seconds. -/
def dropSecs (d : Duration) (n : Nat) : Duration :=
  ⟨d.secs - n, d.nanos, Nat.lt_of_le_of_lt (Nat.sub_le _ _) d.secs_lt, d.nanos_lt⟩

/-- A number with a fraction of the given number of places, without the zeros
at the end of the fraction. -/
def withFraction (whole fraction places : Nat) : Text :=
  let digits := Text.decimal fraction
  let padded := List.replicate (places - digits.length) '0' ++ digits
  let shown := Text.dropWhileEnd (· == '0') padded
  Text.decimal whole ++ (if shown.isEmpty then [] else '.' :: shown)

/-- The duration in the largest unit that it reaches. -/
def text (d : Duration) : Text :=
  if d.secs > 0 then withFraction d.secs d.nanos 9 ++ ['s']
  else if d.nanos ≥ 1000000 then
    withFraction (d.nanos / 1000000) (d.nanos % 1000000) 6 ++ ['m', 's']
  else if d.nanos ≥ 1000 then withFraction (d.nanos / 1000) (d.nanos % 1000) 3 ++ ['µ', 's']
  else Text.decimal d.nanos ++ ['n', 's']

example : (ofMillis? 1234567).map text = some "1234.567s".toList := by decide
example : (ofMillis? 50).map text = some "50ms".toList := by decide
example : (ofMillis? 1500).map text = some "1.5s".toList := by decide
example : (ofNanos? 0).map text = some "0ns".toList := by decide

/-- Durations are ordered as their lengths. -/
theorem isShorter_iff (a b : Duration) : a.isShorter b = true ↔ a.toNanos < b.toNanos := by
  have ha := a.nanos_lt
  have hb := b.nanos_lt
  simp only [isShorter, toNanos, nanosPerSec, Bool.or_eq_true, Bool.and_eq_true, decide_eq_true_eq,
    beq_iff_eq] at *
  omega

end Duration

end Ssdp
