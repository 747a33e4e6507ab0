import Ssdp.Text.Basic

/-!
# Punycode

Punycode writes a text with ASCII characters alone: those that it has, a hyphen,
and then, in the order of their code points, where the other characters are to be
put in. Each is a number that counts on from the one before through all places of
all code points, with 36 digits, the least place first. A digit below the threshold
of its place is the last of its number, and the thresholds follow the size of the
numbers read before.

* `Punycode.decode?`: the text that a Punycode stands for.
-/

namespace Ssdp

namespace Punycode

/-- The value of a digit: the small letters, and after them the decimal digits. -/
def digit? (c : Char) : Option Nat :=
  if 'a' ≤ c ∧ c ≤ 'z' then some (c.toNat - 'a'.toNat)
  else if '0' ≤ c ∧ c ≤ '9' then some (c.toNat - '0'.toNat + 26)
  else none

/-- The digits from which on a place, counted in steps of 36, has a next one. -/
def threshold (bias place : Nat) : Nat :=
  min 26 (max 1 (place - bias))

/-- The bias that suits numbers of a size: 36 for every division by 35 that brings
the number near the thresholds, and a part of 36 for what is left. -/
def biasOf (size : Nat) : Nat :=
  if 455 < size then 36 + biasOf (size / 35) else 36 * size / (size + 38)
termination_by size

/-- What is decoded so far: the text, the code point and the place that the last
number led to, the bias for the next number, and what is read of that number
with the weight and the place of its next digit. -/
structure Decoding where
  out : Text
  code : Nat := 128
  index : Nat := 0
  bias : Nat := 72
  number : Nat := 0
  weight : Nat := 1
  place : Nat := 36
deriving DecidableEq, Repr

/-- The character of the number at hand is put in, where it is one. -/
def Decoding.putIn? (s : Decoding) : Option Decoding :=
  let count := s.out.length + 1
  let code := s.code + (s.index + s.number) / count
  let index := (s.index + s.number) % count
  let size := if s.index = 0 then s.number / 700 else s.number / 2
  if code.isValidChar then
    some { out := s.out.insertIdx index (Char.ofNat code), code, index := index + 1,
           bias := biasOf (size + size / count) }
  else none

/-- One more digit is read. -/
def Decoding.read? (s : Decoding) (c : Char) : Option Decoding := do
  let digit ← digit? c
  let limit := threshold s.bias s.place
  let s := { s with number := s.number + digit * s.weight }
  if digit < limit then s.putIn?
  else some { s with weight := s.weight * (36 - limit), place := s.place + 36 }

/-- The text that a Punycode in small letters stands for; no number may be
unfinished at its end. -/
def decode? (t : Text) : Option Text := do
  let digits := (t.reverse.takeWhile (· != '-')).reverse
  let ascii := t.take (t.length - digits.length - 1)
  let start : Decoding := { out := ascii }
  let s ← (if ascii.isEmpty then t else digits).foldlM Decoding.read? start
  if s.place = start.place then some s.out else none

end Punycode

example : Punycode.decode? "bcher-kva".toList = some "bücher".toList := by decide +kernel
example : Punycode.decode? "b".toList = none := by decide +kernel

end Ssdp
