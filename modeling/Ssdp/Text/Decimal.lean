import Ssdp.Text.Basic

/-!
# Numbers in text

Decimal and hexadecimal digits of natural numbers, written without leading
zeros, and the value of a run of digits.

* `valueOf?`: the value of a run of digits;
* `valueUpTo?`, `valueUpTo?_eq`: the same for runs of any length, where only
  numbers below a cap have to be told apart.
-/

namespace Ssdp.Text

/-- Whether the character is one of the ten ASCII digits. -/
def isDigitChar (c : Char) : Bool :=
  '0' ≤ c && c ≤ '9'

/-- The value of a digit below `base`, in either case. -/
def digitValue? (base : Nat) (c : Char) : Option Nat :=
  let value :=
    if '0' ≤ c && c ≤ '9' then some (c.toNat - '0'.toNat)
    else if 'a' ≤ c && c ≤ 'f' then some (c.toNat - 'a'.toNat + 10)
    else if 'A' ≤ c && c ≤ 'F' then some (c.toNat - 'A'.toNat + 10)
    else none
  value.filter (· < base)

/-- The number that digits of the given base stand for, most significant
first; `none` when a character is no digit. The empty run stands for zero. -/
def valueOf? (base : Nat) (t : Text) : Option Nat :=
  t.foldlM (fun n c => (digitValue? base c).map (n * base + ·)) 0

/-- The number that digits of the given base stand for, or the cap if it is larger. -/
def valueUpTo? (base cap : Nat) (t : Text) : Option Nat :=
  t.foldlM (fun n c => (digitValue? base c).map fun d => min cap (n * base + d)) 0

/-- A number that is over the cap stays over it with more digits. -/
theorem min_mul_add {base : Nat} (hb : 0 < base) (cap n d : Nat) :
    min cap (min cap n * base + d) = min cap (n * base + d) := by
  rcases Nat.le_total n cap with h | h
  · rw [Nat.min_eq_right h]
  · have hn := Nat.le_mul_of_pos_right n hb
    have hc := Nat.le_mul_of_pos_right cap hb
    rw [Nat.min_eq_left h, Nat.min_eq_left (by omega), Nat.min_eq_left (by omega)]

/-- The cap may be put on the number instead of on its leading digits. -/
theorem valueUpTo?_eq {base : Nat} (hb : 0 < base) (cap : Nat) (t : Text) :
    valueUpTo? base cap t = (valueOf? base t).map (min cap) := by
  suffices h : ∀ n, t.foldlM (fun n c => (digitValue? base c).map fun d => min cap (n * base + d))
      (min cap n) = (t.foldlM (fun n c => (digitValue? base c).map (n * base + ·)) n).map
        (min cap) by
    simpa [valueUpTo?, valueOf?] using h 0
  induction t with
  | nil => simp
  | cons c t ih =>
    intro n
    cases hd : digitValue? base c with
    | none => simp [hd]
    | some d => simp [hd, min_mul_add hb, ih]

/-- The decimal digits of a number. -/
def decimal (n : Nat) : Text :=
  Nat.toDigits 10 n

/-- The hexadecimal digits of a number, in small letters. -/
def hexadecimal (n : Nat) : Text :=
  Nat.toDigits 16 n

example : decimal 1900 = "1900".toList := by decide
example : hexadecimal 0xdb8 = "db8".toList := by decide
example : valueOf? 10 "0042".toList = some 42 := by decide
example : valueOf? 16 "fF".toList = some 255 := by decide
example : valueOf? 8 "8".toList = none := by decide
example : valueUpTo? 10 256 "0255".toList = some 255 := by decide
example : valueUpTo? 10 256 "99999".toList = some 256 := by decide

end Ssdp.Text
