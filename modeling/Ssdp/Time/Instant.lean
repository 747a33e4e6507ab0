import Ssdp.Time.Duration

/-!
# Instants

A reading of a clock: seconds in 64 bits with a sign, and nanoseconds below one
second. The sum of an instant and a duration exists when it can be represented
in the same way.
-/

namespace Ssdp

/-- A reading of the clock. -/
@[ext]
structure Instant where
  secs : Int
  nanos : Nat
  le_secs : -0x8000000000000000 ≤ secs
  secs_lt : secs < 0x8000000000000000
  nanos_lt : nanos < nanosPerSec

namespace Instant

instance : DecidableEq Instant := fun a b =>
  @decidable_of_decidable_of_iff _ _
    (@instDecidableAnd _ _ (Int.decEq a.secs b.secs) (Nat.decEq a.nanos b.nanos))
    Instant.ext_iff.symm

/-- The reading in nanoseconds from the clock's origin. -/
def toNanos (t : Instant) : Int :=
  t.secs * nanosPerSec + t.nanos

/-- The instant with these seconds and nanoseconds, if it can be represented. -/
def ofParts? (secs : Int) (nanos : Nat) : Option Instant :=
  if h : -0x8000000000000000 ≤ secs ∧ secs < 0x8000000000000000 ∧ nanos < nanosPerSec then
    some ⟨secs, nanos, h.1, h.2.1, h.2.2⟩
  else none

/-- The instant a duration later, if it can be represented: the nanoseconds are
added with a carry into the seconds. -/
def checkedAdd (t : Instant) (d : Duration) : Option Instant :=
  let nanos := t.nanos + d.nanos
  if nanos < nanosPerSec then ofParts? (t.secs + d.secs) nanos
  else ofParts? (t.secs + d.secs + 1) (nanos - nanosPerSec)

/-- Whether the first instant is strictly later than the second. -/
def isAfter (a b : Instant) : Bool :=
  b.secs < a.secs || (a.secs == b.secs && b.nanos < a.nanos)

theorem origin_bounds : -0x8000000000000000 ≤ (1 : Int) ∧ (1 : Int) < 0x8000000000000000 := by
  decide

/-- The first second of the clock. -/
def origin : Instant :=
  ⟨1, 0, origin_bounds.1, origin_bounds.2, nanosPerSec_pos⟩

/-- Instants are ordered as their readings. -/
theorem isAfter_iff (a b : Instant) : a.isAfter b = true ↔ b.toNanos < a.toNanos := by
  have ha := a.nanos_lt
  have hb := b.nanos_lt
  simp only [isAfter, toNanos, nanosPerSec, Bool.or_eq_true, Bool.and_eq_true, decide_eq_true_eq,
    beq_iff_eq] at *
  omega

end Instant

end Ssdp
