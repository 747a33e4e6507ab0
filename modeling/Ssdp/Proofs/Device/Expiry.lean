import Ssdp.Device
import Ssdp.Proofs.Time

/-!
# When devices expire

A device has expired at the instants strictly later than the end of its age limit, counted
in whole numbers without bounds. The end may be later than any instant that can be
represented: then there is no instant at which the device has expired, which is what the
numbers say as well.

* `Device.isExpiredAt_iff`: a device has expired if its age limit is past;
* `Device.isExpiredAt_mono`, `Device.isExpiredAt_anti`: it stays so, and would be so with
  a shorter limit;
* `Instant.addInWords`, `Instant.addInWords_eq`: the sum as it is computed in words of 64
  and of 32 bits, where nothing overflows;
* `Device.isExpiredAt_exact`: all this together.
-/

namespace Ssdp

/-- The sum of two numbers of nanoseconds in an unsigned word of 32 bits, which has to hold
it. -/
def addNanos (a b : Nat) : Except PanicReason Nat :=
  if a + b < 0x100000000 then .ok (a + b)
  else .error (.text "attempt to add with overflow".toList)

namespace Instant

/-- The instant a duration later, in words: seconds that do not fit into 64 bits with a sign
have no sum, before the carry or after it, and the nanoseconds are added in 32 bits. -/
def addInWords (t : Instant) (d : Duration) : Except PanicReason (Option Instant) :=
  if t.secs + d.secs < 0x8000000000000000 then
    (addNanos d.nanos t.nanos).map fun nanos =>
      if nanos < nanosPerSec then ofParts? (t.secs + d.secs) nanos
      else if t.secs + d.secs + 1 < 0x8000000000000000 then
        ofParts? (t.secs + d.secs + 1) (nanos - nanosPerSec)
      else none
  else .ok none

/-- Two numbers below one second have a sum of 32 bits. -/
theorem addNanos_eq (t : Instant) (d : Duration) :
    addNanos d.nanos t.nanos = .ok (t.nanos + d.nanos) := by
  have ht := t.nanos_lt
  have hd := d.nanos_lt
  simp only [nanosPerSec] at ht hd
  rw [addNanos, if_pos (by omega), Nat.add_comm]

/-- Nothing overflows, and a sum is given up early only if there is none. -/
theorem addInWords_eq (t : Instant) (d : Duration) : t.addInWords d = .ok (t.checkedAdd d) := by
  have ht := t.nanos_lt
  have hd := d.nanos_lt
  have hnone (h : last.toNanos < t.toNanos + d.toNanos) : t.checkedAdd d = none :=
    checkedAdd_eq_none_iff.2 h
  simp only [toNanos, Duration.toNanos, last, nanosPerSec] at ht hd hnone
  by_cases hsecs : t.secs + d.secs < 0x8000000000000000
  · rw [addInWords, if_pos hsecs, addNanos_eq]
    refine congrArg Except.ok ?_
    show (if t.nanos + d.nanos < nanosPerSec then _ else _) = t.checkedAdd d
    by_cases hcarry : t.nanos + d.nanos < nanosPerSec
    · rw [if_pos hcarry, checkedAdd, if_pos hcarry]
    · by_cases hlast : t.secs + d.secs + 1 < 0x8000000000000000
      · rw [if_neg hcarry, if_pos hlast, checkedAdd, if_neg hcarry]
      · rw [if_neg hcarry, if_neg hlast, hnone]
        simp only [nanosPerSec] at hcarry
        omega
  · rw [addInWords, if_neg hsecs, hnone]
    omega

end Instant

namespace Device

/-- Whether the device has expired, with its end computed in words. -/
def isExpiredInWords (d : Device) (now : Instant) : Except PanicReason Bool :=
  (d.discoveredAt.addInWords d.maxAge).map fun ends => ends.any now.isAfter

section

variable {d : Device} {t now now' : Instant}

theorem expiresAt?_eq_some_iff :
    d.expiresAt? = some t ↔ t.toNanos = d.discoveredAt.toNanos + d.maxAge.toNanos :=
  Instant.checkedAdd_eq_some_iff

/-- The end cannot be represented if it is later than any instant. -/
theorem expiresAt?_eq_none_iff : d.expiresAt? = none ↔
    ∀ t : Instant, t.toNanos < d.discoveredAt.toNanos + d.maxAge.toNanos := by
  rw [expiresAt?, Instant.checkedAdd_eq_none_iff]
  constructor
  · intro hlast t
    have hle : t.toNanos ≤ Instant.last.toNanos := t.le_last
    omega
  · intro hall
    exact hall Instant.last

/-- A device has expired if its age limit is past. -/
theorem isExpiredAt_iff : d.isExpiredAt now = true ↔
    d.discoveredAt.toNanos + d.maxAge.toNanos < now.toNanos := by
  unfold isExpiredAt
  cases hend : d.expiresAt? with
  | none =>
    have hearly := expiresAt?_eq_none_iff.1 hend now
    simp only [Bool.false_eq_true, false_iff]
    omega
  | some t =>
    rw [← expiresAt?_eq_some_iff.1 hend]
    exact Instant.isAfter_iff now t

/-- A device that has expired stays so. -/
theorem isExpiredAt_mono (h : now ≤ now') (hd : d.isExpiredAt now = true) :
    d.isExpiredAt now' = true := by
  rw [isExpiredAt_iff] at *
  rw [Instant.le_iff] at h
  omega

/-- With a shorter age limit it would have expired as well. -/
theorem isExpiredAt_anti {a b : Duration} (h : a ≤ b)
    (hb : { d with maxAge := b }.isExpiredAt now = true) :
    { d with maxAge := a }.isExpiredAt now = true := by
  rw [isExpiredAt_iff] at *
  rw [Duration.le_iff] at h
  show d.discoveredAt.toNanos + a.toNanos < now.toNanos
  change d.discoveredAt.toNanos + b.toNanos < now.toNanos at hb
  omega

theorem isExpiredInWords_eq (d : Device) (now : Instant) :
    d.isExpiredInWords now = .ok (d.isExpiredAt now) := by
  rw [isExpiredInWords, Instant.addInWords_eq]
  show Except.ok _ = _
  rw [isExpiredAt, expiresAt?]
  cases d.discoveredAt.checkedAdd d.maxAge <;> rfl

end

/-- Expiry is exact. Whatever an instant can be that a device was heard of at, and whatever
its age limit, of up to `2 ^ 64 - 1` seconds and a fraction, the device has expired at the
instants that are strictly later than the sum of both, in whole numbers without bounds. Its
end is the instant with this sum, and cannot be represented only if all instants come
before it. A device has not expired at its very end; once it has expired it stays so; and
with a shorter age limit it would have expired, too. In words of 64 and of 32 bits the same
answer is computed without an overflow. -/
theorem isExpiredAt_exact (d : Device) :
    (∀ now, d.isExpiredAt now = true ↔
      d.discoveredAt.toNanos + d.maxAge.toNanos < now.toNanos) ∧
    (∀ t, d.expiresAt? = some t ↔ t.toNanos = d.discoveredAt.toNanos + d.maxAge.toNanos) ∧
    (d.expiresAt? = none ↔
      ∀ t : Instant, t.toNanos < d.discoveredAt.toNanos + d.maxAge.toNanos) ∧
    (∀ t, d.expiresAt? = some t → d.isExpiredAt t = false) ∧
    (∀ now now' : Instant, now ≤ now' → d.isExpiredAt now = true → d.isExpiredAt now' = true) ∧
    (∀ (a b : Duration) (now : Instant), a ≤ b → { d with maxAge := b }.isExpiredAt now = true →
      { d with maxAge := a }.isExpiredAt now = true) ∧
    ∀ now, d.isExpiredInWords now = .ok (d.isExpiredAt now) := by
  refine ⟨fun now => isExpiredAt_iff, fun t => expiresAt?_eq_some_iff, expiresAt?_eq_none_iff,
    fun t ht => ?_, fun now now' => isExpiredAt_mono, fun a b now => isExpiredAt_anti,
    isExpiredInWords_eq d⟩
  rw [Bool.eq_false_iff, Ne, isExpiredAt_iff, ← expiresAt?_eq_some_iff.1 ht]
  omega

/-- A device heard of 3.000000001 seconds before the latest instant. -/
def late (maxAge : Duration) : Device where
  notificationType := "a".toList
  usn := "uuid:1".toList
  location := ⟨"http://h/".toList⟩
  headers := {}
  discoveredAt := ⟨0x7ffffffffffffffc, 999999998, by decide, by decide, by decide⟩
  maxAge
  sender := .v4 .unspecified 1900
  localAddress := .v4 .unspecified

/-- With a limit of three seconds it has not expired a nanosecond before the latest instant,
where it would have with one of two seconds. With a nanosecond more than three seconds there
is no instant left at which it has expired, and with two its end cannot be represented. -/
theorem late_exact :
    let nearlyLast : Instant := ⟨0x7fffffffffffffff, 999999998, by decide, by decide, by decide⟩
    let most : Duration := ⟨3, 2, by decide, by decide⟩
    (late (.ofSecs 3)).expiresAt? = some nearlyLast ∧
    (late (.ofSecs 3)).isExpiredAt nearlyLast = false ∧
    (late (.ofSecs 2)).isExpiredAt nearlyLast = true ∧ nearlyLast ≤ .last ∧
    (late (.ofSecs 2)).isExpiredAt .last = true ∧
    (late (.ofSecs 3)).isExpiredAt .last = true ∧ Duration.ofSecs 2 ≤ .ofSecs 3 ∧
    { late (.ofSecs 3) with maxAge := .ofSecs 2 }.isExpiredAt .last = true ∧
    (late ⟨3, 1, by decide, by decide⟩).isExpiredAt .last = false ∧
    (late most).expiresAt? = none ∧ (late most).isExpiredInWords .last = .ok false := by
  intro nearlyLast most
  obtain ⟨htwo, -, -, -, hstays, -⟩ := isExpiredAt_exact (late (.ofSecs 2))
  obtain ⟨hthree, hend, -, hnot, -, hshorter, -⟩ := isExpiredAt_exact (late (.ofSecs 3))
  obtain ⟨hmost, -, hnever, -, -, -, hwords⟩ := isExpiredAt_exact (late most)
  have hnearly : (late (.ofSecs 3)).expiresAt? = some nearlyLast := (hend _).2 (by decide)
  have hexpired : (late (.ofSecs 2)).isExpiredAt nearlyLast = true := (htwo _).2 (by decide)
  have hle : nearlyLast ≤ .last := nearlyLast.le_last
  have hlast : (late (.ofSecs 3)).isExpiredAt .last = true := (hthree _).2 (by decide)
  have hlimits : Duration.ofSecs 2 ≤ .ofSecs 3 := Duration.le_iff.2 (by decide)
  refine ⟨hnearly, hnot _ hnearly, hexpired, hle, hstays _ _ hle hexpired, hlast, hlimits,
    hshorter _ _ _ hlimits hlast, ?_, ?_, ?_⟩
  · exact (isExpiredAt_exact _).2.2.2.1 _ (((isExpiredAt_exact _).2.1 _).2 (by decide))
  · refine hnever.2 fun t => lt_of_le_of_lt (Instant.le_iff.1 t.le_last) ?_
    decide
  · rw [hwords, Bool.eq_false_iff.2 fun h => absurd ((hmost _).1 h) (by decide)]

end Device

end Ssdp
