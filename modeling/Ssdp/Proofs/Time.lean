import Mathlib.Order.Lattice
import Ssdp.Time.Instant

/-!
# Time in whole numbers

An instant and a duration are each a number of nanoseconds, counted without bounds. They
are compared by their parts, added with a carry and subtracted with a borrow, which all
comes to the same as comparing, adding and subtracting the numbers.

* `Duration.checkedSub_eq_some_iff`, `Duration.checkedMul_eq_some_iff`: the difference of two
  durations and the multiples of one;
* the orders of durations and of instants, which are those of their numbers;
* `Instant.last`, `Instant.le_last`: the latest instant that can be represented;
* `Instant.checkedAdd_eq_some_iff`: the sum of an instant and a duration is the instant
  with the sum of their numbers;
* `Instant.checkedAdd_eq_none_iff`: there is none if that is later than any instant.
-/

namespace Ssdp

namespace Duration

/-- Two durations of the same length have the same parts. -/
theorem toNanos_injective : Function.Injective toNanos := by
  rintro ⟨secs, nanos, hsecs, hnanos⟩ ⟨secs', nanos', hsecs', hnanos'⟩ h
  simp only [toNanos, nanosPerSec] at h hnanos hnanos'
  have hs : secs = secs' := by omega
  have hn : nanos = nanos' := by omega
  subst hs hn
  rfl

instance : LinearOrder Duration := LinearOrder.lift' toNanos toNanos_injective

theorem le_iff {a b : Duration} : a ≤ b ↔ a.toNanos ≤ b.toNanos := Iff.rfl

theorem lt_iff {a b : Duration} : a < b ↔ a.toNanos < b.toNanos := Iff.rfl

theorem lt_iff_isShorter {a b : Duration} : a < b ↔ a.isShorter b = true :=
  (isShorter_iff a b).symm

theorem toNanos_ofSecs (n : Nat) (h : n < 0x10000000000000000) :
    (ofSecs n h).toNanos = n * nanosPerSec :=
  Nat.add_zero _

/-- The whole seconds of a duration are as many as fit into it. -/
theorem secs_bounds (d : Duration) :
    d.secs * nanosPerSec ≤ d.toNanos ∧ d.toNanos < (d.secs + 1) * nanosPerSec := by
  have hnanos := d.nanos_lt
  simp only [toNanos, nanosPerSec] at *
  omega

theorem toNanos_dropSecs {d : Duration} {n : Nat} (h : n ≤ d.secs) :
    (d.dropSecs n).toNanos + n * nanosPerSec = d.toNanos := by
  simp only [toNanos, dropSecs, nanosPerSec]
  omega

/-! ## Differences and multiples -/

/-- The duration with these seconds and nanoseconds, if it can be represented. -/
def ofParts? (secs nanos : Nat) : Option Duration :=
  if h : secs < 0x10000000000000000 ∧ nanos < nanosPerSec then
    some ⟨secs, nanos, h.1, h.2⟩
  else none

/-- The first duration less the second one, unless that is longer: where the nanoseconds
are too few, a second is borrowed. -/
def checkedSub (a b : Duration) : Option Duration :=
  if a.secs < b.secs then none
  else if b.nanos ≤ a.nanos then ofParts? (a.secs - b.secs) (a.nanos - b.nanos)
  else if a.secs - b.secs = 0 then none
  else ofParts? (a.secs - b.secs - 1) (a.nanos + nanosPerSec - b.nanos)

/-- The duration so many times, if it can be represented: the seconds have to fit into 64
bits before the carry of the nanoseconds and after it. -/
def checkedMul (d : Duration) (n : UInt32) : Option Duration :=
  let nanos := d.nanos * n.toNat
  if d.secs * n.toNat < 0x10000000000000000 then
    ofParts? (d.secs * n.toNat + nanos / nanosPerSec) (nanos % nanosPerSec)
  else none

theorem ofParts?_eq_some_iff {secs nanos : Nat} {d : Duration} :
    ofParts? secs nanos = some d ↔ d.secs = secs ∧ d.nanos = nanos := by
  simp only [ofParts?, Option.dite_none_right_eq_some, Option.some.injEq]
  constructor
  · rintro ⟨h, rfl⟩
    exact ⟨rfl, rfl⟩
  · rintro ⟨rfl, rfl⟩
    exact ⟨⟨d.secs_lt, d.nanos_lt⟩, rfl⟩

/-- The borrow makes the difference of the parts the difference of the numbers. -/
theorem checkedSub_eq_some_iff {a b c : Duration} :
    a.checkedSub b = some c ↔ c.toNanos + b.toNanos = a.toNanos := by
  have ha := a.nanos_lt
  have hb := b.nanos_lt
  have hc := c.nanos_lt
  simp only [toNanos, nanosPerSec] at *
  by_cases hsecs : a.secs < b.secs
  · simp only [checkedSub, if_pos hsecs, reduceCtorEq, false_iff]
    omega
  by_cases hborrow : b.nanos ≤ a.nanos
  · rw [checkedSub, if_neg hsecs, if_pos hborrow, ofParts?_eq_some_iff]
    omega
  by_cases hnone : a.secs - b.secs = 0
  · simp only [checkedSub, if_neg hsecs, if_neg hborrow, if_pos hnone, reduceCtorEq, false_iff]
    omega
  · rw [checkedSub, if_neg hsecs, if_neg hborrow, if_neg hnone, ofParts?_eq_some_iff]
    simp only [nanosPerSec]
    omega

/-- The carry makes the multiple of the parts the multiple of the number. -/
theorem checkedMul_eq_some_iff {c d : Duration} {n : UInt32} :
    d.checkedMul n = some c ↔ c.toNanos = d.toNanos * n.toNat := by
  have hc := c.nanos_lt
  have hsecs := c.secs_lt
  have hparts : d.toNanos * n.toNat = d.secs * n.toNat * nanosPerSec + d.nanos * n.toNat := by
    rw [toNanos, Nat.add_mul, Nat.mul_right_comm]
  rw [hparts, checkedMul]
  generalize d.secs * n.toNat = secs
  generalize d.nanos * n.toNat = nanos
  simp only [toNanos, nanosPerSec] at *
  by_cases hfits : secs < 0x10000000000000000
  · rw [if_pos hfits, ofParts?_eq_some_iff]
    omega
  · simp only [if_neg hfits, reduceCtorEq, false_iff]
    omega

end Duration

namespace Instant

/-- Two instants with the same reading have the same parts. -/
theorem toNanos_injective : Function.Injective toNanos := by
  intro a b h
  have ha := a.nanos_lt
  have hb := b.nanos_lt
  simp only [toNanos, nanosPerSec] at h ha hb
  exact Instant.ext (by omega) (by omega)

instance : LinearOrder Instant := LinearOrder.lift' toNanos toNanos_injective

theorem le_iff {a b : Instant} : a ≤ b ↔ a.toNanos ≤ b.toNanos := Iff.rfl

/-! ## What can be represented -/

theorem last_bounds : -0x8000000000000000 ≤ (0x7fffffffffffffff : Int) ∧
    (0x7fffffffffffffff : Int) < 0x8000000000000000 ∧ 999999999 < nanosPerSec := by
  decide

/-- The latest instant. -/
def last : Instant :=
  ⟨0x7fffffffffffffff, 999999999, last_bounds.1, last_bounds.2.1, last_bounds.2.2⟩

theorem le_last (t : Instant) : t ≤ last := by
  have hsecs := t.secs_lt
  have hnanos := t.nanos_lt
  simp only [le_iff, toNanos, last, nanosPerSec] at *
  omega

/-- Every number from the reading of an instant on is the reading of one, up to the latest. -/
theorem exists_toNanos_eq {t : Instant} {n : Int} (h : t.toNanos ≤ n) (hlast : n ≤ last.toNanos) :
    ∃ t' : Instant, t'.toNanos = n := by
  have hsecs := t.le_secs
  simp only [toNanos, last, nanosPerSec] at h hlast
  have hparts : -0x8000000000000000 ≤ n / 1000000000 ∧ n / 1000000000 < 0x8000000000000000 ∧
      (n % 1000000000).toNat < nanosPerSec := by
    simp only [nanosPerSec]
    omega
  refine ⟨⟨n / 1000000000, (n % 1000000000).toNat, hparts.1, hparts.2.1, hparts.2.2⟩, ?_⟩
  simp only [toNanos, nanosPerSec]
  omega

theorem ofParts?_eq_some_iff {secs : Int} {nanos : Nat} {t : Instant} :
    ofParts? secs nanos = some t ↔ t.secs = secs ∧ t.nanos = nanos := by
  simp only [ofParts?, Option.dite_none_right_eq_some, Option.some.injEq]
  constructor
  · rintro ⟨h, rfl⟩
    exact ⟨rfl, rfl⟩
  · rintro ⟨rfl, rfl⟩
    exact ⟨⟨t.le_secs, t.secs_lt, t.nanos_lt⟩, rfl⟩

/-! ## Sums -/

section

variable {t t' : Instant} {d : Duration}

/-- The carry makes the sum of the parts the sum of the numbers. -/
theorem checkedAdd_eq_some_iff :
    t.checkedAdd d = some t' ↔ t'.toNanos = t.toNanos + d.toNanos := by
  have ht := t.nanos_lt
  have ht' := t'.nanos_lt
  have hd := d.nanos_lt
  by_cases hcarry : t.nanos + d.nanos < nanosPerSec
  · rw [checkedAdd, if_pos hcarry, ofParts?_eq_some_iff]
    simp only [toNanos, Duration.toNanos, nanosPerSec] at *
    omega
  · rw [checkedAdd, if_neg hcarry, ofParts?_eq_some_iff]
    simp only [toNanos, Duration.toNanos, nanosPerSec] at *
    omega

theorem checkedAdd_eq_none_iff :
    t.checkedAdd d = none ↔ last.toNanos < t.toNanos + d.toNanos := by
  constructor
  · intro hnone
    by_contra hle
    have hlater : t.toNanos ≤ t.toNanos + d.toNanos := by omega
    obtain ⟨t', ht'⟩ := exists_toNanos_eq hlater (by omega)
    rw [checkedAdd_eq_some_iff.2 ht'] at hnone
    cases hnone
  · intro hlast
    cases hsome : t.checkedAdd d with
    | none => rfl
    | some t' =>
      have hle : t'.toNanos ≤ last.toNanos := le_last t'
      have hsum := checkedAdd_eq_some_iff.1 hsome
      omega

end

end Instant

end Ssdp
