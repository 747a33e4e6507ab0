import Ssdp.Proofs.Cache.Conservation
import Ssdp.Proofs.Device.Expiry

/-!
# Sweeps one after the other

Taking out the entries of one kind and then those of another is taking out both, and the
order of the two makes no difference. A device that has expired at one of two instants has
expired at the later one, so that two sweeps come to a single sweep at the later instant.
The entries may change places between the calls.

* `Cache.takeOut_takeOut`, `Cache.coe_takeOut_add`: taking out twice;
* `Cache.takeOut_perm`, `Cache.takeOut_snd_perm`: the order of the entries makes no
  difference;
* `Device.isExpiredAt_max`: what has expired at the later of two instants;
* `Cache.sweeps_compose`: sweeps, and sweeps among removals.
-/

namespace Ssdp

theorem Device.isExpiredAt_max (d : Device) (t t' : Instant) :
    d.isExpiredAt (max t t') = (d.isExpiredAt t || d.isExpiredAt t') := by
  rw [Bool.eq_iff_iff, Bool.or_eq_true]
  constructor
  · intro hmax
    rcases max_choice t t' with h | h
    · exact .inl (h ▸ hmax)
    · exact .inr (h ▸ hmax)
  · rintro (h | h)
    · exact isExpiredAt_mono (le_max_left t t') h
    · exact isExpiredAt_mono (le_max_right t t') h

namespace Cache

section

variable (c : Cache) (p q : DeviceKey × Device → Bool)

/-- What is left after taking out twice is left after taking out both. -/
theorem takeOut_takeOut :
    ((c.takeOut p).1.takeOut q).1 = (c.takeOut fun e => p e || q e).1 := by
  simp only [takeOut, List.filter_filter]
  refine congrArg Cache.mk (List.filter_congr fun e _ => ?_)
  rw [Bool.not_or, Bool.and_comm]

/-- What is taken out by the one and the other is what is taken out by both. -/
theorem coe_takeOut_add :
    ((c.takeOut p).2 : Multiset Device) + ((c.takeOut p).1.takeOut q).2 =
      (c.takeOut fun e => p e || q e).2 := by
  have hparts := List.filter_append_perm p (c.entries.filter fun e => p e || q e)
  have hfirst : (c.entries.filter fun e => p e || q e).filter p = c.entries.filter p := by
    rw [List.filter_filter]
    exact List.filter_congr fun e _ => by cases p e <;> rfl
  have hsecond : (c.entries.filter fun e => p e || q e).filter (!p ·) =
      (c.entries.filter (!p ·)).filter q := by
    rw [List.filter_filter, List.filter_filter]
    exact List.filter_congr fun e _ => by cases p e <;> cases q e <;> rfl
  rw [hfirst, hsecond] at hparts
  have hdevices := hparts.map (·.2)
  rw [List.map_append] at hdevices
  exact Multiset.coe_eq_coe.2 hdevices

theorem takeOut_comm :
    ((c.takeOut p).1.takeOut q).1 = ((c.takeOut q).1.takeOut p).1 := by
  rw [takeOut_takeOut, takeOut_takeOut]
  simp only [Bool.or_comm]

theorem coe_takeOut_comm :
    ((c.takeOut p).2 : Multiset Device) + ((c.takeOut p).1.takeOut q).2 =
      (c.takeOut q).2 + ((c.takeOut q).1.takeOut p).2 := by
  rw [coe_takeOut_add, coe_takeOut_add]
  simp only [Bool.or_comm]

variable {c} {c' : Cache}

theorem takeOut_perm (h : c.entries.Perm c'.entries) :
    (c.takeOut p).1.entries.Perm (c'.takeOut p).1.entries :=
  h.filter _

theorem takeOut_snd_perm (h : c.entries.Perm c'.entries) :
    ((c.takeOut p).2 : Multiset Device) = (c'.takeOut p).2 :=
  Multiset.coe_eq_coe.2 ((h.filter _).map _)

end

/-- Two sweeps are a sweep at the later instant. -/
theorem takeOut_expired_max (c : Cache) (t t' : Instant) :
    (c.takeOut fun e => e.2.isExpiredAt t || e.2.isExpiredAt t') = c.sweepAt (max t t') := by
  simp only [sweepAt, Device.isExpiredAt_max]

/-- Nothing that is left after a sweep has expired at an earlier instant. -/
theorem sweepAt_snd_eq_nil {c c₁ : Cache} {t t' : Instant} (hle : t' ≤ t)
    (h : c₁.entries.Perm (c.sweepAt t).1.entries) : (c₁.sweepAt t').2 = [] := by
  refine List.map_eq_nil_iff.2 (List.filter_eq_nil_iff.2 fun e he hexpired => ?_)
  have hkept : e ∈ c.entries.filter fun e => !e.2.isExpiredAt t := h.mem_iff.1 he
  have hnot : e.2.isExpiredAt t = false := by simpa using (List.mem_filter.1 hkept).2
  have hstill : e.2.isExpiredAt t = true := Device.isExpiredAt_mono hle hexpired
  rw [hnot] at hstill
  cases hstill

/-- Sweeps compose, whatever is cached and whatever places the entries get to between the
calls. A sweep gives back the devices that have expired at its instant, and leaves all other
entries. Two sweeps, the earlier one first or second, leave what a sweep at the later instant
leaves, and together give back what it gives back; a second one that is no later than the
first gives back nothing. A removal and a sweep leave the same, and together give back the
same devices, in either order. -/
theorem sweeps_compose (c : Cache) (t t' : Instant) (usn : Text) :
    (((c.sweepAt t).2 : Multiset Device) =
        (c.devices : Multiset Device).filter (·.isExpiredAt t = true) ∧
      ((c.sweepAt t).1.entries : Multiset (DeviceKey × Device)) =
        (c.entries : Multiset (DeviceKey × Device)).filter (·.2.isExpiredAt t = false)) ∧
    (∀ c₁ : Cache, c₁.entries.Perm (c.sweepAt t).1.entries →
      (c₁.sweepAt t').1.entries.Perm (c.sweepAt (max t t')).1.entries ∧
      ((c.sweepAt t).2 : Multiset Device) + (c₁.sweepAt t').2 = (c.sweepAt (max t t')).2 ∧
      (t' ≤ t → (c₁.sweepAt t').2 = [])) ∧
    ∀ c₁ c₂ : Cache, c₁.entries.Perm (c.remove usn).1.entries →
      c₂.entries.Perm (c.sweepAt t).1.entries →
      (c₁.sweepAt t).1.entries.Perm (c₂.remove usn).1.entries ∧
      ((c.remove usn).2 : Multiset Device) + (c₁.sweepAt t).2 =
        (c.sweepAt t).2 + (c₂.remove usn).2 := by
  refine ⟨⟨?_, ?_⟩, fun c₁ h => ⟨?_, ?_, fun hle => sweepAt_snd_eq_nil hle h⟩,
    fun c₁ c₂ h₁ h₂ => ⟨?_, ?_⟩⟩
  · rw [Multiset.filter_coe, devices, List.filter_map]
    simp only [Function.comp_def, Bool.decide_eq_true]
    rfl
  · rw [Multiset.filter_coe]
    simp only [Bool.decide_eq_false]
    rfl
  · have htwice := c.takeOut_takeOut (·.2.isExpiredAt t) (·.2.isExpiredAt t')
    rw [takeOut_expired_max] at htwice
    rw [← htwice]
    exact takeOut_perm _ h
  · rw [← takeOut_expired_max, ← coe_takeOut_add]
    exact congrArg _ (takeOut_snd_perm _ h)
  · have hcomm := c.takeOut_comm (·.1.usn = usn) (·.2.isExpiredAt t)
    refine (takeOut_perm _ h₁).trans (.trans ?_ (takeOut_perm _ h₂).symm)
    exact .of_eq (congrArg entries hcomm)
  · calc ((c.remove usn).2 : Multiset Device) + (c₁.sweepAt t).2
        = (c.remove usn).2 + ((c.remove usn).1.sweepAt t).2 :=
          congrArg _ (takeOut_snd_perm _ h₁)
      _ = (c.sweepAt t).2 + ((c.sweepAt t).1.remove usn).2 := c.coe_takeOut_comm _ _
      _ = (c.sweepAt t).2 + (c₂.remove usn).2 := congrArg _ (takeOut_snd_perm _ h₂).symm

/-- Three devices with one `USN`, of which one lasts for six seconds, one for ten, and one
for ever. -/
def household : Cache where
  entries :=
    [lasting "a".toList (.ofSecs 6), lasting "b".toList (.ofSecs 10),
      lasting "c".toList (.ofSecs 0x8000000000000000)].map fun d => (d.key, d)

/-- The first sweep takes out one device, the second another one after the rest have changed
places; what is left never expires. In the other order there is nothing to take out for the
second sweep, and after a removal nothing for any. -/
theorem household_swept :
    let early : Instant := ⟨8, 0, by decide, by decide, by decide⟩
    let later : Instant := ⟨13, 0, by decide, by decide, by decide⟩
    let swapped : Cache := ⟨(household.sweepAt early).1.entries.reverse⟩
    swapped.entries.Perm (household.sweepAt early).1.entries ∧
    swapped.entries ≠ (household.sweepAt early).1.entries ∧
    (swapped.sweepAt later).1.entries.Perm (household.sweepAt (max early later)).1.entries ∧
    ((household.sweepAt early).2 : Multiset Device) + (swapped.sweepAt later).2 =
      (household.sweepAt (max early later)).2 ∧
    (household.sweepAt early).2.length = 1 ∧ (swapped.sweepAt later).2.length = 1 ∧
    (swapped.sweepAt later).1.size = 1 ∧
    early ≤ later ∧ ((household.sweepAt later).1.sweepAt early).2 = [] ∧
    (((household.remove "uuid:1".toList).1.sweepAt early).1.entries.Perm
      (swapped.remove "uuid:1".toList).1.entries) := by
  intro early later swapped
  have hswapped : swapped.entries.Perm (household.sweepAt early).1.entries :=
    List.reverse_perm _
  have hle : early ≤ later := Instant.le_iff.2 (by decide)
  obtain ⟨-, htwice, hremoved⟩ := sweeps_compose household early later "uuid:1".toList
  obtain ⟨-, hback, -⟩ := sweeps_compose household later early []
  obtain ⟨hleft, hgiven, -⟩ := htwice swapped hswapped
  exact ⟨hswapped, by decide, hleft, hgiven, rfl, rfl, rfl, hle, (hback _ (.refl _)).2.2 hle,
    (hremoved _ swapped (.refl _) hswapped).1⟩

end Cache

end Ssdp
