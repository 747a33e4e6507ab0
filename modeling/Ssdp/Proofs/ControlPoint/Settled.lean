import Ssdp.Proofs.ControlPoint.Balance

/-!
# What an owner believes when nothing is left to be told

The cache changes in one step and the event is told in a later one, so events about a
key may be told in another order than the changes were made in. A key at which no
event was pending when it was last changed is not affected.

* `believed_eq_cached`: what is true of every key, and of those not affected;
* `relapse_unsettled`: a device that is cached although its loss was told last.
-/

namespace Ssdp

variable {ν : Type}

section

variable {id : LocatorId}

/-- Under a key that is not in use no device is cached, and under any other just one. -/
theorem Cache.Sound.countP_devices {c : Cache} (h : c.Sound) (k : DeviceKey) :
    c.devices.countP (·.key = k) = (c.device? k).isSome.toNat := by
  have hcount : c.devices.countP (·.key = k) = (c.entries.map (·.1)).count k := by
    rw [← h.map_key_devices, List.count, List.countP_map]
    exact List.countP_congr fun d _ => by simp
  rw [hcount]
  cases hd : c.device? k with
  | none =>
    refine List.count_eq_zero.2 fun hk => ?_
    obtain ⟨⟨k, d⟩, he, rfl⟩ := List.mem_map.1 hk
    rw [h.device?_eq_some_iff.2 he] at hd
    cases hd
  | some d => exact List.count_eq_one_of_mem h.distinct (List.mem_map_of_mem (mem_of_device? hd))

/-- When no other event about a key was pending at its last change, and none is pending
now, the last event told about it is that of the change. -/
theorem Accounted.believed_eq {made : List Change} {t : Threads ν} (h : Accounted id made t)
    {s : Slot ν} (hs : t.state.slots[id]? = some s) (hd : s.locator.disposed = false)
    (hrest : pendingIn id t.agendas = []) {k : DeviceKey}
    (hclear : ∀ change, lastChange? k made = some change → change.clear = true) :
    believed? k (eventsOf id t.journal) = s.locator.cache.device? k := by
  rw [Ledger.believed?_of_replay (h.replay s hs) k, believed?, believed?,
    getLast?_about_map]
  cases hlast : lastChange? k made with
  | none =>
    have hnone : about k (made.map (·.event)) = [] := by
      rw [← List.getLast?_eq_none_iff, getLast?_about_map, hlast]
      rfl
    have hperm := about_perm (k := k) (h.told s hs hd)
    rw [hrest, List.append_nil, hnone] at hperm
    rw [hperm.eq_nil]
    rfl
  | some change =>
    obtain ⟨-, htold⟩ | hone := h.current s hs hd k change hlast (hclear change hlast)
    · rw [htold]
      rfl
    · rw [hrest] at hone
      cases hone

variable [UrlParser]

/-- What the owner of a locator that is not disposed can believe when none of its events
is pending, as when all threads have nothing left to do, in whatever order they took
their steps, in whatever order the cache was gone through each time that devices left or
expired together, and whatever owners did when they were told. The events of all changes
to the cache were told, each once. Under every key devices were found once more than lost
if one is cached there, and as often if none is. And under every key at which no event
was still to be told when it was last changed, a device is cached if and only if the
last event about the key found or updated it. -/
theorem believed_eq_cached {made : List Change} {t : Threads ν} (h : Interleaved id made t)
    {s : Slot ν} (hs : t.state.slots[id]? = some s) (hd : s.locator.disposed = false)
    (hrest : pendingIn id t.agendas = []) :
    let told := eventsOf id t.journal
    told.Perm (made.map (·.event)) ∧
    (∀ k, (about k told).countP Event.isNew =
      (about k told).countP Event.isLost + s.locator.cache.devices.countP (·.key = k)) ∧
    ∀ k, (∀ change, lastChange? k made = some change → change.clear = true) →
      ∀ d, believed? k told = some d ↔ d ∈ s.locator.cache.devices ∧ d.key = k := by
  intro told
  have haccounted := h.accounted
  have hsound := haccounted.sound s hs
  have hperm : told.Perm (made.map (·.event)) := by
    have hall := haccounted.told s hs hd
    rwa [hrest, List.append_nil] at hall
  refine ⟨hperm, fun k => ?_, fun k hclear d => ?_⟩
  · have hcount := Ledger.count_isNew_of_replay (haccounted.replay s hs) k
    rw [hsound.countP_devices, (about_perm hperm).countP_eq, (about_perm hperm).countP_eq]
    exact hcount
  · rw [haccounted.believed_eq hs hd hrest hclear, hsound.mem_devices_iff]
    constructor
    · intro hk
      obtain rfl := hsound.key_eq hk
      exact ⟨hk, rfl⟩
    · rintro ⟨hk, rfl⟩
      exact hk

/-! ## A single thread, step by step -/

/-- The changes that a number of steps make to the cache of a locator. -/
def Run.changes (id : LocatorId) : Nat → Run ν → List Change
  | 0, _ => []
  | _ + 1, ⟨_, _, []⟩ => []
  | n + 1, ⟨c, shown, task :: rest⟩ =>
    c.changes id (pendingEvents id (task :: rest)) task ++
      changes id n ⟨(c.perform task).state, shown ++ (c.perform task).journal,
        (c.perform task).todo ++ rest⟩

/-- A single thread goes on by steps. -/
theorem Interleaved.after {made : List Change} {r : Run ν} (h : Interleaved id made r.alone)
    (n : Nat) : Interleaved id (made ++ r.changes id n) (r.after n).alone := by
  induction n generalizing made r with
  | zero =>
    rw [Run.after_zero, Run.changes, List.append_nil]
    exact h
  | succ n ih =>
    obtain ⟨c, shown, agenda⟩ := r
    cases agenda with
    | nil => simpa [Run.after, Run.changes] using h
    | cons task rest =>
      have hnext := @Interleaved.perform _ _ _ _ _ _ [] [] _ _ h
      have hpending : pendingIn id [task :: rest] = pendingEvents id (task :: rest) :=
        Run.pendingIn_alone ⟨c, shown, task :: rest⟩
      rw [Run.after_succ, Run.changes, ← List.append_assoc, ← hpending]
      exact ih hnext

end

attribute [local instance] UrlParser.verbatim

theorem interleaved_relapse (n : Nat) :
    Interleaved 0 (relapse.changes 0 n) (relapse.after n).alone := by
  have hstart : Interleaved 0 [] relapse.alone :=
    @Interleaved.ask _ _ _ _ _ _ [] [] _ (.script _) (.fresh () {} _ 0 1)
  exact hstart.after n

/-- In the end the events of all changes were told, and the last one about the first
device, which is no longer cached, is its loss. -/
theorem relapse_settled : ∃ s, (relapse.after 80).state.slots[0]? = some s ∧
    (eventsOf 0 (relapse.after 80).journal).Perm ((relapse.changes 0 80).map (·.event)) ∧
    (lastChange? (relapseKey "a".toList) (relapse.changes 0 80)).map (·.clear) = some true ∧
    believed? (relapseKey "a".toList) (eventsOf 0 (relapse.after 80).journal) = none ∧
    ∀ d ∈ s.locator.cache.devices, d.key ≠ relapseKey "a".toList := by
  have hend : (relapse.after 80).agenda = [] :=
    List.eq_nil_of_length_eq_zero (by decide +kernel)
  have hclear : (lastChange? (relapseKey "a".toList) (relapse.changes 0 80)).map (·.clear) =
      some true := by
    decide +kernel
  have hbelieved :
      believed? (relapseKey "a".toList) (eventsOf 0 (relapse.after 80).journal) = none := by
    decide +kernel
  obtain ⟨s, hs, hd, -⟩ := exists_relapse
  have hsettled := believed_eq_cached (interleaved_relapse 80)
    (by rw [Run.alone_state]; exact hs) hd (by rw [Run.pendingIn_alone, hend]; rfl)
  rw [Run.alone_journal] at hsettled
  obtain ⟨hperm, -, hcached⟩ := hsettled
  refine ⟨s, hs, hperm, hclear, hbelieved, fun d hmem hkey => ?_⟩
  have hnone := (hcached (relapseKey "a".toList) (fun change hlast => ?_) d).2 ⟨hmem, hkey⟩
  · rw [hbelieved] at hnone
    cases hnone
  · rw [hlast] at hclear
    exact Option.some.inj hclear

/-- In the end nothing is left to be done and the locator is not disposed, but the last
event about the second device, which is cached, is a loss. It was still to be told when
the device was cached again. -/
theorem relapse_unsettled :
    Interleaved 0 (relapse.changes 0 80) (relapse.after 80).alone ∧
    (relapse.after 80).agenda.length = 0 ∧
    (∃ s, (relapse.after 80).state.slots[0]? = some s ∧ s.locator.disposed = false ∧
      s.locator.cache.devices.map Device.key = [relapseKey "b".toList]) ∧
    (about (relapseKey "b".toList) (eventsOf 0 (relapse.after 80).journal)).getLast?.map
      Event.isLost = some true ∧
    (lastChange? (relapseKey "b".toList) (relapse.changes 0 80)).map (·.clear) = some false :=
  ⟨interleaved_relapse 80, by decide +kernel, exists_relapse, by decide +kernel,
    by decide +kernel⟩

end Ssdp
