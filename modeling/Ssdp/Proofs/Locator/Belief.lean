import Mathlib.Data.List.Nodup
import Ssdp.Proofs.Locator.Ledger

/-!
# What events let an owner believe

An owner that looks at the last event about a key believes a device to be cached
there if it was found or updated, and none if it was lost or never heard of. Where
events come in the order in which the cache changed, this is the ledger that they
lead to.

* `about`, `believed?`: the events about a key, and what the last of them tells;
* `Ledger.believed?_of_replay`: a ledger holds what its events let believe;
* `Ledger.count_isNew_of_replay`: finds and losses of a key take turns;
* `Locator.keys_react`, `Locator.keys_sweep`: the events of one operation are about
  keys that are all different.
-/

namespace Ssdp

/-- What is cached under the key of an event once it has happened. -/
def Event.current? : Event → Option Device
  | found d | updated _ d => some d
  | lost _ => none

/-- Whether the event is about a device that is cached no more. -/
def Event.isLost : Event → Bool
  | lost _ => true
  | _ => false

/-- The events about a key. -/
def about (k : DeviceKey) (events : List Event) : List Event :=
  events.filter (·.device.key = k)

/-- The device that is believed to be cached under a key after events. -/
def believed? (k : DeviceKey) (events : List Event) : Option Device :=
  (about k events).getLast?.bind Event.current?

section

variable {k : DeviceKey}

@[simp] theorem about_append (xs ys : List Event) : about k (xs ++ ys) = about k xs ++ about k ys :=
  List.filter_append ..

theorem about_perm {xs ys : List Event} (h : xs.Perm ys) : (about k xs).Perm (about k ys) :=
  h.filter _

theorem about_cons (event : Event) (rest : List Event) : about k (event :: rest) =
    if event.device.key = k then event :: about k rest else about k rest := by
  simp [about, List.filter_cons]

/-- Events about keys that are all different hold at most one about each. -/
theorem length_about_le_one {events : List Event} (h : (events.map (·.device.key)).Nodup) :
    (about k events).length ≤ 1 := by
  have hcount := List.nodup_iff_count_le_one.1 h k
  rw [List.count, List.countP_map] at hcount
  rw [about, ← List.countP_eq_length_filter]
  refine Nat.le_trans (List.countP_mono_left fun event _ hk => ?_) hcount
  simpa using hk

end

namespace Ledger

variable {m m' : Ledger} {k : DeviceKey}

/-- An event that fits changes what is written under its key, and nothing else. -/
theorem eq_update_of_enter {event : Event} (h : m.enter event = some m') :
    m' = Function.update m event.device.key event.current? := by
  cases event <;> rw [enter, Option.ite_none_right_eq_some] at h <;>
    exact (Option.some.inj h.2).symm

/-- What is written under a key is what the last event about it tells. -/
theorem apply_of_replay {events : List Event} (h : m.replay events = some m') (k : DeviceKey) :
    m' k = match (about k events).getLast? with
      | some event => event.current?
      | none => m k := by
  induction events generalizing m with
  | nil =>
    obtain ⟨rfl⟩ := Option.some.inj h
    rfl
  | cons event rest ih =>
    obtain ⟨m₁, hm₁, hrest⟩ := Option.bind_eq_some_iff.1 h
    rw [ih hrest, eq_update_of_enter hm₁, about_cons]
    by_cases hk : event.device.key = k
    · rw [if_pos hk, ← hk, Function.update_self, List.getLast?_cons]
      cases (about event.device.key rest).getLast? <;> rfl
    · rw [if_neg hk, Function.update_of_ne (Ne.symm hk)]

theorem believed?_of_replay {events : List Event} (h : Ledger.empty.replay events = some m)
    (k : DeviceKey) : m k = believed? k events := by
  rw [apply_of_replay h k, believed?]
  cases (about k events).getLast? <;> rfl

/-- What an event does to the number of devices known under its key. -/
theorem count_of_enter {event : Event} (h : m.enter event = some m') :
    event.isNew.toNat + (m event.device.key).isSome.toNat =
      event.isLost.toNat + (m' event.device.key).isSome.toNat := by
  rw [eq_update_of_enter h, Function.update_self]
  cases event with
  | found d =>
    rw [enter, Option.ite_none_right_eq_some] at h
    simp [Event.isNew, Event.isLost, Event.current?, Event.device, h.1]
  | updated old new =>
    rw [enter, Option.ite_none_right_eq_some] at h
    simp [Event.isNew, Event.isLost, Event.current?, Event.device, h.1.1, h.1.2]
  | lost d =>
    rw [enter, Option.ite_none_right_eq_some] at h
    simp [Event.isNew, Event.isLost, Event.current?, Event.device, h.1]

/-- Finds and losses of a key take turns: there is one find more if a device is
known in the end that was not at first. -/
theorem count_isNew_of_replay {events : List Event} (h : m.replay events = some m')
    (k : DeviceKey) : (about k events).countP Event.isNew + (m k).isSome.toNat =
      (about k events).countP Event.isLost + (m' k).isSome.toNat := by
  induction events generalizing m with
  | nil =>
    obtain ⟨rfl⟩ := Option.some.inj h
    rfl
  | cons event rest ih =>
    obtain ⟨m₁, hm₁, hrest⟩ := Option.bind_eq_some_iff.1 h
    have hih := ih hrest
    rw [about_cons]
    by_cases hk : event.device.key = k
    · have hcount := count_of_enter hm₁
      rw [hk] at hcount
      rw [if_pos hk, List.countP_cons, List.countP_cons]
      cases hnew : event.isNew <;> cases hlost : event.isLost <;>
        simp only [hnew, hlost, Bool.toNat_true, Bool.toNat_false, if_true, Bool.false_eq_true,
          if_false] at hcount ⊢ <;> omega
    · rw [eq_update_of_enter hm₁, Function.update_of_ne (Ne.symm hk)] at hih
      rw [if_neg hk]
      exact hih

end Ledger

/-! ## One event for a key -/

namespace Locator

theorem keys_lose {l : Locator} (h : l.cache.Sound) (order : VisitOrder)
    (p : DeviceKey × Device → Bool) :
    ((l.lose order (l.cache.takeOut p)).2.map (·.device.key)).Nodup := by
  have hkeys : ((l.cache.takeOut p).2.map Event.lost).map (·.device.key) =
      (l.cache.entries.filter p).map (·.1) := by
    rw [Cache.takeOut, List.map_map, List.map_map]
    refine List.map_congr_left fun e he => ?_
    exact (h.keyed e (List.mem_filter.1 he).1).symm
  refine ((((order.arrange_perm _).map _).map _).nodup_iff).2 ?_
  rw [hkeys]
  exact h.distinct.sublist (List.filter_sublist.map _)

theorem keys_heed {l : Locator} (h : l.cache.Sound) (order : VisitOrder) (v : Verdict) :
    ((l.heed order v).2.map (·.device.key)).Nodup := by
  cases v with
  | ignore => exact List.nodup_nil
  | refresh d => simp [heed]
  | farewell usn => exact keys_lose h order _

theorem keys_sweep {l : Locator} (h : l.cache.Sound) (clock : Conditions) :
    ((l.sweep clock).2.map (·.device.key)).Nodup :=
  keys_lose h clock.order _

theorem keys_react [UrlParser] {l : Locator} (h : l.cache.Sound) (clock : Conditions)
    (op : Operation) : ((l.react clock op).2.map (·.device.key)).Nodup := by
  cases op with
  | answer e => exact keys_heed h _ _
  | announcement e => exact keys_heed h _ _
  | _ => exact List.nodup_nil

end Locator

end Ssdp
