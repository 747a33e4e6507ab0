import Mathlib.Algebra.BigOperators.Group.Multiset.Basic
import Mathlib.Algebra.Order.Group.Multiset
import Ssdp.Proofs.Locator.Reaction

/-!
# Devices announced and reported gone

An event announces a device, reports one gone, or does both when a cached device
gives way to one that was heard of since. What an operation announces is cached
after it, or its event reports what it took the place of; so no device is lost or
doubled on the way.

* `announced`, `gone`: the devices of events, each as often as it is told;
* `Locator.balance_react`, `Locator.balance_sweep`: the events of an operation
  account for the devices cached before and after it.
-/

namespace Ssdp

/-- The devices that an event announces. -/
def Event.announced : Event → Multiset Device
  | found d | updated _ d => {d}
  | lost _ => 0

/-- The devices that an event reports gone. -/
def Event.gone : Event → Multiset Device
  | found _ => 0
  | updated d _ | lost d => {d}

/-- The devices that events announce, each as often as they do. -/
def announced (events : List Event) : Multiset Device :=
  (events.map Event.announced).sum

/-- The devices that events report gone, each as often as they do. -/
def gone (events : List Event) : Multiset Device :=
  (events.map Event.gone).sum

@[simp] theorem announced_nil : announced [] = 0 := rfl

@[simp] theorem gone_nil : gone [] = 0 := rfl

@[simp] theorem announced_cons (event : Event) (events : List Event) :
    announced (event :: events) = event.announced + announced events := by
  simp [announced]

@[simp] theorem gone_cons (event : Event) (events : List Event) :
    gone (event :: events) = event.gone + gone events := by
  simp [gone]

@[simp] theorem announced_append (xs ys : List Event) :
    announced (xs ++ ys) = announced xs + announced ys := by
  simp [announced]

@[simp] theorem gone_append (xs ys : List Event) : gone (xs ++ ys) = gone xs + gone ys := by
  simp [gone]

/-- The order in which events are told makes no difference. -/
theorem announced_perm {xs ys : List Event} (h : xs.Perm ys) : announced xs = announced ys :=
  (h.map _).sum_eq

theorem gone_perm {xs ys : List Event} (h : xs.Perm ys) : gone xs = gone ys :=
  (h.map _).sum_eq

/-- Losses announce nothing, and report each device gone. -/
theorem announced_losses (ds : List Device) : announced (ds.map .lost) = 0 := by
  induction ds with
  | nil => rfl
  | cons d rest ih => simp [ih, Event.announced]

theorem gone_losses (ds : List Device) : gone (ds.map .lost) = ↑ds := by
  induction ds with
  | nil => rfl
  | cons d rest ih => simp [ih, Event.gone]

/-- Events account for a change of the devices cached: what was there or is announced
is there after them or is reported gone. -/
def Balances (before after : Cache) (events : List Event) : Prop :=
  announced events + ↑before.devices = ↑after.devices + gone events

theorem balances_nil (c : Cache) : Balances c c [] := by
  simp [Balances]

theorem Balances.append {c₀ c₁ c₂ : Cache} {xs ys : List Event} (h : Balances c₀ c₁ xs)
    (h' : Balances c₁ c₂ ys) : Balances c₀ c₂ (xs ++ ys) := by
  unfold Balances at *
  calc announced (xs ++ ys) + ↑c₀.devices
      = announced ys + (announced xs + ↑c₀.devices) := by
        rw [announced_append, add_comm (announced xs), add_assoc]
    _ = (announced ys + ↑c₁.devices) + gone xs := by rw [h, add_assoc]
    _ = ↑c₂.devices + gone (xs ++ ys) := by
        rw [h', gone_append, add_assoc, add_comm (gone ys)]

namespace Locator

theorem balance_lose (l : Locator) (order : VisitOrder) (p : DeviceKey × Device → Bool) :
    Balances l.cache (l.cache.takeOut p).1 (l.lose order (l.cache.takeOut p)).2 := by
  have hlost : (order.arrange (l.cache.takeOut p).2 : Multiset Device) = (l.cache.takeOut p).2 :=
    Multiset.coe_eq_coe.2 (order.arrange_perm _)
  rw [Balances, lose, announced_losses, gone_losses, zero_add, hlost, Cache.devices_takeOut]

theorem balance_refresh (l : Locator) (d : Device) :
    Balances l.cache (l.refresh d).1.cache [(l.refresh d).2] := by
  have hreplace := l.cache.devices_replace d
  unfold refresh
  cases hr : l.cache.replace d with
  | mk cache old =>
    rw [hr] at hreplace
    cases old with
    | none => simpa [Balances, Event.announced, Event.gone] using hreplace.symm
    | some old => simpa [Balances, Event.announced, Event.gone] using hreplace.symm

theorem balance_heed (l : Locator) (order : VisitOrder) (v : Verdict) :
    Balances l.cache (l.heed order v).1.cache (l.heed order v).2 := by
  cases v with
  | ignore => exact balances_nil _
  | refresh d => exact l.balance_refresh d
  | farewell usn => exact l.balance_lose order _

theorem balance_sweep (l : Locator) (clock : Conditions) :
    Balances l.cache (l.sweep clock).1.cache (l.sweep clock).2 :=
  l.balance_lose clock.order _

theorem balance_react [UrlParser] (l : Locator) (clock : Conditions) (op : Operation) :
    Balances l.cache (l.react clock op).1.cache (l.react clock op).2 := by
  cases op with
  | start =>
    simp only [react]
    split <;> exact balances_nil _
  | answer e => exact l.balance_heed _ _
  | announcement e => exact l.balance_heed _ _
  | _ => exact balances_nil _

end Locator

end Ssdp
