import Mathlib.Logic.Function.Basic
import Ssdp.Proofs.Locator.Reaction

/-!
# Ledgers

An owner that writes down what it is told has a ledger: at each key the device
it was last told of, unless that was lost. An event fits a ledger if it could
have been written there: a device that is found was not known under its key, one
that is updated or lost is known exactly as the event gives it.

* `Ledger.replay`: the ledger after a list of events that all fit;
* `Ledger.replay_react`, `Ledger.replay_sweep`: the events of an operation fit
  the devices cached before it, and lead to those cached after it.
-/

namespace Ssdp

/-- What an owner has written down under each key. -/
abbrev Ledger := DeviceKey → Option Device

namespace Ledger

/-- The ledger in which nothing is written. -/
def empty : Ledger :=
  fun _ => none

/-- The ledger after an event, if the event fits. -/
def enter (m : Ledger) : Event → Option Ledger
  | .found d => if m d.key = none then some (Function.update m d.key (some d)) else none
  | .updated old new =>
    if new.key = old.key ∧ m old.key = some old then
      some (Function.update m new.key (some new))
    else none
  | .lost d => if m d.key = some d then some (Function.update m d.key none) else none

/-- The ledger after events, if each fits in its turn. -/
def replay (m : Ledger) : List Event → Option Ledger
  | [] => some m
  | event :: rest => (m.enter event).bind fun m' => replay m' rest

theorem replay_append (m : Ledger) (xs ys : List Event) :
    m.replay (xs ++ ys) = (m.replay xs).bind fun m' => m'.replay ys := by
  induction xs generalizing m with
  | nil => rfl
  | cons event rest ih =>
    simp only [List.cons_append, replay]
    cases m.enter event with
    | none => rfl
    | some m' => exact ih m'

/-- Events that all fit do so up to any point. -/
theorem exists_replay_of_append {m m' : Ledger} {xs ys : List Event}
    (h : m.replay (xs ++ ys) = some m') : ∃ m₁, m.replay xs = some m₁ ∧ m₁.replay ys = some m' := by
  rw [replay_append, Option.bind_eq_some_iff] at h
  exact h

/-- Losing devices that are all known under keys of their own. -/
theorem replay_losses {es : List (DeviceKey × Device)} {m : Ledger}
    (hk : ∀ e ∈ es, e.1 = e.2.key) (hm : ∀ e ∈ es, m e.1 = some e.2)
    (hd : (es.map (·.1)).Nodup) :
    m.replay ((es.map (·.2)).map .lost) =
      some fun k => if k ∈ es.map (·.1) then none else m k := by
  induction es generalizing m with
  | nil => simp [replay]
  | cons e rest ih =>
    obtain ⟨hnot, hd⟩ := List.nodup_cons.1 hd
    have he : m e.2.key = some e.2 := by
      rw [← hk e List.mem_cons_self]
      exact hm e List.mem_cons_self
    have hm' : ∀ x ∈ rest, Function.update m e.2.key none x.1 = some x.2 := by
      intro x hx
      have hne : x.1 ≠ e.2.key := by
        rw [← hk e List.mem_cons_self]
        intro heq
        exact hnot (List.mem_map.2 ⟨x, hx, heq⟩)
      rw [Function.update_of_ne hne]
      exact hm x (List.mem_cons_of_mem _ hx)
    simp only [List.map_cons, replay, enter, he, if_true, Option.bind_some]
    rw [ih (fun x hx => hk x (List.mem_cons_of_mem _ hx)) hm' hd]
    refine congrArg some (funext fun k => ?_)
    rw [hk e List.mem_cons_self]
    by_cases hke : k = e.2.key
    · simp [hke]
    · rw [Function.update_of_ne hke]
      simp only [List.mem_cons, hke, false_or]

/-- Taking devices out of a cache, and losing them one by one, in any order. -/
theorem replay_lose {l : Locator} (h : l.cache.Sound) (order : VisitOrder)
    (p : DeviceKey × Device → Bool) :
    Ledger.replay l.cache.device? (l.lose order (l.cache.takeOut p)).2 =
      some (l.cache.takeOut p).1.device? := by
  let es := order.arrange (l.cache.entries.filter p)
  have hmem {e : DeviceKey × Device} : e ∈ es ↔ e ∈ l.cache.entries ∧ p e = true :=
    VisitOrder.mem_arrange.trans List.mem_filter
  have hdistinct : (es.map (·.1)).Nodup := by
    refine (((order.arrange_perm _).map _).nodup_iff).2 ?_
    exact h.distinct.sublist (List.filter_sublist.map _)
  have hlost : (l.lose order (l.cache.takeOut p)).2 = (es.map (·.2)).map .lost :=
    congrArg (List.map Event.lost) (order.arrange_map _ _)
  rw [hlost, replay_losses (fun e he => h.keyed e (hmem.1 he).1)
    (fun e he => h.device?_eq_some_iff.2 (hmem.1 he).1) hdistinct]
  refine congrArg some (funext fun k => ?_)
  rw [h.device?_takeOut]
  by_cases hk : k ∈ es.map (·.1)
  · obtain ⟨⟨k, d⟩, he, rfl⟩ := List.mem_map.1 hk
    rw [if_pos hk, h.device?_eq_some_iff.2 (hmem.1 he).1]
    simp [Option.filter, (hmem.1 he).2]
  · rw [if_neg hk]
    cases hd : l.cache.device? k with
    | none => rfl
    | some d =>
      have hp : p (k, d) = false := by
        refine Bool.eq_false_iff.2 fun hp => hk (List.mem_map.2 ⟨(k, d), ?_, rfl⟩)
        exact hmem.2 ⟨Cache.mem_of_device? hd, hp⟩
      simp [Option.filter, hp]

/-- Caching a device, and the event that goes with it. -/
theorem enter_refresh {l : Locator} (h : l.cache.Sound) (d : Device) :
    enter l.cache.device? (l.refresh d).2 = some (l.refresh d).1.cache.device? := by
  have hset : (l.cache.replace d).1.device? = Function.update l.cache.device? d.key (some d) := by
    refine funext fun k => ?_
    rw [Cache.device?_replace, Function.update_apply]
  have hold := l.cache.replace_snd d
  unfold Locator.refresh
  split <;> rename_i heq <;> rw [heq] at hset hold
  · simp only [enter, ← hold, if_true, hset]
  · rename_i old
    have hkey : old.key = d.key := h.key_eq hold.symm
    simp only [enter, hkey, ← hold, and_self, if_true, hset]

theorem replay_heed {l : Locator} (h : l.cache.Sound) (order : VisitOrder) (v : Verdict) :
    Ledger.replay l.cache.device? (l.heed order v).2 = some (l.heed order v).1.cache.device? := by
  cases v with
  | ignore => rfl
  | refresh d => simp [Locator.heed, replay, enter_refresh h]
  | farewell usn => exact replay_lose h order _

/-- The events of a sweep lead from the devices cached before it to those cached
after it. -/
theorem replay_sweep {l : Locator} (h : l.cache.Sound) (clock : Conditions) :
    Ledger.replay l.cache.device? (l.sweep clock).2 = some (l.sweep clock).1.cache.device? :=
  replay_lose h clock.order _

/-- The events of an operation lead from the devices cached before it to those
cached after it. -/
theorem replay_react [UrlParser] {l : Locator} (h : l.cache.Sound) (clock : Conditions)
    (op : Operation) :
    Ledger.replay l.cache.device? (l.react clock op).2 =
      some (l.react clock op).1.cache.device? := by
  cases op with
  | start =>
    show some _ = some (if _ then l else { l with listening := true, timer := true }).cache.device?
    split <;> rfl
  | answer e => exact replay_heed h _ _
  | announcement e => exact replay_heed h _ _
  | _ => rfl

end Ledger

end Ssdp
