import Ssdp.Proofs.ControlPoint.Registration
import Ssdp.Proofs.ControlPoint.Threads
import Ssdp.Proofs.Locator.Lifecycle

/-!
# Locators and other code at one router

Locators and other code subscribe to the same router, under the same keys and with
numbers from the same count. Code that takes out no numbers but its own leaves the
locators subscribed, whichever threads it runs on and whoever calls it.

* `ControlPoint.codeRegistrations`: what a step adds and takes out for other code;
* `CivilMove`, `CivilLeads`: moves of threads while other code takes out only numbers of
  its own, with what it has added and taken out;
* `InOrder`: what is true of the router and of all locators then, and
  `CivilLeads.inOrder`: it is, from the start on.
-/

namespace Ssdp

variable {ν : Type}

/-! ## What other code adds and takes out -/

/-- The subscription, if it is one of other code. -/
def Subscription.code? :
    Subscription (Subscriber ν) → Option (Subscription (Received → Script ν))
  | ⟨id, .code handler⟩ => some ⟨id, handler⟩
  | _ => none

/-- The key that a handler of a locator belongs under. -/
def Subscriber.key? : Subscriber ν → Option Text
  | .answers _ => some responseStartLine
  | .announcements _ => some notifyKey
  | .code _ => none

/-- The registrations of a step that other code asks for. -/
def ControlPoint.codeRegistrations (c : ControlPoint ν) :
    Task ν → List (Registration (Received → Script ν))
  | .script _ (.subscribe key handler _) => [.added key ⟨⟨c.router.nextId⟩, handler⟩]
  | .script _ (.unsubscribe key id _) => [.removed key id]
  | _ => []

/-- Whether a task takes out a number only if it was given to other code. -/
def Task.Civil (log : List (Registration (Received → Script ν))) : Task ν → Prop
  | .script _ (.unsubscribe _ id _) => ∃ key s, .added key s ∈ log ∧ s.id = id
  | _ => True

variable [UrlParser]

omit [UrlParser] in
theorem Subscription.code?_eq_none_iff {s : Subscription (Subscriber ν)} :
    s.code? = none ↔ s.handler.locator?.isSome = true := by
  obtain ⟨id, handler⟩ := s
  cases handler <;> simp [code?, Subscriber.locator?]

omit [UrlParser] in
theorem Subscription.id_of_code? {s : Subscription (Subscriber ν)}
    {s' : Subscription (Received → Script ν)} (h : s.code? = some s') : s'.id = s.id := by
  obtain ⟨id, handler⟩ := s
  cases handler with
  | code handler =>
    cases h
    rfl
  | _ => cases h

omit [UrlParser] in
/-- Taking a number out takes it out of what is subscribed for other code. -/
theorem filterMap_code?_filter_id (subs : List (Subscription (Subscriber ν))) (id : HandlerId) :
    (subs.filter (·.id ≠ id)).filterMap Subscription.code? =
      (subs.filterMap Subscription.code?).filter (·.id ≠ id) := by
  rw [List.filter_filterMap, List.filterMap_filter]
  refine List.filterMap_congr fun s _ => ?_
  cases hs : s.code? with
  | none => simp
  | some s' =>
    have hid := Subscription.id_of_code? hs
    by_cases h : s.id = id <;> simp [Option.filter, hid, h]

namespace ControlPoint

variable {c : ControlPoint ν}

/-- Locators come and go without a difference to what is subscribed for other code. -/
theorem code_perform (h : Wired c.router c.kept) (task : Task ν) (key : Text) :
    ((c.perform task).state.router.subscriptions key).filterMap Subscription.code? =
      subscribedAfter key ((c.router.subscriptions key).filterMap Subscription.code?)
        (c.codeRegistrations task) := by
  by_cases hcode : c.codeRegistrations task = []
  · rw [hcode]
    cases c.rewires_perform task with
    | same hr hk =>
      rw [hr]
      rfl
    | subscribe caller k handler next hr hk => nomatch hcode
    | unsubscribe caller k id next hr hk => nomatch hcode
    | build caller config owner next hr hk =>
      rw [hr]
      simp only [Router.subscriptions_subscribe]
      split <;> split <;> simp [Subscription.code?, subscribedAfter]
    | retire id op hr hk =>
      rw [hr, h.subscriptions_unsubscribeAll, List.filterMap_filter]
      refine List.filterMap_congr fun s _ => ?_
      split
      · rfl
      · rename_i hid
        have hsome : s.handler.locator? = some id := by simpa using hid
        exact (Subscription.code?_eq_none_iff.2 (by rw [hsome]; rfl)).symm
  · cases task with
    | script caller body =>
      cases body with
      | subscribe k handler next =>
        show ((c.router.subscribe k _).1.subscriptions key).filterMap _ = _
        rw [Router.subscriptions_subscribe]
        by_cases hk : key = k
        · subst hk
          simp [codeRegistrations, subscribedAfter, Registration.apply, Subscription.code?]
        · simp [codeRegistrations, subscribedAfter, Registration.apply, hk, Ne.symm hk]
      | unsubscribe k id next =>
        show ((c.router.unsubscribe k id).1.subscriptions key).filterMap _ = _
        rw [h.sound.subscriptions_unsubscribe]
        by_cases hk : key = k
        · subst hk
          rw [if_pos rfl, filterMap_code?_filter_id]
          simp [codeRegistrations, subscribedAfter, Registration.apply]
        · simp [codeRegistrations, subscribedAfter, Registration.apply, hk, Ne.symm hk]
      | _ => exact absurd rfl hcode
    | _ => exact absurd rfl hcode

/-- A number that a locator keeps after a step it kept before it, or it was still to be
given. -/
theorem kept_perform {task : Task ν} {id : LocatorId} {key : Text} {hid : HandlerId}
    (h : (key, hid) ∈ (c.perform task).state.kept id) :
    (key, hid) ∈ c.kept id ∨ c.router.nextId ≤ hid.number := by
  cases c.rewires_perform task with
  | same hr hk => exact .inl (hk ▸ h)
  | subscribe caller k handler next hr hk => exact .inl (hk ▸ h)
  | unsubscribe caller k id' next hr hk => exact .inl (hk ▸ h)
  | build caller config owner next hr hk =>
    rw [hk] at h
    by_cases hid' : id = c.slots.length
    · subst hid'
      rw [Function.update_self] at h
      simp only [List.mem_cons, List.not_mem_nil, or_false, Prod.mk.injEq] at h
      obtain ⟨-, rfl⟩ | ⟨-, rfl⟩ := h
      · exact .inr (Nat.le_refl _)
      · exact .inr (Nat.le_succ _)
    · rw [Function.update_of_ne hid'] at h
      exact .inl h
  | retire id' op hr hk =>
    rw [hk] at h
    by_cases hid' : id = id'
    · subst hid'
      rw [Function.update_self] at h
      exact (List.not_mem_nil h).elim
    · rw [Function.update_of_ne hid'] at h
      exact .inl h

end ControlPoint

/-! ## Civil moves -/

/-- Threads that share a control point, with what other code has added to its router and
taken out of it so far. -/
structure Logged (ν : Type) where
  threads : Threads ν
  log : List (Registration (Received → Script ν))

/-- A control point without locators and subscribers, and threads with nothing to do. -/
def Logged.fresh (notes : ν) (clock : Conditions) (link : Link) (attempts threads : Nat) :
    Logged ν :=
  ⟨⟨{ notes, clock, link, attempts }, [], List.replicate threads []⟩, []⟩

/-- One move of threads: one of them performs its next task, the clock and the link
change, or one that has nothing to do is asked for something. Other code takes out only
numbers that it was given. -/
inductive CivilMove : Logged ν → Logged ν → Prop
  | perform {log : List (Registration (Received → Script ν))} {c : ControlPoint ν}
    {shown : List Entry} {before after : List (List (Task ν))} {task : Task ν}
    {rest : List (Task ν)} (hcivil : task.Civil log) :
    CivilMove ⟨⟨c, shown, before ++ (task :: rest) :: after⟩, log⟩
      ⟨⟨(c.perform task).state, shown ++ (c.perform task).journal,
        before ++ ((c.perform task).todo ++ rest) :: after⟩, log ++ c.codeRegistrations task⟩
  | turn {log : List (Registration (Received → Script ν))} {c : ControlPoint ν}
    {shown : List Entry} {agendas : List (List (Task ν))} (clock : Conditions) (link : Link) :
    CivilMove ⟨⟨c, shown, agendas⟩, log⟩ ⟨⟨{ c with clock, link }, shown, agendas⟩, log⟩
  | ask {log : List (Registration (Received → Script ν))} {c : ControlPoint ν}
    {shown : List Entry} {before after : List (List (Task ν))} {task : Task ν}
    (hreq : task.IsRequest) :
    CivilMove ⟨⟨c, shown, before ++ [] :: after⟩, log⟩
      ⟨⟨c, shown, before ++ [task] :: after⟩, log⟩

/-- Any number of civil moves. -/
abbrev CivilLeads : Logged ν → Logged ν → Prop :=
  Relation.ReflTransGen CivilMove

/-! ## Order -/

/-- What is true while other code is civil: subscriptions and numbers belong together,
and every handler of a locator is under its key; every number that a locator keeps is in
use, none of them was ever given to other code, and what is subscribed for other code is
what it has added and not taken out. -/
structure InOrder (log : List (Registration (Received → Script ν))) (c : ControlPoint ν) :
    Prop where
  wired : Wired c.router c.kept
  distinct : c.router.Distinct
  orderly : ∀ (id : LocatorId) s, c.slots[id]? = some s → s.locator.Orderly
  coherent : ∀ (id : LocatorId) s, c.slots[id]? = some s → s.locator.Coherent
  sound : ∀ (id : LocatorId) s, c.slots[id]? = some s → s.locator.cache.Sound
  placed : ∀ key s, s ∈ c.router.subscriptions key → ∀ k, s.handler.key? = some k → k = key
  inUse : ∀ id key hid, (key, hid) ∈ c.kept id →
    ∃ s ∈ c.router.subscriptions key, s.id = hid
  foreign : ∀ key s, .added key s ∈ log →
    s.id.number < c.router.nextId ∧ ∀ id k, (k, s.id) ∉ c.kept id
  code : ∀ key, (c.router.subscriptions key).filterMap Subscription.code? = subscribed key log

namespace InOrder

variable {log : List (Registration (Received → Script ν))} {c : ControlPoint ν} {task : Task ν}

theorem fresh (notes : ν) (clock : Conditions) (link : Link) (attempts : Nat) :
    InOrder [] ({ notes, clock, link, attempts } : ControlPoint ν) := by
  have hfresh : Reached (fun _ => True) ⟨{ notes, clock, link, attempts }, [], []⟩ :=
    .fresh notes clock link attempts
  exact {
    wired := hfresh.wired
    distinct := hfresh.distinct
    orderly := fun id s hs => by simp at hs
    coherent := fun id s hs => by simp at hs
    sound := fun id s hs => by simp at hs
    placed := fun key s hs => (List.not_mem_nil hs).elim
    inUse := fun id key hid hm => by
      rw [ControlPoint.kept_of_none rfl] at hm
      exact (List.not_mem_nil hm).elim
    foreign := fun key s hs => nomatch hs
    code := fun key => rfl }

/-- A number that a locator keeps stays in use. -/
theorem inUse_perform (h : InOrder log c) (hcivil : task.Civil log) (id : LocatorId) (key : Text)
    (hid : HandlerId) (hkept : (key, hid) ∈ (c.perform task).state.kept id) :
    ∃ s ∈ (c.perform task).state.router.subscriptions key, s.id = hid := by
  cases c.rewires_perform task with
  | same hr hk =>
    rw [hk] at hkept
    rw [hr]
    exact h.inUse id key hid hkept
  | subscribe caller k handler next hr hk =>
    rw [hk] at hkept
    obtain ⟨s, hs, hsid⟩ := h.inUse id key hid hkept
    refine ⟨s, ?_, hsid⟩
    rw [hr, Router.subscriptions_subscribe]
    split
    · exact List.mem_append_left _ hs
    · exact hs
  | unsubscribe caller k id' next hr hk =>
    rw [hk] at hkept
    obtain ⟨s, hs, hsid⟩ := h.inUse id key hid hkept
    refine ⟨s, ?_, hsid⟩
    rw [hr, h.wired.sound.subscriptions_unsubscribe]
    split
    · -- The number taken out was given to other code, so no locator keeps it.
      obtain ⟨k', s', hadded, rfl⟩ := hcivil
      refine List.mem_filter.2 ⟨hs, decide_eq_true fun heq => ?_⟩
      rw [← hsid, heq] at hkept
      exact (h.foreign k' s' hadded).2 id key hkept
    · exact hs
  | build caller config owner next hr hk =>
    rw [hk] at hkept
    rw [hr]
    simp only [Router.subscriptions_subscribe]
    by_cases hid' : id = c.slots.length
    · subst hid'
      rw [Function.update_self] at hkept
      simp only [List.mem_cons, List.not_mem_nil, or_false, Prod.mk.injEq] at hkept
      obtain ⟨rfl, rfl⟩ | ⟨rfl, rfl⟩ := hkept
      · exact ⟨⟨⟨c.router.nextId⟩, .answers c.slots.length⟩, by split <;> simp, rfl⟩
      · exact ⟨⟨⟨c.router.nextId + 1⟩, .announcements c.slots.length⟩,
          by simp [Router.subscribe], rfl⟩
    · rw [Function.update_of_ne hid'] at hkept
      obtain ⟨s, hs, hsid⟩ := h.inUse id key hid hkept
      exact ⟨s, by split <;> split <;> simp [hs], hsid⟩
  | retire id' op hr hk =>
    rw [hk] at hkept
    by_cases hid' : id = id'
    · subst hid'
      rw [Function.update_self] at hkept
      exact (List.not_mem_nil hkept).elim
    · rw [Function.update_of_ne hid'] at hkept
      obtain ⟨s, hs, rfl⟩ := h.inUse id key hid hkept
      refine ⟨s, ?_, rfl⟩
      rw [hr, h.wired.subscriptions_unsubscribeAll]
      refine List.mem_filter.2 ⟨hs, decide_eq_true fun hother => ?_⟩
      rw [(h.wired.belongs key s hs id).2 hkept] at hother
      exact hid' (Option.some.inj hother)

/-- A number that is given to other code is kept by no locator, then and later. -/
theorem foreign_perform (h : InOrder log c) {key : Text}
    {s : Subscription (Received → Script ν)}
    (hs : .added key s ∈ log ++ c.codeRegistrations task) :
    s.id.number < (c.perform task).state.router.nextId ∧
      ∀ id k, (k, s.id) ∉ (c.perform task).state.kept id := by
  rcases List.mem_append.1 hs with hs | hs
  · obtain ⟨hlt, hkept⟩ := h.foreign key s hs
    refine ⟨Nat.lt_of_lt_of_le hlt (c.nextId_perform_le task), fun id k hm => ?_⟩
    rcases ControlPoint.kept_perform hm with hm | hle
    · exact hkept id k hm
    · exact Nat.lt_irrefl _ (Nat.lt_of_lt_of_le hlt hle)
  · cases task with
    | script caller body =>
      cases body with
      | subscribe k handler next =>
        obtain ⟨-, rfl⟩ := Registration.added.inj (List.mem_singleton.1 hs)
        exact ⟨Nat.lt_succ_self _, fun id k hm => Nat.lt_irrefl _ (h.wired.kept_lt id k _ hm)⟩
      | unsubscribe k id next => nomatch List.mem_singleton.1 hs
      | _ => nomatch hs
    | _ => nomatch hs

theorem perform (h : InOrder log c) (hcivil : task.Civil log) :
    InOrder (log ++ c.codeRegistrations task) (c.perform task).state where
  wired := h.wired.rewire (c.rewires_perform task)
  distinct := (c.rewires_perform task).distinct h.wired.sound h.distinct
  orderly := c.forall_locators_perform Locator.orderly_built
    (fun l id clock hl => hl.undergo id clock) h.orderly task
  coherent := c.forall_locators_perform Locator.coherent_built
    (fun l id clock hl => hl.undergo id clock) h.coherent task
  sound := c.forall_locators_perform (P := fun l => l.cache.Sound) (fun _ _ => Cache.sound_empty)
    (fun l id clock hl => Locator.sound_undergo hl id clock) h.sound task
  placed := h.wired.forall_subscriptions_perform
    (P := fun key handler => ∀ k, handler.key? = some k → k = key)
    (fun id k hk => (Option.some.inj hk).symm) (fun id k hk => (Option.some.inj hk).symm)
    (fun _ _ _ _ _ => nofun) h.placed
  inUse := h.inUse_perform hcivil
  foreign key s hs := h.foreign_perform hs
  code key := by rw [ControlPoint.code_perform h.wired, h.code, subscribed_append]

theorem move {r r' : Logged ν} (h : InOrder r.log r.threads.state) (hm : CivilMove r r') :
    InOrder r'.log r'.threads.state := by
  cases hm with
  | perform hcivil => exact h.perform hcivil
  | turn clock link =>
    exact ⟨h.wired, h.distinct, h.orderly, h.coherent, h.sound, h.placed, h.inUse, h.foreign,
      h.code⟩
  | ask hreq => exact h

end InOrder

theorem CivilLeads.inOrder {notes : ν} {clock : Conditions} {link : Link} {attempts threads : Nat}
    {r : Logged ν} (h : CivilLeads (.fresh notes clock link attempts threads) r) :
    InOrder r.log r.threads.state := by
  induction h with
  | refl => exact .fresh notes clock link attempts
  | tail _ hm ih => exact ih.move hm

end Ssdp
