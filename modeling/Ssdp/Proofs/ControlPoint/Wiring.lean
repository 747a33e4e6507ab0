import Mathlib.Logic.Function.Basic
import Ssdp.Proofs.ControlPoint.Effect
import Ssdp.Proofs.Router

/-!
# Subscriptions of locators

A locator is subscribed when it is built, keeps the numbers that it was given,
and gives them back when it is disposed of. Other code may take any number out
of the router meanwhile, so the numbers kept may be more than those in use.

* `Rewires`, `rewires_perform`: what a step does to the router and to the numbers
  that locators keep;
* `Wired`, `Wired.rewire`: a subscription belongs to a locator if and only if the
  locator keeps its number;
* `Wired.subscriptions_unsubscribeAll`: giving back the numbers of a locator takes
  out its subscriptions, and no others;
* `Wired.forall_subscriptions_perform`: what is true of all handlers stays so if it is
  true of new ones;
* `Wired.own_perform`: when the handlers of one locator stay as they are.
-/

namespace Ssdp

variable {ν : Type}

/-- The locator that a handler belongs to, if it belongs to one. -/
def Subscriber.locator? : Subscriber ν → Option LocatorId
  | .answers id => some id
  | .announcements id => some id
  | .code _ => none

namespace ControlPoint

/-- The subscriptions that the locator in a place keeps. -/
def kept (c : ControlPoint ν) (id : LocatorId) : List (Text × HandlerId) :=
  match c.slots[id]? with
  | some s => s.locator.subscriptions
  | none => []

theorem kept_of_slot {c : ControlPoint ν} {id : LocatorId} {s : Slot ν}
    (hs : c.slots[id]? = some s) : c.kept id = s.locator.subscriptions := by
  rw [kept, hs]

theorem kept_of_none {c : ControlPoint ν} {id : LocatorId} (hn : c.slots[id]? = none) :
    c.kept id = [] := by
  rw [kept, hn]

theorem kept_congr {c c' : ControlPoint ν} (h : c'.slots = c.slots) : c'.kept = c.kept := by
  funext id
  rw [kept, kept, h]

theorem kept_modifyLocator [UrlParser] {c : ControlPoint ν} {id : LocatorId} {f : Locator → Locator}
    (hf : ∀ l, (f l).subscriptions = l.subscriptions) : (c.modifyLocator id f).kept = c.kept := by
  funext id'
  cases hs : c.slots[id']? with
  | none => rw [kept_of_none hs, kept_of_none (slots_modifyLocator_none hs id f)]
  | some s =>
    by_cases hid : id = id'
    · subst hid
      rw [kept_of_slot hs, kept_of_slot (slots_modifyLocator hs f)]
      exact hf _
    · rw [kept_of_slot hs, kept_of_slot (slots_modifyLocator_ne hs hid f)]

/-- A change to a locator may change the numbers that it keeps. -/
theorem kept_modifyLocator_update [UrlParser] {c : ControlPoint ν} {id : LocatorId} {s : Slot ν}
    (hs : c.slots[id]? = some s) (f : Locator → Locator) :
    (c.modifyLocator id f).kept = Function.update c.kept id (f s.locator).subscriptions := by
  funext id'
  by_cases hid : id' = id
  · subst hid
    rw [Function.update_self, kept_of_slot (slots_modifyLocator hs f)]
  · rw [Function.update_of_ne hid]
    cases hs' : c.slots[id']? with
    | none => rw [kept_of_none hs', kept_of_none (slots_modifyLocator_none hs' id f)]
    | some s' =>
      rw [kept_of_slot hs', kept_of_slot (slots_modifyLocator_ne hs' (Ne.symm hid) f)]

theorem kept_build {c : ControlPoint ν} {router : Router (Subscriber ν)} {s : Slot ν} :
    ({ c with router, slots := c.slots ++ [s] } : ControlPoint ν).kept =
      Function.update c.kept c.slots.length s.locator.subscriptions := by
  funext id
  rcases Nat.lt_trichotomy id c.slots.length with hlt | rfl | hgt
  · rw [Function.update_of_ne (Nat.ne_of_lt hlt)]
    simp only [kept, List.getElem?_append_left hlt]
  · rw [Function.update_self]
    exact kept_of_slot (s := s) (by simp)
  · rw [Function.update_of_ne (Nat.ne_of_gt hgt), kept_of_none, kept_of_none]
    · exact List.getElem?_eq_none (Nat.le_of_lt hgt)
    · exact List.getElem?_eq_none (by simpa using Nat.succ_le_of_lt hgt)

end ControlPoint

/-- What a step can do to the router and to the subscriptions that locators keep. -/
inductive Rewires (c : ControlPoint ν) : Task ν → ControlPoint ν → Prop
  | same {task : Task ν} {c' : ControlPoint ν} (hr : c'.router = c.router)
    (hk : c'.kept = c.kept) : Rewires c task c'
  | subscribe {c' : ControlPoint ν} (caller : Caller) (key : Text) (handler : Received → Script ν)
    (next : HandlerId → Script ν) (hr : c'.router = (c.router.subscribe key (.code handler)).1)
    (hk : c'.kept = c.kept) : Rewires c (.script caller (.subscribe key handler next)) c'
  | unsubscribe {c' : ControlPoint ν} (caller : Caller) (key : Text) (id : HandlerId)
    (next : Bool → Script ν) (hr : c'.router = (c.router.unsubscribe key id).1)
    (hk : c'.kept = c.kept) : Rewires c (.script caller (.unsubscribe key id next)) c'
  | build {c' : ControlPoint ν} (caller : Caller) (config : LocatorConfig)
    (owner : Event → Script ν) (next : Except ConfigError LocatorId → Script ν)
    (hr : c'.router = ((c.router.subscribe responseStartLine (.answers c.slots.length)).1.subscribe
      notifyKey (.announcements c.slots.length)).1)
    (hk : c'.kept = Function.update c.kept c.slots.length
      [(responseStartLine, ⟨c.router.nextId⟩), (notifyKey, ⟨c.router.nextId + 1⟩)]) :
    Rewires c (.script caller (.build config owner next)) c'
  | retire {c' : ControlPoint ν} (id : LocatorId) (op : Operation)
    (hr : c'.router = ControlPoint.unsubscribeAll c.router (c.kept id))
    (hk : c'.kept = Function.update c.kept id []) (hop : op = .dispose ∨ op = .drop) :
    Rewires c (.operate id op) c'

namespace ControlPoint

variable {c : ControlPoint ν}

theorem kept_dispose [UrlParser] {id : LocatorId} {s : Slot ν} (hs : c.slots[id]? = some s) :
    (c.dispose id s.locator).state.kept = Function.update c.kept id [] :=
  (kept_congr (slots_dispose c id s.locator)).trans (kept_modifyLocator_update hs Locator.retire)

theorem router_dispose {id : LocatorId} {s : Slot ν} (hs : c.slots[id]? = some s) :
    (c.dispose id s.locator).state.router = unsubscribeAll c.router (c.kept id) := by
  rw [kept_of_slot hs]
  rfl

theorem rewires_carryOut [UrlParser] {id : LocatorId} {s : Slot ν} (hs : c.slots[id]? = some s)
    (task : Task ν) (judgement : Verdict × List LogRecord) :
    Rewires c task (c.carryOut id s.locator judgement).state := by
  obtain ⟨v, records⟩ := judgement
  cases v with
  | ignore => exact .same rfl rfl
  | refresh d =>
    have hnumbers : (s.locator.refresh d).1.subscriptions = c.kept id := by
      rw [Locator.refresh_fst, kept_of_slot hs]
    refine .same rfl ((kept_modifyLocator_update hs fun _ => (s.locator.refresh d).1).trans ?_)
    rw [hnumbers]
    exact Function.update_eq_self id c.kept
  | farewell usn => exact .same rfl (kept_modifyLocator fun l => rfl)

theorem rewires_operate [UrlParser] {id : LocatorId} {s : Slot ν} (hs : c.slots[id]? = some s)
    (op : Operation) : Rewires c (.operate id op) (c.operate id s.locator op).state := by
  cases op with
  | start =>
    simp only [operate, start]
    split
    · exact .same rfl rfl
    · exact .same rfl (kept_modifyLocator fun l => rfl)
  | stop => exact .same rfl (kept_modifyLocator fun l => rfl)
  | dispose => exact .retire id .dispose (router_dispose hs) (kept_dispose hs) (.inl rfl)
  | drop =>
    have hkept : (c.operate id s.locator .drop).state.kept = (c.dispose id s.locator).state.kept :=
      kept_modifyLocator fun l => rfl
    exact .retire id .drop (router_dispose hs) (hkept.trans (kept_dispose hs)) (.inr rfl)
  | searchNow => exact .same rfl rfl
  | tick => exact .same rfl rfl
  | answer e => exact rewires_carryOut hs _ _
  | announcement e => exact rewires_carryOut hs _ _

/-- Every step does to the router and to the kept subscriptions what its task can do. -/
theorem rewires_perform [UrlParser] (c : ControlPoint ν) (task : Task ν) :
    Rewires c task (c.perform task).state := by
  cases task with
  | script caller body =>
    cases body with
    | read datagram next =>
      simp only [perform, performScript]
      split <;> exact .same rfl rfl
    | subscribe key handler next => exact .subscribe caller key handler next rfl rfl
    | unsubscribe key id next => exact .unsubscribe caller key id next rfl rfl
    | build config owner next =>
      simp only [perform, performScript, build]
      split
      · exact .same rfl rfl
      · exact .build caller config owner next rfl kept_build
    | _ => exact .same rfl rfl
  | take reply =>
    simp only [perform, take]
    split <;> exact .same rfl rfl
  | invoke sub e =>
    obtain ⟨hid, handler⟩ := sub
    cases handler <;> exact .same rfl rfl
  | operate id op =>
    cases hs : c.slots[id]? with
    | none =>
      have hl : c.locator? id = none := by rw [locator?, hs]; rfl
      simp only [perform, withLocator, hl]
      exact .same rfl rfl
    | some s =>
      simp only [perform, withLocator, locator?_eq hs]
      split
      · exact .same rfl rfl
      · exact rewires_operate hs op
  | search id =>
    simp only [perform, withLocator]
    split
    · exact .same rfl (kept_modifyLocator fun l => rfl)
    · exact .same rfl rfl
  | emit id event =>
    simp only [perform]
    split
    · split <;> exact .same rfl rfl
    · exact .same rfl rfl
  | broadcast id =>
    simp only [perform, withLocator, broadcast]
    split
    · split <;> exact .same rfl rfl
    · exact .same rfl rfl
  | _ => exact .same rfl rfl

/-! ## Giving numbers back -/

theorem sound_unsubscribeAll {r : Router (Subscriber ν)} (h : r.Sound)
    (numbers : List (Text × HandlerId)) : (unsubscribeAll r numbers).Sound := by
  induction numbers generalizing r with
  | nil => exact h
  | cons number rest ih => exact ih (h.unsubscribe number.1 number.2)

theorem nextId_unsubscribeAll (r : Router (Subscriber ν)) (numbers : List (Text × HandlerId)) :
    (unsubscribeAll r numbers).nextId = r.nextId := by
  induction numbers generalizing r with
  | nil => rfl
  | cons number rest ih => exact (ih _).trans (Router.nextId_unsubscribe r number.1 number.2)

/-- The subscriptions whose numbers are given back are taken out, and all others
stay in order. -/
theorem subscriptions_unsubscribeAll {r : Router (Subscriber ν)} (h : r.Sound)
    (numbers : List (Text × HandlerId)) (key : Text) :
    (unsubscribeAll r numbers).subscriptions key =
      (r.subscriptions key).filter fun s => (key, s.id) ∉ numbers := by
  induction numbers generalizing r with
  | nil => exact (List.filter_eq_self.2 fun _ _ => by simp).symm
  | cons number rest ih =>
    obtain ⟨k, id⟩ := number
    rw [unsubscribeAll, ih (h.unsubscribe k id), h.subscriptions_unsubscribe]
    by_cases hk : key = k
    · rw [if_pos hk, List.filter_filter]
      refine List.filter_congr fun s _ => ?_
      simp [hk, Bool.and_comm]
    · rw [if_neg hk]
      refine List.filter_congr fun s _ => ?_
      simp [hk]

end ControlPoint

/-! ## Whose subscription is whose -/

/-- The router is sound, no locator keeps a number that is still to be given, and
a subscription belongs to a locator if and only if the locator keeps its number. -/
structure Wired (r : Router (Subscriber ν)) (kept : LocatorId → List (Text × HandlerId)) :
    Prop where
  sound : r.Sound
  kept_lt : ∀ id key hid, (key, hid) ∈ kept id → hid.number < r.nextId
  belongs : ∀ key s, s ∈ r.subscriptions key →
    ∀ id, s.handler.locator? = some id ↔ (key, s.id) ∈ kept id

namespace Wired

variable {r : Router (Subscriber ν)} {kept kept' : LocatorId → List (Text × HandlerId)}

/-- Where a locator gives its numbers back, its subscriptions are taken out, and
all others stay in order. -/
theorem subscriptions_unsubscribeAll (h : Wired r kept) (id : LocatorId) (key : Text) :
    (ControlPoint.unsubscribeAll r (kept id)).subscriptions key =
      (r.subscriptions key).filter fun s => s.handler.locator? ≠ some id := by
  rw [ControlPoint.subscriptions_unsubscribeAll h.sound]
  refine List.filter_congr fun s hs => ?_
  simp [h.belongs key s hs id]

/-- A locator keeps the number of a handler of its own; that of other code is kept
by none. -/
theorem subscribe (h : Wired r kept) {key : Text} {handler : Subscriber ν}
    (hk : ∀ id k hid, (k, hid) ∈ kept' id ↔
      (k, hid) ∈ kept id ∨ handler.locator? = some id ∧ k = key ∧ hid = ⟨r.nextId⟩) :
    Wired (r.subscribe key handler).1 kept' where
  sound := h.sound.subscribe key handler
  kept_lt id k hid hm := by
    rcases (hk id k hid).1 hm with hm | ⟨-, -, rfl⟩
    · exact Nat.lt_succ_of_lt (h.kept_lt id k hid hm)
    · exact Nat.lt_succ_self _
  belongs k s hs id := by
    rw [hk id k s.id]
    rcases Router.mem_subscriptions_subscribe hs with hs | ⟨rfl, rfl⟩
    · have hne : s.id ≠ ⟨r.nextId⟩ := fun heq =>
        Nat.lt_irrefl _ (congrArg HandlerId.number heq ▸ h.sound.ids_lt k s hs)
      simp [h.belongs k s hs id, hne]
    · have hnew : (k, (⟨r.nextId⟩ : HandlerId)) ∉ kept id := fun hm =>
        Nat.lt_irrefl _ (h.kept_lt id k _ hm)
      simp [hnew]

theorem unsubscribe (h : Wired r kept) (key : Text) (id : HandlerId) :
    Wired (r.unsubscribe key id).1 kept where
  sound := h.sound.unsubscribe key id
  kept_lt id' k hid hm := by
    rw [Router.nextId_unsubscribe]
    exact h.kept_lt id' k hid hm
  belongs k s hs := h.belongs k s (h.sound.mem_of_unsubscribe hs)

theorem retire (h : Wired r kept) (id : LocatorId) :
    Wired (ControlPoint.unsubscribeAll r (kept id)) (Function.update kept id []) where
  sound := ControlPoint.sound_unsubscribeAll h.sound _
  kept_lt id' k hid hm := by
    rw [ControlPoint.nextId_unsubscribeAll]
    by_cases hid' : id' = id
    · subst hid'
      rw [Function.update_self] at hm
      exact (List.not_mem_nil hm).elim
    · rw [Function.update_of_ne hid'] at hm
      exact h.kept_lt id' k hid hm
  belongs k s hs id' := by
    rw [h.subscriptions_unsubscribeAll, List.mem_filter] at hs
    obtain ⟨hs, hother⟩ := hs
    by_cases hid' : id' = id
    · subst hid'
      simpa using hother
    · rw [Function.update_of_ne hid']
      exact h.belongs k s hs id'

/-- A locator is subscribed twice when it is built, in a place that was free. -/
theorem build (h : Wired r kept) {id : LocatorId} (hfree : kept id = []) :
    Wired ((r.subscribe responseStartLine (.answers id)).1.subscribe notifyKey
        (.announcements id)).1
      (Function.update kept id
        [(responseStartLine, ⟨r.nextId⟩), (notifyKey, ⟨r.nextId + 1⟩)]) := by
  have hfirst : Wired (r.subscribe responseStartLine (.answers id)).1
      (Function.update kept id [(responseStartLine, ⟨r.nextId⟩)]) := by
    refine h.subscribe fun id' k hid => ?_
    by_cases hid' : id' = id
    · subst hid'
      simp [hfree, Subscriber.locator?]
    · simp [Function.update_of_ne hid', Subscriber.locator?, Ne.symm hid']
  refine hfirst.subscribe fun id' k hid => ?_
  by_cases hid' : id' = id
  · subst hid'
    simp [Subscriber.locator?, Router.subscribe]
  · simp [Function.update_of_ne hid', Subscriber.locator?, Ne.symm hid']

theorem rewire {c c' : ControlPoint ν} {task : Task ν} (h : Wired c.router c.kept)
    (hr : Rewires c task c') : Wired c'.router c'.kept := by
  cases hr with
  | same hr hk =>
    rw [hr, hk]
    exact h
  | subscribe caller key handler next hr hk =>
    rw [hr, hk]
    exact h.subscribe fun id k hid => by simp [Subscriber.locator?]
  | unsubscribe caller key id next hr hk =>
    rw [hr, hk]
    exact h.unsubscribe key id
  | build caller config owner next hr hk =>
    rw [hr, hk]
    refine h.build (ControlPoint.kept_of_none ?_)
    exact List.getElem?_eq_none (Nat.le_refl _)
  | retire id op hr hk =>
    rw [hr, hk]
    exact h.retire id

/-- What is true of the handlers of locators under their keys, and of those that a step
subscribes for other code, is true of all handlers after it if it was before. -/
theorem forall_subscriptions_perform [UrlParser] {c : ControlPoint ν} {task : Task ν}
    {P : Text → Subscriber ν → Prop} (h : Wired c.router c.kept)
    (hanswers : ∀ id, P responseStartLine (.answers id))
    (hannouncements : ∀ id, P notifyKey (.announcements id))
    (hcode : ∀ caller key handler next,
      task = .script caller (.subscribe key handler next) → P key (.code handler))
    (hall : ∀ key s, s ∈ c.router.subscriptions key → P key s.handler) (key : Text)
    (s : Subscription (Subscriber ν))
    (hs : s ∈ (c.perform task).state.router.subscriptions key) : P key s.handler := by
  cases c.rewires_perform task with
  | same hr hk =>
    rw [hr] at hs
    exact hall key s hs
  | subscribe caller k handler next hr hk =>
    rw [hr] at hs
    rcases Router.mem_subscriptions_subscribe hs with hs | ⟨rfl, rfl⟩
    · exact hall key s hs
    · exact hcode caller key handler next rfl
  | unsubscribe caller k id next hr hk =>
    rw [hr] at hs
    exact hall key s (h.sound.mem_of_unsubscribe hs)
  | build caller config owner next hr hk =>
    rw [hr] at hs
    rcases Router.mem_subscriptions_subscribe hs with hs | ⟨rfl, rfl⟩
    · rcases Router.mem_subscriptions_subscribe hs with hs | ⟨rfl, rfl⟩
      · exact hall key s hs
      · exact hanswers _
    · exact hannouncements _
  | retire id op hr hk =>
    rw [hr, h.subscriptions_unsubscribeAll, List.mem_filter] at hs
    exact hall key s hs.1

/-- A locator that is in place keeps its numbers, and has the same handlers under every key,
unless it is disposed of or one of its numbers is taken out. -/
theorem own_perform [UrlParser] {c : ControlPoint ν} {task : Task ν} (h : Wired c.router c.kept)
    {id : LocatorId} (hplace : c.slots[id]? ≠ none)
    (hout : ∀ caller key hid next, task = .script caller (.unsubscribe key hid next) →
      (key, hid) ∉ c.kept id)
    (hstays : ∀ op, op = .dispose ∨ op = .drop → task ≠ .operate id op) :
    (c.perform task).state.kept id = c.kept id ∧ ∀ key,
      ((c.perform task).state.router.subscriptions key).filter (·.handler.locator? = some id) =
        (c.router.subscriptions key).filter (·.handler.locator? = some id) := by
  cases c.rewires_perform task with
  | same hr hk => exact ⟨by rw [hk], fun key => by rw [hr]⟩
  | subscribe caller key handler next hr hk =>
    refine ⟨by rw [hk], fun key' => ?_⟩
    rw [hr, Router.subscriptions_subscribe]
    split
    · simp [Subscriber.locator?]
    · rfl
  | unsubscribe caller key hid next hr hk =>
    refine ⟨by rw [hk], fun key' => ?_⟩
    rw [hr, h.sound.subscriptions_unsubscribe]
    split
    · rename_i hkey
      rw [List.filter_filter]
      refine List.filter_congr fun s hs => ?_
      have hne : s.handler.locator? = some id → s.id ≠ hid := by
        rintro hmine rfl
        exact hout _ _ _ _ rfl (hkey ▸ (h.belongs key' s hs id).1 hmine)
      by_cases hmine : s.handler.locator? = some id <;> simp [hmine, hne]
    · rfl
  | build caller config owner next hr hk =>
    have hne : id ≠ c.slots.length := by
      rintro rfl
      exact hplace (List.getElem?_eq_none (Nat.le_refl _))
    refine ⟨by rw [hk, Function.update_of_ne hne], fun key => ?_⟩
    rw [hr, Router.subscriptions_subscribe, Router.subscriptions_subscribe]
    split <;> split <;> simp [Subscriber.locator?, hne.symm]
  | retire place op hr hk hop =>
    have hne : id ≠ place := by
      rintro rfl
      exact hstays op hop rfl
    refine ⟨by rw [hk, Function.update_of_ne hne], fun key => ?_⟩
    rw [hr, h.subscriptions_unsubscribeAll, List.filter_filter]
    refine List.filter_congr fun s _ => ?_
    by_cases hmine : s.handler.locator? = some id <;> simp [hmine, hne]

theorem move [UrlParser] {m m' : Run ν} (h : Wired m.state.router m.state.kept) (hm : Move m m') :
    Wired m'.state.router m'.state.kept := by
  cases hm with
  | perform c shown task rest => exact h.rewire (c.rewires_perform task)
  | turn => exact h
  | ask => exact h

end Wired

theorem Reached.wired [UrlParser] {ok : Run ν → Prop} {m : Run ν} (h : Reached ok m) :
    Wired m.state.router m.state.kept := by
  induction h with
  | fresh notes clock link attempts =>
    have hkept (id : LocatorId) :
        ({ notes, clock, link, attempts } : ControlPoint ν).kept id = [] :=
      ControlPoint.kept_of_none rfl
    refine ⟨Router.sound_empty, fun id key hid hm => ?_, fun key s hs => nomatch hs⟩
    rw [hkept] at hm
    exact (List.not_mem_nil hm).elim
  | move _ _ hm ih => exact ih.move hm

end Ssdp
