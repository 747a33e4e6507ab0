import Ssdp.Proofs.ControlPoint.Wiring

/-!
# The history of a router

Every handler that is added to the router of a control point, and every number
that is taken out, can be written down in order. The subscriptions under a key
are then a matter of this log alone: who was added under it, in order, without
those taken out since.

* `Registration`, `subscribed`: the log, and the subscriptions that it amounts to;
* `ControlPoint.subscriptions_perform`: what a step adds and takes out;
* `Recorded`: a run with its log, and `Recorded.subscriptions`;
* `Recorded.leads`: what is added from now on gets a number of its own;
* `Reached.distinct`: no number stands twice under a key.
-/

namespace Ssdp

/-- A handler is added under a key, with its number, or a number is taken out of
those of a key. -/
inductive Registration (H : Type) where
  | added (key : Text) (s : Subscription H)
  | removed (key : Text) (id : HandlerId)

section

variable {H : Type}

/-- What a registration makes of the subscriptions under a key. -/
def Registration.apply (key : Text) (subs : List (Subscription H)) :
    Registration H → List (Subscription H)
  | added k s => if k = key then subs ++ [s] else subs
  | removed k id => if k = key then subs.filter (·.id ≠ id) else subs

/-- What a log makes of the subscriptions under a key. -/
def subscribedAfter (key : Text) (subs : List (Subscription H)) (log : List (Registration H)) :
    List (Subscription H) :=
  log.foldl (Registration.apply key) subs

/-- The subscriptions under a key that a log from the start amounts to. -/
def subscribed (key : Text) (log : List (Registration H)) : List (Subscription H) :=
  subscribedAfter key [] log

theorem subscribed_append (key : Text) (log more : List (Registration H)) :
    subscribed key (log ++ more) = subscribedAfter key (subscribed key log) more :=
  List.foldl_append

end

variable {ν : Type}

/-! ## Distinct numbers -/

variable [UrlParser]

omit [UrlParser] in
theorem Router.Distinct.unsubscribeAll {r : Router (Subscriber ν)} (hr : r.Distinct) (h : r.Sound)
    (numbers : List (Text × HandlerId)) : (ControlPoint.unsubscribeAll r numbers).Distinct := by
  intro key
  rw [ControlPoint.subscriptions_unsubscribeAll h]
  exact (hr key).sublist (List.filter_sublist.map _)

omit [UrlParser] in
theorem Rewires.distinct {c c' : ControlPoint ν} {task : Task ν} (h : Rewires c task c')
    (hs : c.router.Sound) (hd : c.router.Distinct) : c'.router.Distinct := by
  cases h with
  | same hr hk =>
    rw [hr]
    exact hd
  | subscribe caller key handler next hr hk =>
    rw [hr]
    exact hd.subscribe hs key _
  | unsubscribe caller key id next hr hk =>
    rw [hr]
    exact hd.unsubscribe hs key id
  | build caller config owner next hr hk =>
    rw [hr]
    exact (hd.subscribe hs responseStartLine _).subscribe (hs.subscribe responseStartLine _) _ _
  | retire id op hr hk =>
    rw [hr]
    exact hd.unsubscribeAll hs _

theorem Reached.distinct {ok : Run ν → Prop} {r : Run ν} (h : Reached ok r) :
    r.state.router.Distinct := by
  induction h with
  | fresh => exact fun key => List.nodup_nil
  | move hr _ hm ih =>
    cases hm with
    | perform c shown task rest => exact (c.rewires_perform task).distinct hr.wired.sound ih
    | turn => exact ih
    | ask => exact ih

/-! ## What a step adds and takes out -/

namespace ControlPoint

/-- The registrations of a step: those that a script asks for, the two of a locator
that is built, and those that a locator gives back when it is disposed of. -/
def registrations (c : ControlPoint ν) : Task ν → List (Registration (Subscriber ν))
  | .script _ (.subscribe key handler _) => [.added key ⟨⟨c.router.nextId⟩, .code handler⟩]
  | .script _ (.unsubscribe key id _) => [.removed key id]
  | .script _ (.build config _ _) =>
    match config.fault? with
    | some _ => []
    | none =>
      [.added responseStartLine ⟨⟨c.router.nextId⟩, .answers c.slots.length⟩,
        .added notifyKey ⟨⟨c.router.nextId + 1⟩, .announcements c.slots.length⟩]
  | .operate id op =>
    match c.locator? id with
    | some l =>
      if !l.dropped && (op = .dispose || op = .drop) then
        l.subscriptions.map fun number => .removed number.1 number.2
      else []
    | none => []
  | _ => []

omit [UrlParser] in
/-- Giving numbers back is taking them out one by one. -/
theorem subscribedAfter_removed {r : Router (Subscriber ν)} (h : r.Sound) (key : Text)
    (numbers : List (Text × HandlerId)) :
    (unsubscribeAll r numbers).subscriptions key =
      subscribedAfter key (r.subscriptions key)
        (numbers.map fun number => .removed number.1 number.2) := by
  induction numbers generalizing r with
  | nil => rfl
  | cons number rest ih =>
    rw [unsubscribeAll, ih (h.unsubscribe number.1 number.2), h.subscriptions_unsubscribe]
    simp only [subscribedAfter, List.map_cons, List.foldl_cons, Registration.apply,
      eq_comm (a := key)]

omit [UrlParser] in
theorem router_carryOut (c : ControlPoint ν) (id : LocatorId) (l : Locator)
    (judgement : Verdict × List LogRecord) :
    (c.carryOut id l judgement).state.router = c.router := by
  obtain ⟨v, records⟩ := judgement
  cases v <;> rfl

/-- The router after a locator is operated: it is left alone unless the locator is
disposed of. -/
theorem router_operate (c : ControlPoint ν) (id : LocatorId) (l : Locator) (op : Operation) :
    (c.operate id l op).state.router =
      if op = .dispose ∨ op = .drop then unsubscribeAll c.router l.subscriptions
      else c.router := by
  cases op with
  | start =>
    simp only [operate, start]
    split <;> rfl
  | answer e => exact router_carryOut c id l _
  | announcement e => exact router_carryOut c id l _
  | _ => rfl

/-- After a step the subscriptions under a key are what its registrations make of
those before it. -/
theorem subscriptions_perform {c : ControlPoint ν} (h : c.router.Sound) (task : Task ν)
    (key : Text) : (c.perform task).state.router.subscriptions key =
      subscribedAfter key (c.router.subscriptions key) (c.registrations task) := by
  cases task with
  | script caller body =>
    cases body with
    | read datagram next =>
      simp only [perform, performScript]
      split <;> rfl
    | subscribe k handler next =>
      simp only [perform, Caller.state_catching, performScript, registrations, subscribedAfter,
        List.foldl_cons, List.foldl_nil, Registration.apply, Router.subscriptions_subscribe,
        eq_comm (a := key)]
    | unsubscribe k id next =>
      simp only [perform, Caller.state_catching, performScript, registrations, subscribedAfter,
        List.foldl_cons, List.foldl_nil, Registration.apply, h.subscriptions_unsubscribe,
        eq_comm (a := key)]
    | build config owner next =>
      cases hf : config.fault? with
      | some error =>
        simp only [perform, performScript, build, registrations, hf]
        rfl
      | none =>
        simp only [perform, Caller.state_catching, performScript, build, registrations, hf,
          subscribedAfter, List.foldl_cons, List.foldl_nil, Registration.apply,
          Router.subscriptions_subscribe, eq_comm (a := key)]
        rfl
    | _ => rfl
  | take reply =>
    simp only [perform, take]
    split <;> rfl
  | invoke sub e =>
    obtain ⟨hid, handler⟩ := sub
    cases handler <;> rfl
  | operate id op =>
    simp only [perform, withLocator, registrations]
    cases c.locator? id with
    | none => rfl
    | some l =>
      by_cases hdropped : l.dropped
      · simp [hdropped, subscribedAfter]
      · by_cases hop : op = .dispose ∨ op = .drop
        · simpa [hdropped, router_operate, hop] using
            subscribedAfter_removed h key l.subscriptions
        · simp [hdropped, router_operate, hop, subscribedAfter]
  | search id =>
    simp only [perform, withLocator]
    split <;> rfl
  | emit id event =>
    simp only [perform]
    split
    · split <;> rfl
    · rfl
  | broadcast id =>
    simp only [perform, withLocator, broadcast]
    split
    · split <;> rfl
    · rfl
  | _ => rfl

/-- Numbers are given in order, and never again. -/
theorem nextId_perform_le (c : ControlPoint ν) (task : Task ν) :
    c.router.nextId ≤ (c.perform task).state.router.nextId := by
  cases c.rewires_perform task with
  | same hr hk => exact Nat.le_of_eq (by rw [hr])
  | subscribe caller key handler next hr hk =>
    rw [hr]
    exact Nat.le_succ _
  | unsubscribe caller key id next hr hk =>
    exact Nat.le_of_eq (by rw [hr, Router.nextId_unsubscribe])
  | build caller config owner next hr hk =>
    rw [hr]
    exact Nat.le_add_right _ 2
  | retire id op hr hk => exact Nat.le_of_eq (by rw [hr, nextId_unsubscribeAll])

omit [UrlParser] in
/-- A handler is added with a number that was still to be given. -/
theorem nextId_le_of_added {c : ControlPoint ν} {task : Task ν} {key : Text}
    {s : Subscription (Subscriber ν)} (hs : .added key s ∈ c.registrations task) :
    c.router.nextId ≤ s.id.number := by
  cases task with
  | script caller body =>
    cases body with
    | subscribe k handler next =>
      obtain ⟨-, rfl⟩ := Registration.added.inj (List.mem_singleton.1 hs)
      exact Nat.le_refl _
    | unsubscribe k id next => nomatch List.mem_singleton.1 hs
    | build config owner next =>
      simp only [registrations] at hs
      split at hs
      · nomatch hs
      · rcases List.mem_cons.1 hs with hs | hs
        · obtain ⟨-, rfl⟩ := Registration.added.inj hs
          exact Nat.le_refl _
        · obtain ⟨-, rfl⟩ := Registration.added.inj (List.mem_singleton.1 hs)
          exact Nat.le_succ _
    | _ => nomatch hs
  | operate id op =>
    simp only [registrations] at hs
    split at hs
    · split at hs
      · obtain ⟨number, -, heq⟩ := List.mem_map.1 hs
        nomatch heq
      · nomatch hs
    · nomatch hs
  | _ => nomatch hs

end ControlPoint

/-! ## Runs with their log -/

/-- What moves lead to from a control point without locators and subscribers, with
the registrations made on the way. -/
inductive Recorded : List (Registration (Subscriber ν)) → Run ν → Prop
  | fresh (notes : ν) (clock : Conditions) (link : Link) (attempts : Nat) :
    Recorded [] ⟨{ notes, clock, link, attempts }, [], []⟩
  | perform {log : List (Registration (Subscriber ν))} {c : ControlPoint ν} {shown : List Entry}
    {task : Task ν} {rest : List (Task ν)} (h : Recorded log ⟨c, shown, task :: rest⟩) :
    Recorded (log ++ c.registrations task)
      ⟨(c.perform task).state, shown ++ (c.perform task).journal, (c.perform task).todo ++ rest⟩
  | turn {log : List (Registration (Subscriber ν))} {c : ControlPoint ν} {shown : List Entry}
    {agenda : List (Task ν)} (clock : Conditions) (link : Link)
    (h : Recorded log ⟨c, shown, agenda⟩) :
    Recorded log ⟨{ c with clock, link }, shown, agenda⟩
  | ask {log : List (Registration (Subscriber ν))} {c : ControlPoint ν} {shown : List Entry}
    {task : Task ν} (hreq : task.IsRequest) (h : Recorded log ⟨c, shown, []⟩) :
    Recorded log ⟨c, shown, [task]⟩

namespace Recorded

variable {log : List (Registration (Subscriber ν))} {r r' : Run ν}

theorem reached (h : Recorded log r) : Reached (fun _ => True) r := by
  induction h with
  | fresh notes clock link attempts => exact .fresh notes clock link attempts
  | perform _ ih => exact ih.move trivial (.perform _ _ _ _)
  | turn clock link _ ih => exact ih.move trivial (.turn _ _ _ clock link)
  | ask hreq _ ih => exact ih.move trivial (.ask _ _ hreq)

/-- The subscriptions under a key are those that the log amounts to. -/
theorem subscriptions (h : Recorded log r) (key : Text) :
    r.state.router.subscriptions key = subscribed key log := by
  induction h with
  | fresh => rfl
  | perform h ih =>
    rw [ControlPoint.subscriptions_perform h.reached.wired.sound, ih, subscribed_append]
  | turn _ _ _ ih => exact ih
  | ask _ _ ih => exact ih

/-- A move goes on with the log; what is added by it has a number that was still to
be given. -/
theorem move (h : Recorded log r) (hm : Move r r') :
    ∃ more, Recorded (log ++ more) r' ∧ r.state.router.nextId ≤ r'.state.router.nextId ∧
      ∀ key s, .added key s ∈ more → r.state.router.nextId ≤ s.id.number := by
  cases hm with
  | perform c shown task rest =>
    exact ⟨c.registrations task, h.perform, c.nextId_perform_le task,
      fun key s hs => ControlPoint.nextId_le_of_added hs⟩
  | turn c shown agenda clock link =>
    exact ⟨[], (List.append_nil log).symm ▸ h.turn clock link, Nat.le_refl _, nofun⟩
  | ask c shown hreq =>
    exact ⟨[], (List.append_nil log).symm ▸ h.ask hreq, Nat.le_refl _, nofun⟩

theorem leads (h : Recorded log r) (hl : Leads r r') :
    ∃ more, Recorded (log ++ more) r' ∧ r.state.router.nextId ≤ r'.state.router.nextId ∧
      ∀ key s, .added key s ∈ more → r.state.router.nextId ≤ s.id.number := by
  induction hl with
  | refl => exact ⟨[], (List.append_nil log).symm ▸ h, Nat.le_refl _, nofun⟩
  | tail _ hm ih =>
    obtain ⟨more, hmore, hle, hnew⟩ := ih
    obtain ⟨last, hlast, hle', hnew'⟩ := hmore.move hm
    refine ⟨more ++ last, List.append_assoc log more last ▸ hlast, Nat.le_trans hle hle',
      fun key s hs => ?_⟩
    rcases List.mem_append.1 hs with hs | hs
    · exact hnew key s hs
    · exact Nat.le_trans hle (hnew' key s hs)

end Recorded

/-- Whatever is reached has a log. -/
theorem Reached.recorded {ok : Run ν → Prop} {r : Run ν} (h : Reached ok r) :
    ∃ log, Recorded log r := by
  induction h with
  | fresh notes clock link attempts => exact ⟨[], .fresh notes clock link attempts⟩
  | move _ _ hm ih =>
    obtain ⟨log, hlog⟩ := ih
    obtain ⟨more, hmore, -, -⟩ := hlog.move hm
    exact ⟨log ++ more, hmore⟩

end Ssdp
