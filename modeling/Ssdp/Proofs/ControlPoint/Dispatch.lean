import Ssdp.Proofs.ControlPoint.Registration
import Ssdp.Proofs.ControlPoint.Ledger
import Ssdp.Proofs.ControlPoint.Trace

/-!
# Dispatches

A dispatch invokes the handlers that are subscribed when it starts. They may
subscribe and unsubscribe handlers, dispatch messages and panic, and so may the
handlers of those dispatches: all that a handler leads to is done before the
next one's turn, and the handlers whose turn is still to come stay the same.

* `Works`: tasks are worked off, with all that they lead to;
* `Works.split`: of two lists of tasks the first is worked off first;
* `leads_split`: moves from a point where tasks stand in front of others have
  either left some of those tasks or have worked them off;
* `InvokedInTurn`: handlers are invoked with a message one after the other;
* `dispatch_invokes_snapshot`: a dispatch that is over has invoked the handlers
  that were subscribed when it started.
-/

namespace Ssdp

variable {ν : Type}

section

/-! ## Working tasks off -/

variable [UrlParser]

/-- From a state in which tasks are to be done, steps lead to one in which some tasks
are left, of these or of those they led to; entries were shown meanwhile. -/
inductive Works (c₀ : ControlPoint ν) (tasks : List (Task ν)) :
    ControlPoint ν → List Entry → List (Task ν) → Prop
  | start : Works c₀ tasks c₀ [] tasks
  | perform {c : ControlPoint ν} {shown : List Entry} {task : Task ν} {rest : List (Task ν)}
    (h : Works c₀ tasks c shown (task :: rest)) :
    Works c₀ tasks (c.perform task).state (shown ++ (c.perform task).journal)
      ((c.perform task).todo ++ rest)
  | turn {c : ControlPoint ν} {shown : List Entry} {left : List (Task ν)} (clock : Conditions)
    (link : Link) (h : Works c₀ tasks c shown left) :
    Works c₀ tasks { c with clock, link } shown left

theorem Traced.works {c₀ c : ControlPoint ν} {tasks left : List (Task ν)} {steps : List (Step ν)}
    (h : Traced c₀ tasks steps c left) : Works c₀ tasks c (shownBy steps) left := by
  induction h with
  | start => exact .start
  | perform _ ih =>
    rw [shownBy_append, shownBy_singleton]
    exact ih.perform
  | turn clock link _ ih => exact ih.turn clock link

theorem Works.traced {c₀ c : ControlPoint ν} {tasks left : List (Task ν)} {shown : List Entry}
    (h : Works c₀ tasks c shown left) :
    ∃ steps, Traced c₀ tasks steps c left ∧ shownBy steps = shown := by
  induction h with
  | start => exact ⟨[], .start, rfl⟩
  | perform _ ih =>
    obtain ⟨steps, htraced, rfl⟩ := ih
    exact ⟨_, htraced.perform, by rw [shownBy_append, shownBy_singleton]⟩
  | turn clock link _ ih =>
    obtain ⟨steps, htraced, hshown⟩ := ih
    exact ⟨steps, htraced.turn clock link, hshown⟩

namespace Works

variable {c₀ c c' : ControlPoint ν} {tasks left : List (Task ν)} {shown shown' : List Entry}

theorem trans {left' : List (Task ν)} (h : Works c₀ tasks c shown left)
    (h' : Works c left c' shown' left') : Works c₀ tasks c' (shown ++ shown') left' := by
  induction h' with
  | start =>
    rw [List.append_nil]
    exact h
  | perform _ ih =>
    rw [← List.append_assoc]
    exact ih.perform
  | turn clock link _ ih => exact ih.turn clock link

/-- A number of steps more. -/
theorem run (h : Works c₀ tasks c shown left) (n : Nat) :
    let r := c.run n left
    Works c₀ tasks r.state (shown ++ r.journal) r.agenda := by
  induction n generalizing c shown left with
  | zero => simpa using h
  | succ n ih =>
    cases left with
    | nil => simpa using h
    | cons task rest =>
      rw [ControlPoint.run_succ]
      simpa using ih h.perform

/-- What waits behind the tasks makes no difference. -/
theorem leads (h : Works c₀ tasks c shown left) (before : List Entry) (waiting : List (Task ν)) :
    Leads ⟨c₀, before, tasks ++ waiting⟩ ⟨c, before ++ shown, left ++ waiting⟩ := by
  induction h with
  | start => rw [List.append_nil]
  | perform _ ih =>
    rw [← List.append_assoc, List.append_assoc _ _ waiting]
    exact ih.tail (.perform _ _ _ _)
  | turn clock link _ ih => exact ih.tail (.turn _ _ _ clock link)

/-- Either some of the first tasks, or of what they led to, is left, or they were
worked off before the others were begun. -/
theorem split {xs ys : List (Task ν)} (h : Works c₀ (xs ++ ys) c shown left) :
    (∃ inner, left = inner ++ ys ∧ Works c₀ xs c shown inner) ∨
      ∃ c₁ first second, Works c₀ xs c₁ first [] ∧ Works c₁ ys c second left ∧
        shown = first ++ second := by
  obtain ⟨steps, htraced, rfl⟩ := h.traced
  obtain ⟨inner, heq, hxs⟩ | ⟨c₁, first, second, hxs, hys, rfl⟩ := htraced.split
  · exact .inl ⟨inner, heq, hxs.works⟩
  · exact .inr ⟨c₁, _, _, hxs.works, hys.works, shownBy_append first second⟩

/-- Tasks that are all worked off were so one list after the other. -/
theorem done_append {xs ys : List (Task ν)} (h : Works c₀ (xs ++ ys) c shown []) :
    ∃ c₁ first second, Works c₀ xs c₁ first [] ∧ Works c₁ ys c second [] ∧
      shown = first ++ second := by
  obtain ⟨inner, heq, hxs⟩ | h := h.split
  · obtain ⟨rfl, rfl⟩ := List.append_eq_nil_iff.1 heq.symm
    exact ⟨c, shown, [], hxs, .start, (List.append_nil shown).symm⟩
  · exact h

/-- A task that is worked off was performed, at some time, and then what it led to. -/
theorem performed {task : Task ν} (h : Works c₀ [task] c shown []) :
    ∃ clock link later, let o := ({ c₀ with clock, link } : ControlPoint ν).perform task
      Works o.state o.todo c later [] ∧ shown = o.journal ++ later := by
  obtain ⟨steps, htraced, rfl⟩ := h.traced
  obtain ⟨clock, link, later, hlater, rfl⟩ := htraced.performed
  exact ⟨clock, link, _, hlater.works, rfl⟩

end Works

/-- Moves from a point where tasks stand in front of others have left some of them,
or of what they led to, or they come from the point where those were worked off. -/
theorem leads_split {c₀ : ControlPoint ν} {shown : List Entry} {tasks waiting : List (Task ν)}
    {r : Run ν} (h : Leads ⟨c₀, shown, tasks ++ waiting⟩ r) :
    (∃ inner later, inner ≠ [] ∧ Works c₀ tasks r.state later inner ∧
        r.journal = shown ++ later ∧ r.agenda = inner ++ waiting) ∨
      ∃ c later, Works c₀ tasks c later [] ∧ Leads ⟨c, shown ++ later, waiting⟩ r := by
  induction h with
  | refl =>
    cases tasks with
    | nil => exact .inr ⟨c₀, [], .start, by rw [List.append_nil]; exact .refl⟩
    | cons task tasks =>
      exact .inl ⟨task :: tasks, [], List.cons_ne_nil _ _, .start,
        (List.append_nil shown).symm, rfl⟩
  | @tail r r' _ hm ih =>
    obtain ⟨inner, later, hne, hworks, hjournal, hagenda⟩ | ⟨c, later, hworks, hleads⟩ := ih
    · obtain ⟨task, inner, rfl⟩ := List.exists_cons_of_ne_nil hne
      cases hm with
      | perform c shown' task' rest =>
        obtain ⟨rfl, rfl⟩ := List.cons.inj hagenda
        obtain rfl : shown' = shown ++ later := hjournal
        have hnext := Works.perform hworks
        cases htodo : (c.perform task').todo ++ inner with
        | nil =>
          obtain ⟨hnil, rfl⟩ := List.append_eq_nil_iff.1 htodo
          rw [htodo] at hnext
          refine .inr ⟨_, _, hnext, ?_⟩
          rw [hnil, List.append_assoc]
          exact .refl
        | cons t ts =>
          refine .inl ⟨_, _, ?_, hnext, List.append_assoc _ _ _, (List.append_assoc _ _ _).symm⟩
          rw [htodo]
          exact List.cons_ne_nil t ts
      | turn c shown' agenda clock link =>
        exact .inl ⟨_, later, hne, hworks.turn clock link, hjournal, hagenda⟩
      | ask c shown' hreq => nomatch hagenda
    · exact .inr ⟨c, later, hworks, hleads.tail hm⟩

/-! ## Handlers in turn -/

/-- Handlers are invoked with a message one after the other: each shows that it is
invoked, and all that it leads to is done before the next one's turn. -/
inductive InvokedInTurn (e : Received) :
    ControlPoint ν → List (Subscription (Subscriber ν)) → List Entry → ControlPoint ν → Prop
  | done {c c' : ControlPoint ν} (h : Works c [] c' [] []) : InvokedInTurn e c [] [] c'
  | next {c c₁ c₂ : ControlPoint ν} {s : Subscription (Subscriber ν)}
    {rest : List (Subscription (Subscriber ν))} {inner outer : List Entry}
    (h : Works c (c.invoke e s.handler).todo c₁ inner [])
    (hrest : InvokedInTurn e c₁ rest outer c₂) :
    InvokedInTurn e c (s :: rest) (.invoked s.id e :: inner ++ outer) c₂

section

variable {c c' : ControlPoint ν} {e : Received} {shown : List Entry}

/-- Every handler has its turn. -/
theorem InvokedInTurn.of_mem {handlers : List (Subscription (Subscriber ν))}
    (h : InvokedInTurn e c handlers shown c') {s : Subscription (Subscriber ν)}
    (hs : s ∈ handlers) : ∃ c₁ c₂ inner, .invoked s.id e :: inner <:+: shown ∧
      Works c₁ (c₁.invoke e s.handler).todo c₂ inner [] := by
  induction h with
  | done _ => exact (List.not_mem_nil hs).elim
  | @next c c₁ c₂ first rest inner outer hfirst hrest ih =>
    obtain rfl | hs := List.mem_cons.1 hs
    · exact ⟨c, c₁, inner, (List.prefix_append _ outer).isInfix, hfirst⟩
    · obtain ⟨c₃, c₄, later, hinfix, hworks⟩ := ih hs
      exact ⟨c₃, c₄, later, hinfix.trans (List.suffix_append _ outer).isInfix, hworks⟩

theorem perform_invoke (c : ControlPoint ν) (s : Subscription (Subscriber ν)) (e : Received) :
    c.perform (.invoke s e) =
      ⟨c, (c.invoke e s.handler).todo, [.invoked s.id e], none⟩ := by
  obtain ⟨id, handler⟩ := s
  cases handler <;> rfl

omit [UrlParser] in
/-- What a handler leads to does not depend on the time. -/
theorem invoke_turn (c : ControlPoint ν) (clock : Conditions) (link : Link) (e : Received)
    (handler : Subscriber ν) :
    ({ c with clock, link } : ControlPoint ν).invoke e handler =
      { c.invoke e handler with state := { c with clock, link } } := by
  cases handler <;> rfl

/-- With nothing to do, nothing is shown. -/
theorem Works.shown_of_nil {left : List (Task ν)} (h : Works c [] c' shown left) :
    shown = [] ∧ left = [] := by
  induction h with
  | start => exact ⟨rfl, rfl⟩
  | perform _ ih => nomatch ih.2
  | turn _ _ _ ih => exact ih

/-- One handler is worked off. -/
theorem Works.of_invoke {s : Subscription (Subscriber ν)}
    (h : Works c [.invoke s e] c' shown []) :
    ∃ inner, shown = .invoked s.id e :: inner ∧
      Works c (c.invoke e s.handler).todo c' inner [] := by
  obtain ⟨clock, link, later, hlater, rfl⟩ := h.performed
  rw [perform_invoke, invoke_turn] at hlater
  refine ⟨later, by rw [perform_invoke]; rfl, ?_⟩
  exact (Works.turn clock link .start).trans hlater

/-- Handlers that are all worked off were invoked in turn. -/
theorem Works.invokedInTurn {snapshot : List (Subscription (Subscriber ν))}
    (h : Works c (snapshot.map (.invoke · e)) c' shown []) :
    InvokedInTurn e c snapshot shown c' := by
  induction snapshot generalizing c shown with
  | nil =>
    obtain ⟨rfl, -⟩ := h.shown_of_nil
    exact .done h
  | cons s rest ih =>
    have hcons : Works c ([.invoke s e] ++ rest.map (.invoke · e)) c' shown [] := h
    obtain ⟨c₁, first, second, hfirst, hsecond, rfl⟩ := hcons.done_append
    obtain ⟨inner, rfl, hinner⟩ := hfirst.of_invoke
    exact .next hinner (ih hsecond)

end

/-! ## What a dispatch invokes -/

/-- A task that dispatches a message, and the tasks it leaves for when the handlers
are done, by their number. -/
inductive Task.Dispatches : Task ν → Received → (Nat → List (Task ν)) → Prop
  | deliver (e : Received) : Dispatches (.deliver e) e fun _ => []
  | script (caller : Caller) (e : Received) (next : Nat → Script ν) :
    Dispatches (.script caller (.dispatch e next)) e fun n => [.script caller (next n)]

/-- A dispatch changes nothing by itself: it leaves its handlers, and its caller with
their number. -/
theorem perform_dispatches {c : ControlPoint ν} {task : Task ν} {e : Received}
    {after : Nat → List (Task ν)} (h : task.Dispatches e after) :
    c.perform task = ⟨c, (c.router.subscriptions e.routeKey).map (.invoke · e) ++
      after (c.router.subscriptions e.routeKey).length, [], none⟩ := by
  cases h with
  | deliver e => simp [ControlPoint.perform, ControlPoint.dispatchTasks]
  | script caller e next =>
    simp [ControlPoint.perform, ControlPoint.performScript, ControlPoint.dispatchTasks,
      caller.catching_of_panic_none]

/-- What a dispatch invokes, whatever its handlers do. Let a message be dispatched
when the registrations so far are `log`, and let `snapshot` be the handlers subscribed
by them under the message's key; no number stands there twice. Wherever moves lead
from there, either the dispatch is not over, and something that its handlers led to is
left in front of the tasks that wait for it, or it has invoked the handlers of the
snapshot in turn, each with this message, and has gone back to those tasks with their
number. What was added meanwhile is not among the handlers of the snapshot, and
whatever is dispatched from then on finds what was added and taken out. -/
theorem dispatch_invokes_snapshot {log : List (Registration (Subscriber ν))}
    {c : ControlPoint ν} {shown : List Entry} {task : Task ν} {rest : List (Task ν)}
    {e : Received} {after : Nat → List (Task ν)}
    (h : Recorded log ⟨c, shown, task :: rest⟩) (hd : task.Dispatches e after) {r : Run ν}
    (hl : Leads ⟨(c.perform task).state, shown ++ (c.perform task).journal,
      (c.perform task).todo ++ rest⟩ r) :
    let snapshot := subscribed e.routeKey log
    let calls := snapshot.map (.invoke · e)
    let waiting := after snapshot.length ++ rest
    (snapshot.map (·.id)).Nodup ∧
    ((∃ inner later, inner ≠ [] ∧ Works c calls r.state later inner ∧
        r.journal = shown ++ later ∧ r.agenda = inner ++ waiting) ∨
      ∃ c' later, InvokedInTurn e c snapshot later c' ∧
        Leads ⟨c, shown, calls ++ waiting⟩ ⟨c', shown ++ later, waiting⟩ ∧
        Leads ⟨c', shown ++ later, waiting⟩ r) ∧
    ∃ more, Recorded (log ++ more) r ∧
      (∀ key s, .added key s ∈ more → s.id ∉ snapshot.map (·.id)) ∧
      ∀ key, r.state.router.subscriptions key = subscribed key (log ++ more) := by
  intro snapshot calls waiting
  have hsnapshot : c.router.subscriptions e.routeKey = snapshot := h.subscriptions e.routeKey
  have hcalls : Leads ⟨c, shown, calls ++ waiting⟩ r := by
    rw [perform_dispatches hd, hsnapshot, List.append_nil, List.append_assoc] at hl
    exact hl
  refine ⟨?_, ?_, ?_⟩
  · rw [← hsnapshot]
    exact h.reached.distinct e.routeKey
  · refine (leads_split hcalls).imp id ?_
    rintro ⟨c', later, hworks, hrest⟩
    exact ⟨c', later, hworks.invokedInTurn, hworks.leads shown waiting, hrest⟩
  · obtain ⟨more, hmore, -, hnew⟩ := h.leads (hl.head (.perform c shown task rest))
    refine ⟨more, hmore, fun key s hs hid => ?_, hmore.subscriptions⟩
    -- Its number was still to be given, while those of the snapshot were in use.
    obtain ⟨s', hs', heq⟩ := List.mem_map.1 hid
    rw [← hsnapshot] at hs'
    exact h.reached.wired.sound.id_ne hs' (hnew key s hs) heq

end

/-- A message is dispatched to two handlers. The first one takes out the second, adds
a third and dispatches the message once more before it panics; when it is called
again it does nothing. The program notes how many handlers the dispatch has invoked. -/
def upheaval : Run Nat where
  state := { notes := 0 }
  journal := []
  agenda := [.script .program <|
    .subscribe notifyKey
      (fun e => .note (· + 1) fun calls =>
        if calls = 1 then
          .unsubscribe notifyKey ⟨1⟩ fun _ =>
          .subscribe notifyKey (fun _ => .done) fun _ =>
          .dispatch e fun _ => .panic .wordless
        else .done) fun _ =>
    .subscribe notifyKey (fun _ => .done) fun _ =>
    .dispatch (announcementWith "ssdp:alive".toList) fun count =>
    .note (· + 10 * count) fun _ => .done]

/-- The number of the handler, if the entry shows that one is invoked. -/
def Entry.invoked? : Entry → Option Nat
  | .invoked id _ => some id.number
  | _ => none

attribute [local instance] UrlParser.verbatim

/-- The dispatch in the midst of it has invoked the first handler and the new one;
after it the second one had its turn, which was no longer subscribed. -/
theorem upheaval_invokes_snapshot :
    (upheaval.after 30).agenda.length = 0 ∧
    (upheaval.after 30).journal.filterMap Entry.invoked? = [0, 0, 2, 1] ∧
    (upheaval.after 30).state.notes = 22 ∧
    ∃ log, Recorded log (upheaval.after 2) ∧
      (subscribed notifyKey log).map (·.id.number) = [0, 1] ∧
      (∃ c' later, InvokedInTurn (announcementWith "ssdp:alive".toList) (upheaval.after 2).state
        (subscribed notifyKey log) later c') ∧
      ∃ more, Recorded (log ++ more) (upheaval.after 30) ∧
        (subscribed notifyKey (log ++ more)).map (·.id.number) = [0, 2] := by
  have hend : (upheaval.after 30).agenda.length = 0 := by decide +kernel
  obtain ⟨log, hlog⟩ : ∃ log, Recorded log (upheaval.after 2) := by
    have hreached : Reached (fun _ => True) upheaval :=
      .move (.fresh 0 {} {} 0) trivial (.ask _ _ (.script _))
    exact (hreached.leads (leads_after upheaval 2)).recorded
  have hleads : Leads ((upheaval.after 2).after 1) (upheaval.after 30) :=
    leads_after ((upheaval.after 2).after 1) 27
  obtain ⟨-, hover, more, hmore, -, hsubs⟩ :=
    dispatch_invokes_snapshot hlog (.script .program _ _) hleads
  have hbefore := hlog.subscriptions notifyKey
  refine ⟨hend, by decide +kernel, by decide +kernel, log, hlog, ?_, ?_, more, hmore, ?_⟩
  · rw [← hbefore]
    decide +kernel
  · obtain ⟨inner, later, hne, -, -, hagenda⟩ | ⟨c', later, hturn, -⟩ := hover
    · rw [List.eq_nil_of_length_eq_zero hend] at hagenda
      exact absurd (List.append_eq_nil_iff.1 hagenda.symm).1 hne
    · exact ⟨c', later, hturn⟩
  · rw [← hsubs]
    decide +kernel

end Ssdp
