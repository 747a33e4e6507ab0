import Ssdp.ControlPoint.Run

/-!
# Traces

Two runs can be compared step by step where it is known which task is performed when. A
trace is the list of the tasks that were performed while tasks were worked off, each with
the state of that moment; what was shown, and what scripts were answered, can be read off
from it.

* `Step`, `shownBy`: a step of a trace, and what its steps show;
* `Traced`: tasks are worked off in the steps of a trace;
* `Traced.split`, `Traced.done_append`: of two lists of tasks the first is worked off first;
* `Traced.head`, `Traced.performed`, `Traced.of_cons`: the first step performs the first task;
* `Traced.of_append_cons`, `Traced.sublist`: what a step leaves is performed after it;
* `Traced.forall_states`: what is true at every step;
* `traced_run`: a run has a trace, which can be computed;
* `ControlPoint.surroundings_steps`: the clock and the link are the same all along it;
* `ControlPoint.perform_withLink`: only the search that is sent looks at what gets through and
  what comes back;
* `Answer`, `ControlPoint.answer?`: what requests to a router are answered.
-/

namespace Ssdp

variable {ν : Type}

/-- A task that is performed, and the state of that moment. -/
structure Step (ν : Type) where
  state : ControlPoint ν
  task : Task ν

variable [UrlParser]

namespace Step

/-- What the step leads to. -/
def outcome (step : Step ν) : Outcome ν :=
  step.state.perform step.task

end Step

/-- What steps show, one after the other. -/
def shownBy (steps : List (Step ν)) : List Entry :=
  steps.flatMap (·.outcome.journal)

theorem shownBy_append (steps more : List (Step ν)) :
    shownBy (steps ++ more) = shownBy steps ++ shownBy more :=
  List.flatMap_append

theorem shownBy_cons (step : Step ν) (rest : List (Step ν)) :
    shownBy (step :: rest) = step.outcome.journal ++ shownBy rest :=
  List.flatMap_cons

theorem shownBy_singleton (c : ControlPoint ν) (task : Task ν) :
    shownBy [⟨c, task⟩] = (c.perform task).journal :=
  List.append_nil _

/-- From a state in which tasks are to be done, the steps of a trace lead to one in which
some tasks are left, of these or of those they led to. -/
inductive Traced (c₀ : ControlPoint ν) (tasks : List (Task ν)) :
    List (Step ν) → ControlPoint ν → List (Task ν) → Prop
  | start : Traced c₀ tasks [] c₀ tasks
  | perform {steps : List (Step ν)} {c : ControlPoint ν} {task : Task ν} {rest : List (Task ν)}
    (h : Traced c₀ tasks steps c (task :: rest)) :
    Traced c₀ tasks (steps ++ [⟨c, task⟩]) (c.perform task).state ((c.perform task).todo ++ rest)
  | turn {steps : List (Step ν)} {c : ControlPoint ν} {left : List (Task ν)} (clock : Conditions)
    (link : Link) (h : Traced c₀ tasks steps c left) :
    Traced c₀ tasks steps { c with clock, link } left

namespace Traced

variable {c₀ c c' : ControlPoint ν} {tasks left left' : List (Task ν)}
  {steps steps' : List (Step ν)}

theorem trans (h : Traced c₀ tasks steps c left) (h' : Traced c left steps' c' left') :
    Traced c₀ tasks (steps ++ steps') c' left' := by
  induction h' with
  | start =>
    rw [List.append_nil]
    exact h
  | perform _ ih =>
    rw [← List.append_assoc]
    exact ih.perform
  | turn clock link _ ih => exact ih.turn clock link

/-- What waits behind the tasks makes no difference. -/
theorem append (h : Traced c₀ tasks steps c left) (waiting : List (Task ν)) :
    Traced c₀ (tasks ++ waiting) steps c (left ++ waiting) := by
  induction h with
  | start => exact .start
  | perform _ ih =>
    rw [List.append_assoc]
    exact ih.perform
  | turn clock link _ ih => exact ih.turn clock link

/-- Either some of the first tasks, or of what they led to, is left, or they were
worked off before the others were begun. -/
theorem split {xs ys : List (Task ν)} (h : Traced c₀ (xs ++ ys) steps c left) :
    (∃ inner, left = inner ++ ys ∧ Traced c₀ xs steps c inner) ∨
      ∃ c₁ first second, Traced c₀ xs first c₁ [] ∧ Traced c₁ ys second c left ∧
        steps = first ++ second := by
  induction h with
  | start => exact .inl ⟨xs, rfl, .start⟩
  | @perform steps c task rest h ih =>
    obtain ⟨inner, heq, hxs⟩ | ⟨c₁, first, second, hxs, hys, rfl⟩ := ih
    · cases inner with
      | nil =>
        rw [List.nil_append] at heq
        subst heq
        exact .inr ⟨c, steps, [⟨c, task⟩], hxs, .perform .start, rfl⟩
      | cons t inner =>
        obtain ⟨rfl, rfl⟩ := List.cons.inj heq
        exact .inl ⟨_, (List.append_assoc _ inner ys).symm, hxs.perform⟩
    · exact .inr ⟨c₁, first, _, hxs, hys.perform, by rw [List.append_assoc]⟩
  | turn clock link h ih =>
    obtain ⟨inner, heq, hxs⟩ | ⟨c₁, first, second, hxs, hys, heq⟩ := ih
    · exact .inl ⟨inner, heq, hxs.turn clock link⟩
    · exact .inr ⟨c₁, first, second, hxs, hys.turn clock link, heq⟩

/-- Tasks that are all worked off were so one list after the other. -/
theorem done_append {xs ys : List (Task ν)} (h : Traced c₀ (xs ++ ys) steps c []) :
    ∃ c₁ first second, Traced c₀ xs first c₁ [] ∧ Traced c₁ ys second c [] ∧
      steps = first ++ second := by
  obtain ⟨inner, heq, hxs⟩ | h := h.split
  · obtain ⟨rfl, rfl⟩ := List.append_eq_nil_iff.1 heq.symm
    exact ⟨c, steps, [], hxs, .start, (List.append_nil steps).symm⟩
  · exact h

/-- The clock and the link at the beginning make no difference, as they may change at once. -/
theorem turn_iff (clock : Conditions) (link : Link) :
    Traced { c₀ with clock, link } tasks steps c left ↔ Traced c₀ tasks steps c left := by
  have hchange : Traced c₀ tasks [] { c₀ with clock, link } tasks := Traced.start.turn clock link
  have hback : Traced { c₀ with clock, link } tasks [] c₀ tasks :=
    Traced.start.turn c₀.clock c₀.link
  exact ⟨hchange.trans, hback.trans⟩

/-- Unless a task is still to be done, it was performed, at some time, and then
what it left. -/
theorem head {task : Task ν} {rest : List (Task ν)} (h : Traced c₀ (task :: rest) steps c left) :
    (left = task :: rest ∧ steps = [] ∧ ∃ clock link, c = { c₀ with clock, link }) ∨
      ∃ clock link later, let first : Step ν := ⟨{ c₀ with clock, link }, task⟩
        Traced first.outcome.state (first.outcome.todo ++ rest) later c left ∧
          steps = first :: later := by
  induction h with
  | start => exact .inl ⟨rfl, rfl, c₀.clock, c₀.link, rfl⟩
  | perform h ih =>
    obtain ⟨heq, rfl, clock, link, rfl⟩ | ⟨clock, link, later, hlater, rfl⟩ := ih
    · obtain ⟨rfl, rfl⟩ := List.cons.inj heq
      exact .inr ⟨clock, link, [], .start, rfl⟩
    · exact .inr ⟨clock, link, _, hlater.perform, rfl⟩
  | turn clock' link' h ih =>
    obtain ⟨heq, hnil, clock, link, rfl⟩ | ⟨clock, link, later, hlater, heq⟩ := ih
    · exact .inl ⟨heq, hnil, clock', link', rfl⟩
    · exact .inr ⟨clock, link, later, hlater.turn clock' link', heq⟩

/-- Without tasks, no more than the clock and the link change. -/
theorem of_no_tasks (h : Traced c₀ [] steps c left) :
    steps = [] ∧ left = [] ∧ ∃ clock link, c = { c₀ with clock, link } := by
  induction h with
  | start => exact ⟨rfl, rfl, c₀.clock, c₀.link, rfl⟩
  | perform _ ih => cases ih.2.1
  | turn clock link _ ih =>
    obtain ⟨hsteps, hleft, _, _, rfl⟩ := ih
    exact ⟨hsteps, hleft, clock, link, rfl⟩

/-- Likewise without steps, and the tasks are left as they were. -/
theorem of_no_steps (h : Traced c₀ tasks [] c left) :
    left = tasks ∧ ∃ clock link, c = { c₀ with clock, link } := by
  cases tasks with
  | nil => exact h.of_no_tasks.2
  | cons task rest =>
    obtain ⟨hleft, -, hc⟩ | ⟨_, _, _, -, hsteps⟩ := h.head
    · exact ⟨hleft, hc⟩
    · cases hsteps

/-- The first step of a trace performs the first task, and the others go on from there. -/
theorem of_cons {first : Step ν} (h : Traced c₀ tasks (first :: steps) c left) :
    ∃ task rest clock link, tasks = task :: rest ∧ first = ⟨{ c₀ with clock, link }, task⟩ ∧
      Traced first.outcome.state (first.outcome.todo ++ rest) steps c left := by
  cases tasks with
  | nil => exact absurd h.of_no_tasks.1 (List.cons_ne_nil first steps)
  | cons task rest =>
    obtain ⟨-, hsteps, -⟩ | ⟨clock, link, later, hlater, hsteps⟩ := h.head
    · cases hsteps
    · obtain ⟨rfl, rfl⟩ := List.cons.inj hsteps
      exact ⟨task, rest, clock, link, rfl, rfl, hlater⟩

/-- After a step of a trace, the others go on with what it left and with what waited. -/
theorem of_append_cons {before after : List (Step ν)} {step : Step ν}
    (h : Traced c₀ tasks (before ++ step :: after) c left) :
    ∃ rest, Traced step.outcome.state (step.outcome.todo ++ rest) after c left := by
  induction before generalizing c₀ tasks with
  | nil =>
    obtain ⟨_, rest, _, _, -, -, hlater⟩ := h.of_cons
    exact ⟨rest, hlater⟩
  | cons first before ih =>
    obtain ⟨_, _, _, _, -, -, hlater⟩ := h.of_cons
    exact ih hlater

/-- Tasks that were to be done have been performed one after the other, or they are left. -/
theorem sublist (h : Traced c₀ tasks steps c left) :
    tasks.Sublist (steps.map (·.task) ++ left) := by
  induction h with
  | start => exact .refl _
  | @perform steps c task rest _ ih =>
    refine ih.trans ?_
    rw [List.map_append, List.map_singleton, List.append_assoc, List.singleton_append]
    exact ((List.sublist_append_right _ rest).cons_cons task).append_left _
  | turn _ _ _ ih => exact ih

/-- What no task, no clock and no link undoes is true at every step, and in the end. -/
theorem forall_states {P : ControlPoint ν → Prop} (h : Traced c₀ tasks steps c left)
    (hstart : P c₀) (hperform : ∀ c task, P c → P (c.perform task).state)
    (hturn : ∀ (c : ControlPoint ν) clock link, P c → P { c with clock, link }) :
    (∀ step ∈ steps, P step.state) ∧ P c := by
  induction h with
  | start => exact ⟨List.forall_mem_nil _, hstart⟩
  | perform _ ih =>
    obtain ⟨hsteps, hlast⟩ := ih
    exact ⟨List.forall_mem_append.2 ⟨hsteps, List.forall_mem_singleton.2 hlast⟩,
      hperform _ _ hlast⟩
  | turn clock link _ ih => exact ⟨ih.1, hturn _ clock link ih.2⟩

/-- A task that is worked off was performed, at some time, and then what it led to. -/
theorem performed {task : Task ν} (h : Traced c₀ [task] steps c []) :
    ∃ clock link later, let c₁ : ControlPoint ν := { c₀ with clock, link }
      Traced (c₁.perform task).state (c₁.perform task).todo later c [] ∧
        steps = ⟨c₁, task⟩ :: later := by
  obtain ⟨heq, -⟩ | ⟨clock, link, later, hlater, rfl⟩ := h.head
  · cases heq
  · rw [List.append_nil] at hlater
    exact ⟨clock, link, later, hlater, rfl⟩

end Traced

namespace ControlPoint

/-- The steps of a run. -/
def steps (c : ControlPoint ν) : Nat → List (Task ν) → List (Step ν)
  | 0, _ => []
  | _ + 1, [] => []
  | n + 1, task :: rest =>
    ⟨c, task⟩ :: (c.perform task).state.steps n ((c.perform task).todo ++ rest)

end ControlPoint

/-- A run is traced by its steps. -/
theorem traced_run (c : ControlPoint ν) (n : Nat) (tasks : List (Task ν)) :
    Traced c tasks (c.steps n tasks) (c.run n tasks).state (c.run n tasks).agenda := by
  induction n generalizing c tasks with
  | zero =>
    rw [ControlPoint.run_zero]
    exact .start
  | succ n ih =>
    cases tasks with
    | nil =>
      rw [ControlPoint.run_nil]
      exact .start
    | cons task rest =>
      have hfirst : Traced c (task :: rest) [⟨c, task⟩] _ _ := .perform .start
      rw [ControlPoint.run_succ]
      exact hfirst.trans (ih _ _)

/-! ## Clock and link -/

namespace ControlPoint

/-- Whether the clock and the link are the same in both states. -/
def SameSurroundings (c c' : ControlPoint ν) : Prop :=
  c'.clock = c.clock ∧ c'.link = c.link

omit [UrlParser] in
theorem surroundings_carryOut (c : ControlPoint ν) (id : LocatorId) (l : Locator)
    (judgement : Verdict × List LogRecord) :
    c.SameSurroundings (c.carryOut id l judgement).state := by
  obtain ⟨v, records⟩ := judgement
  cases v <;> exact ⟨rfl, rfl⟩

theorem surroundings_operate (c : ControlPoint ν) (id : LocatorId) (l : Locator)
    (op : Operation) : c.SameSurroundings (c.operate id l op).state := by
  cases op with
  | start =>
    simp only [operate, start]
    split <;> exact ⟨rfl, rfl⟩
  | answer e => exact c.surroundings_carryOut id _ _
  | announcement e => exact c.surroundings_carryOut id _ _
  | _ => exact ⟨rfl, rfl⟩

omit [UrlParser] in
theorem surroundings_performScript (c : ControlPoint ν) (caller : Caller) (body : Script ν) :
    c.SameSurroundings (c.performScript caller body).state := by
  cases body with
  | read datagram next =>
    simp only [performScript]
    split <;> exact ⟨rfl, rfl⟩
  | build config owner next =>
    simp only [performScript, build]
    split <;> exact ⟨rfl, rfl⟩
  | _ => exact ⟨rfl, rfl⟩

/-- No task moves the clock or the link. -/
theorem surroundings_perform (c : ControlPoint ν) (task : Task ν) :
    c.SameSurroundings (c.perform task).state := by
  cases task with
  | script caller body => exact c.surroundings_performScript caller body
  | take reply =>
    simp only [perform, take]
    split <;> exact ⟨rfl, rfl⟩
  | invoke s e =>
    obtain ⟨hid, handler⟩ := s
    cases handler <;> exact ⟨rfl, rfl⟩
  | operate id op =>
    simp only [perform, withLocator]
    split
    · split
      · exact ⟨rfl, rfl⟩
      · exact c.surroundings_operate id _ op
    · exact ⟨rfl, rfl⟩
  | search id =>
    simp only [perform, withLocator]
    split <;> exact ⟨rfl, rfl⟩
  | emit id event =>
    simp only [perform]
    split
    · split <;> exact ⟨rfl, rfl⟩
    · exact ⟨rfl, rfl⟩
  | broadcast id =>
    simp only [perform, withLocator, broadcast]
    split
    · split <;> exact ⟨rfl, rfl⟩
    · exact ⟨rfl, rfl⟩
  | _ => exact ⟨rfl, rfl⟩

/-- The control point with another link. -/
def withLink (c : ControlPoint ν) (link : Link) : ControlPoint ν :=
  { c with link }

end ControlPoint

/-- The outcome with another link. -/
def Outcome.withLink (o : Outcome ν) (link : Link) : Outcome ν :=
  { o with state := o.state.withLink link }

namespace ControlPoint

omit [UrlParser] in
theorem performScript_withLink (c : ControlPoint ν) (link : Link) (caller : Caller)
    (body : Script ν) :
    (c.withLink link).performScript caller body = (c.performScript caller body).withLink link := by
  cases body with
  | read datagram next =>
    simp only [performScript]
    split <;> rfl
  | build config owner next =>
    simp only [performScript, build]
    cases config.fault? <;> rfl
  | _ => rfl

omit [UrlParser] in
theorem carryOut_withLink (c : ControlPoint ν) (link : Link) (id : LocatorId) (l : Locator)
    (judgement : Verdict × List LogRecord) :
    (c.withLink link).carryOut id l judgement = (c.carryOut id l judgement).withLink link := by
  obtain ⟨v, records⟩ := judgement
  cases v <;> rfl

theorem operate_withLink {c : ControlPoint ν} {link : Link} (h : link.traces = c.link.traces)
    (id : LocatorId) (l : Locator) (op : Operation) :
    (c.withLink link).operate id l op = (c.operate id l op).withLink link := by
  cases op with
  | start =>
    simp only [operate, start]
    split <;> rfl
  | answer e => exact c.carryOut_withLink link id l _
  | announcement e =>
    have htraces : (c.withLink link).link.traces = c.link.traces := h
    simp only [operate, htraces]
    exact c.carryOut_withLink link id l _
  | _ => rfl

/-- A task that sends no search finds of the link no more than for which addresses
announcements are traced. -/
theorem perform_withLink {c : ControlPoint ν} {link : Link} (h : link.traces = c.link.traces)
    {task : Task ν} (htask : ∀ id, task ≠ .broadcast id) :
    (c.withLink link).perform task = (c.perform task).withLink link := by
  have hlocator (id : LocatorId) : (c.withLink link).locator? id = c.locator? id := rfl
  cases task with
  | script caller body =>
    exact congrArg caller.catching (c.performScript_withLink link caller body)
  | take reply =>
    simp only [perform, take]
    cases reply.read? <;> rfl
  | invoke s e =>
    obtain ⟨hid, handler⟩ := s
    cases handler <;> rfl
  | operate id op =>
    simp only [perform, withLocator, hlocator]
    cases c.locator? id with
    | none => rfl
    | some l =>
      by_cases hd : l.dropped = true
      · simp only [hd, if_true]
        rfl
      · simp only [if_neg hd]
        exact operate_withLink h id l op
  | search id =>
    simp only [perform, withLocator, hlocator]
    cases c.locator? id <;> rfl
  | emit id event =>
    have hslots : (c.withLink link).slots = c.slots := rfl
    simp only [perform, hslots]
    cases c.slots[id]? with
    | none => rfl
    | some s =>
      by_cases hd : s.locator.disposed = true
      · simp only [hd, if_true]
        rfl
      · simp only [if_neg hd]
        rfl
  | broadcast id => exact absurd rfl (htask id)
  | _ => rfl

/-- In a run every step finds the clock and the link of the beginning. -/
theorem surroundings_steps (c : ControlPoint ν) (n : Nat) (tasks : List (Task ν)) :
    ∀ step ∈ c.steps n tasks, c.SameSurroundings step.state := by
  induction n generalizing c tasks with
  | zero => exact List.forall_mem_nil _
  | succ n ih =>
    cases tasks with
    | nil => exact List.forall_mem_nil _
    | cons task rest =>
      obtain ⟨hclock, hlink⟩ := c.surroundings_perform task
      refine List.forall_mem_cons.2 ⟨⟨rfl, rfl⟩, fun step hstep => ?_⟩
      obtain ⟨hclock', hlink'⟩ := ih _ _ step hstep
      exact ⟨hclock'.trans hclock, hlink'.trans hlink⟩

end ControlPoint

/-! ## Answers -/

/-- What a router answers: the number of a new subscription, whether a number was taken
out, how many handlers are subscribed, or how many a dispatch invokes. -/
inductive Answer where
  | subscribed (id : HandlerId)
  | unsubscribed (removed : Bool)
  | counted (n : Nat)
  | dispatched (n : Nat)
deriving DecidableEq

/-- What a task that asks the router is answered. -/
def ControlPoint.answer? (c : ControlPoint ν) : Task ν → Option Answer
  | .script _ (.subscribe key handler _) =>
    some (.subscribed (c.router.subscribe key (.code handler)).2)
  | .script _ (.unsubscribe key id _) => some (.unsubscribed (c.router.unsubscribe key id).2)
  | .script _ (.countHandlers key _) => some (.counted (c.router.handlerCount key))
  | .script _ (.dispatch e _) => some (.dispatched (c.dispatchTasks e).length)
  | .deliver e => some (.dispatched (c.dispatchTasks e).length)
  | _ => none

end Ssdp
