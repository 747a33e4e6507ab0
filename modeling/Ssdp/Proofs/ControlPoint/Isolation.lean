import Ssdp.Proofs.ControlPoint.Calm

/-!
# Handlers that panic

A handler that panics in a dispatch ends there, and all else goes on as if it had
returned: the handlers whose turn is still to come, the dispatch that it was called from,
and the code that dispatched. The panic is put on record, once.

* `Task.invokesFor`, `Task.runsFor`, `Task.returnsFor`, `Task.panicsFor`: the life of a
  handler that is called with a message;
* `Traced.handlers_end_once`: a handler that is called returns or panics once;
* `panics_isolated`: the run, compared with the one in which handlers return where they
  would panic.
-/

namespace Ssdp

variable {ν : Type}

section

/-- The handler and the message, if the entry shows that a handler is invoked. -/
def Entry.invocation? : Entry → Option (HandlerId × Received)
  | .invoked id e => some (id, e)
  | _ => none

/-- What the task of the step is answered by the router. -/
def Step.answer? (step : Step ν) : Option Answer :=
  step.state.answer? step.task

/-! ## Handlers at work -/

namespace Task

/-- Whether the task calls the code of a subscriber with the message. -/
def invokesFor (e : Received) : Task ν → Bool
  | .invoke ⟨_, .code _⟩ e' => e' = e
  | _ => false

/-- Whether the task is to go on with a handler that was called with the message. -/
def runsFor (e : Received) : Task ν → Bool
  | .script caller _ => caller = .subscriber e
  | _ => false

/-- Whether a handler that was called with the message returns. -/
def returnsFor (e : Received) : Task ν → Bool
  | .script caller .done => caller = .subscriber e
  | _ => false

/-- Whether a handler that was called with the message panics. -/
def panicsFor (e : Received) : Task ν → Bool
  | .script caller (.panic _) => caller = .subscriber e
  | _ => false

end Task

variable [UrlParser]

omit [UrlParser] in
theorem countP_dispatchTasks (c : ControlPoint ν) (e e' : Received) :
    (c.dispatchTasks e').countP (·.runsFor e) = 0 :=
  List.countP_eq_zero.2 <| List.forall_mem_map.2 fun _ _ => Bool.false_ne_true

omit [UrlParser] in
/-- But for scripts and calls of code, no task leaves a handler at work. -/
theorem Leaves.not_runsFor {c : ControlPoint ν} {task : Task ν} {todo : List (Task ν)}
    (h : Leaves c task todo) (e : Received)
    (hscript : ∀ caller body, task ≠ .script caller body) (hcode : task.invokesFor e = false) :
    todo.countP (·.runsFor e) = 0 := by
  cases h with
  | goOn caller body body' => exact (hscript _ _ rfl).elim
  | dispatch caller e next n => exact (hscript _ _ rfl).elim
  | operate caller id op next => exact (hscript _ _ rfl).elim
  | deliver e' => exact countP_dispatchTasks c e e'
  | code hid handler e' =>
    have hne : ¬ e' = e := by simpa [Task.invokesFor] using hcode
    simp [Task.runsFor, hne]
  | farewell id op ds => simp [List.countP_eq_zero, Task.runsFor]
  | sweep id ds => simp [List.countP_eq_zero, Task.runsFor]
  | broadcast id replies record => simp [List.countP_eq_zero, Task.runsFor]
  | emit id event s hs hd => simp [Task.runsFor]
  | _ => rfl

/-- A handler is at work from when it is called until it returns or panics. -/
theorem countP_todo_perform (c : ControlPoint ν) (task : Task ν) (e : Received) :
    (c.perform task).todo.countP (·.runsFor e) + [task].countP (·.returnsFor e) +
        [task].countP (·.panicsFor e) =
      [task].countP (·.runsFor e) + [task].countP (·.invokesFor e) := by
  cases task with
  | script caller body =>
    cases body with
    | done => exact Nat.zero_add _
    | panic reason => exact Nat.zero_add _
    | read datagram next =>
      simp only [ControlPoint.perform, ControlPoint.performScript]
      split <;> rfl
    | dispatch e' next =>
      have htodo : (c.perform (.script caller (.dispatch e' next))).todo.countP (·.runsFor e) =
          (c.dispatchTasks e').countP (·.runsFor e) +
            [Task.script caller (next (c.dispatchTasks e').length)].countP (·.runsFor e) :=
        List.countP_append
      rw [htodo, countP_dispatchTasks, Nat.zero_add]
      rfl
    | _ => rfl
  | invoke s e' =>
    obtain ⟨id, handler⟩ := s
    cases handler with
    | code handler => simp [ControlPoint.perform, ControlPoint.invoke, Task.runsFor,
        Task.invokesFor, Task.returnsFor, Task.panicsFor]
    | _ => rfl
  | _ =>
    rw [(leaves_perform c _).not_runsFor e (by simp) rfl]
    rfl

/-- The handlers that were called, and those at work before, have returned or panicked, or
they are still at work; none has done so twice. -/
theorem Traced.handlers_end_once {c₀ c : ControlPoint ν} {tasks left : List (Task ν)}
    {steps : List (Step ν)} (h : Traced c₀ tasks steps c left) (e : Received) :
    left.countP (·.runsFor e) + steps.countP (·.task.returnsFor e) +
        steps.countP (·.task.panicsFor e) =
      tasks.countP (·.runsFor e) + steps.countP (·.task.invokesFor e) := by
  induction h with
  | start => rfl
  | @perform steps c task rest _ ih =>
    have hstep := countP_todo_perform c task e
    have hlast (p : Task ν → Bool) :
        (steps ++ [Step.mk c task]).countP (fun step => p step.task) =
          steps.countP (fun step => p step.task) + [task].countP (p ·) :=
      List.countP_append
    rw [← List.singleton_append, List.countP_append] at ih
    rw [List.countP_append, hlast, hlast, hlast]
    omega
  | turn clock link _ ih => exact ih

/-! ## Runs with and without panics -/

/-- Whether the code is a subscriber's. -/
def CallerKind.isSubscriber (kind : CallerKind) : Bool :=
  kind = .subscriber

/-- A panic of a handler changes nothing and leaves nothing to be done. It puts the key and
the sender of its message on record. -/
theorem perform_of_soothed_handler {c : ControlPoint ν} {task : Task ν}
    (h : task.isSoothed CallerKind.isSubscriber = true) :
    ∃ e reason, task = .script (.subscriber e) (.panic reason) ∧
      c.perform task = ⟨c, [], [.logged (.handlerPanicked e.routeKey e.sender reason)], none⟩ := by
  unfold Task.isSoothed at h
  split at h
  · rename_i caller reason
    cases caller with
    | subscriber e => exact ⟨e, reason, rfl, rfl⟩
    | _ => cases h
  · cases h

omit [UrlParser] in
theorem answer?_calm {soothed : CallerKind → Bool} (c : ControlPoint ν) (task : Task ν) :
    (c.calm soothed).answer? (task.calm soothed) = c.answer? task := by
  cases task with
  | script caller body =>
    cases body with
    | panic reason =>
      simp only [Task.calm, Script.calm]
      split <;> rfl
    | subscribe key handler next => rfl
    | unsubscribe key id next =>
      simp [Task.calm, Script.calm, ControlPoint.answer?, ControlPoint.calm,
        Router.unsubscribe_map]
    | countHandlers key next =>
      simp [Task.calm, Script.calm, ControlPoint.answer?, ControlPoint.calm,
        Router.handlerCount_map]
    | dispatch e next =>
      simp [Task.calm, Script.calm, ControlPoint.answer?, ControlPoint.dispatchTasks_calm]
    | _ => rfl
  | deliver e => simp [Task.calm, ControlPoint.answer?, ControlPoint.dispatchTasks_calm]
  | _ => rfl

/-- What is read off entries other than records is the same without the panics of
handlers. -/
theorem filterMap_shownBy_calm {α : Type} (f : Entry → Option α)
    (hf : ∀ record, f (.logged record) = none) (steps : List (Step ν)) :
    (shownBy (steps.map (·.calm CallerKind.isSubscriber))).filterMap f =
      (shownBy steps).filterMap f := by
  refine filterMap_shownBy_calm_of fun step _ h => ?_
  obtain ⟨e, reason, -, houtcome⟩ := perform_of_soothed_handler (c := step.state) h
  rw [Step.outcome, houtcome]
  simp [hf]

omit [UrlParser] in
theorem isSoothed_calm (soothed : CallerKind → Bool) (task : Task ν) :
    (task.calm soothed).isSoothed soothed = false := by
  cases task with
  | script caller body =>
    cases body with
    | panic reason =>
      simp only [Task.calm, Script.calm]
      split
      · rfl
      · rename_i hkind
        exact Bool.eq_false_iff.2 hkind
    | _ => rfl
  | _ => rfl

/-- A handler that panics is as one that returns, but for the log. Let tasks be worked off
from any state, in steps to one where some are left, and compare this with the run in which
every handler returns where it would panic:

* the same steps are taken, with the calm code for the code, and they end with the same
  tasks left. So no panic gets further than the handler: the handlers whose turn is still to
  come and the code that dispatched are still there;
* the same handlers are invoked with the same messages in the same order, the same events
  are told and the same searches are sent;
* every request to the router is answered the same, and the same numbers are subscribed
  under every key in the end;
* what is shown differs by the steps in which handlers panic. Each of them changes nothing,
  leaves nothing to be done and shows one record, an error with the key and the sender of
  the message; in the calm run there is no such step;
* a step that ends in a panic, which nobody has caught, is a step of the program outside;
* a handler that is called with a message returns or panics once, unless it is still at
  work. -/
theorem panics_isolated {c₀ c : ControlPoint ν} {tasks left : List (Task ν)}
    {steps : List (Step ν)} (h : Traced c₀ tasks steps c left) :
    let calm := CallerKind.isSubscriber
    let steps' := steps.map (·.calm calm)
    Traced (c₀.calm calm) (tasks.map (·.calm calm)) steps' (c.calm calm)
        (left.map (·.calm calm)) ∧
      (shownBy steps').filterMap Entry.invocation? = (shownBy steps).filterMap Entry.invocation? ∧
      (shownBy steps').filterMap Entry.event? = (shownBy steps).filterMap Entry.event? ∧
      (shownBy steps').filterMap Entry.sent? = (shownBy steps).filterMap Entry.sent? ∧
      steps'.map Step.answer? = steps.map Step.answer? ∧
      (c.calm calm).router.nextId = c.router.nextId ∧
      (∀ key, ((c.calm calm).router.subscriptions key).map (·.id) =
        (c.router.subscriptions key).map (·.id)) ∧
      shownBy steps' = shownBy (steps.filter fun step => !step.task.isSoothed calm) ∧
      (∀ step ∈ steps, step.task.isSoothed calm = true → ∃ e reason,
        step.task = .script (.subscriber e) (.panic reason) ∧
        let record : LogRecord := .handlerPanicked e.routeKey e.sender reason
        step.outcome = ⟨step.state, [], [.logged record], none⟩ ∧ record.level = .error) ∧
      (∀ step ∈ steps', step.task.isSoothed calm = false) ∧
      (∀ step ∈ steps, ∀ reason, step.outcome.panic = some reason →
        step.task = .script .program (.panic reason)) ∧
      ∀ e, left.countP (·.runsFor e) + steps.countP (·.task.returnsFor e) +
          steps.countP (·.task.panicsFor e) =
        tasks.countP (·.runsFor e) + steps.countP (·.task.invokesFor e) := by
  intro calm steps'
  refine ⟨h.calm, filterMap_shownBy_calm _ (fun _ => rfl) steps,
    filterMap_shownBy_calm _ (fun _ => rfl) steps, filterMap_shownBy_calm _ (fun _ => rfl) steps,
    ?_, rfl, fun key => ?_, shownBy_calm steps, fun step _ hpanics => ?_, ?_,
    fun step _ reason hpanic => (step.state.panic_perform_iff step.task).1 hpanic,
    h.handlers_end_once⟩
  · rw [List.map_map]
    exact List.map_congr_left fun step _ => answer?_calm step.state step.task
  · rw [ControlPoint.calm, Router.subscriptions_map, List.map_map]
    rfl
  · obtain ⟨e, reason, htask, houtcome⟩ :=
      perform_of_soothed_handler (c := step.state) hpanics
    exact ⟨e, reason, htask, houtcome, rfl⟩
  · exact List.forall_mem_map.2 fun step _ => isSoothed_calm calm step.task

end

attribute [local instance] UrlParser.verbatim

/-- In the upheaval one of four calls ends in a panic, in the midst of a dispatch by the
program and after a dispatch of its own. Without it one record less is shown, and all else
is the same. -/
theorem upheaval_panics_isolated :
    let calm := CallerKind.isSubscriber
    let steps := upheaval.state.steps 30 upheaval.agenda
    let e := announcementWith "ssdp:alive".toList
    (upheaval.after 30).agenda.length = 0 ∧
      Traced (upheaval.state.calm calm) (upheaval.agenda.map (·.calm calm))
        (steps.map (·.calm calm)) ((upheaval.after 30).state.calm calm)
        ((upheaval.after 30).agenda.map (·.calm calm)) ∧
      (shownBy (steps.map (·.calm calm))).filterMap Entry.invoked? = [0, 0, 2, 1] ∧
      (shownBy (steps.map (·.calm calm))).length + 1 = (shownBy steps).length ∧
      steps.countP (·.task.invokesFor e) = 4 ∧
      steps.countP (·.task.returnsFor e) + steps.countP (·.task.panicsFor e) = 4 ∧
      steps.countP (·.task.panicsFor e) = 1 := by
  intro calm steps e
  have hend : (upheaval.after 30).agenda.length = 0 := by decide +kernel
  have htraced : Traced upheaval.state upheaval.agenda steps (upheaval.after 30).state
      (upheaval.after 30).agenda := traced_run upheaval.state 30 upheaval.agenda
  obtain ⟨hcalm, -, -, -, -, -, -, -, -, -, -, hends⟩ := panics_isolated htraced
  have hinvokes : steps.countP (·.task.invokesFor e) = 4 := by decide +kernel
  refine ⟨hend, hcalm, by decide +kernel, by decide +kernel, hinvokes, ?_, by decide +kernel⟩
  have hbalance := hends e
  rw [List.eq_nil_of_length_eq_zero hend, hinvokes] at hbalance
  simpa [upheaval, Task.runsFor] using hbalance

end Ssdp
