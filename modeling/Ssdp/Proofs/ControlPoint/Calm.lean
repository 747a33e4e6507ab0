import Ssdp.Proofs.ControlPoint.Dispatch

/-!
# Code that returns where it would panic

A run can be compared with the one in which code of some kind returns at the point where it
panics. Both take the same steps: where the one puts a panic on record the other does
nothing, and all other steps are the same.

* `Script.calm`: the script that returns where it would panic, and hands over code that
  does so;
* `ControlPoint.calm`, `Task.calm`, `Step.calm`: all code at work is such;
* `perform_calm`, `perform_calm_of_soothed`: one step of both;
* `Traced.calm`, `Traced.of_calm`: what one of them goes through the other one does, too;
* `shownBy_calm`: what both of them show.
-/

namespace Ssdp

variable {ν : Type}

/-- Whose code it is: subscribers', owners', or the program's. -/
inductive CallerKind where
  | subscriber
  | owner
  | program
deriving DecidableEq

/-- Whose code is running. -/
def Caller.kind : Caller → CallerKind
  | subscriber _ => .subscriber
  | owner _ => .owner
  | program => .program

section

variable (soothed : CallerKind → Bool)

/-- The script that returns where it would panic, if code of its kind is soothed, and that
hands over only code that does the same. -/
def Script.calm (kind : CallerKind) : Script ν → Script ν
  | .done => .done
  | .panic reason => if soothed kind then .done else .panic reason
  | .note change next => .note change fun notes => (next notes).calm kind
  | .read datagram next => .read datagram fun result => (next result).calm kind
  | .subscribe key handler next =>
    .subscribe key (fun e => (handler e).calm .subscriber) fun id => (next id).calm kind
  | .unsubscribe key id next => .unsubscribe key id fun removed => (next removed).calm kind
  | .countHandlers key next => .countHandlers key fun n => (next n).calm kind
  | .dispatch e next => .dispatch e fun n => (next n).calm kind
  | .build config owner next =>
    .build config (fun event => (owner event).calm .owner) fun result => (next result).calm kind
  | .operate id op next => .operate id op (next.calm kind)
  | .look id next => .look id fun l => (next l).calm kind

/-- The subscriber with such code. -/
def Subscriber.calm : Subscriber ν → Subscriber ν
  | .code handler => .code fun e => (handler e).calm soothed .subscriber
  | .answers id => .answers id
  | .announcements id => .announcements id

/-- The locator with an owner of such code. -/
def Slot.calm (s : Slot ν) : Slot ν :=
  { s with owner := fun event => (s.owner event).calm soothed .owner }

/-- The control point in which all code is such. -/
def ControlPoint.calm (c : ControlPoint ν) : ControlPoint ν :=
  { c with
    router := c.router.map (·.calm soothed)
    slots := c.slots.map (·.calm soothed) }

/-- The task with such code. -/
def Task.calm : Task ν → Task ν
  | .script caller body => .script caller (body.calm soothed caller.kind)
  | .invoke s e => .invoke (s.map (·.calm soothed)) e
  | task => task

/-- What the step leads to where all code is such. -/
def Outcome.calm (o : Outcome ν) : Outcome ν :=
  { o with state := o.state.calm soothed, todo := o.todo.map (·.calm soothed) }

/-- The step where all code is such. -/
def Step.calm (step : Step ν) : Step ν :=
  ⟨step.state.calm soothed, step.task.calm soothed⟩

/-- Whether the task is a panic of code that is soothed. -/
def Task.isSoothed : Task ν → Bool
  | .script caller (.panic _) => soothed caller.kind
  | _ => false

end

/-! ## One step -/

section

variable {soothed : CallerKind → Bool} (c : ControlPoint ν)

namespace ControlPoint

@[simp] theorem clock_calm : (c.calm soothed).clock = c.clock := rfl

@[simp] theorem link_calm : (c.calm soothed).link = c.link := rfl

theorem locator?_calm (id : LocatorId) : (c.calm soothed).locator? id = c.locator? id := by
  simp only [locator?, calm, List.getElem?_map, Option.map_map]
  rfl

theorem modifyLocator_calm (id : LocatorId) (f : Locator → Locator) :
    (c.calm soothed).modifyLocator id f = (c.modifyLocator id f).calm soothed := by
  simp only [modifyLocator, calm]
  congr 1
  refine List.ext_getElem? fun i => ?_
  rw [List.getElem?_modify, List.getElem?_map, List.getElem?_map, List.getElem?_modify]
  cases c.slots[i]? with
  | none => rfl
  | some s => by_cases hid : id = i <;> simp [hid, Slot.calm]

theorem unsubscribeAll_calm (r : Router (Subscriber ν)) (numbers : List (Text × HandlerId)) :
    unsubscribeAll (r.map (·.calm soothed)) numbers =
      (unsubscribeAll r numbers).map (·.calm soothed) := by
  induction numbers generalizing r with
  | nil => rfl
  | cons number rest ih => rw [unsubscribeAll, Router.unsubscribe_map, ih, unsubscribeAll]

theorem dispatchTasks_calm (e : Received) :
    (c.calm soothed).dispatchTasks e = (c.dispatchTasks e).map (·.calm soothed) := by
  simp only [dispatchTasks, calm, Router.subscriptions_map, List.map_map]
  rfl

theorem build_calm (config : LocatorConfig) (owner : Event → Script ν) :
    (c.calm soothed).build config (fun event => (owner event).calm soothed .owner) =
      ((c.build config owner).1.calm soothed, (c.build config owner).2) := by
  unfold build
  cases config.fault? with
  | some error => rfl
  | none =>
    have hanswers (r : Router (Subscriber ν)) (id : LocatorId) :
        (r.map (·.calm soothed)).subscribe responseStartLine (.answers id) =
          ((r.subscribe responseStartLine (.answers id)).1.map (·.calm soothed),
            (r.subscribe responseStartLine (.answers id)).2) :=
      Router.subscribe_map (·.calm soothed) r responseStartLine (.answers id)
    have hannouncements (r : Router (Subscriber ν)) (id : LocatorId) :
        (r.map (·.calm soothed)).subscribe notifyKey (.announcements id) =
          ((r.subscribe notifyKey (.announcements id)).1.map (·.calm soothed),
            (r.subscribe notifyKey (.announcements id)).2) :=
      Router.subscribe_map (·.calm soothed) r notifyKey (.announcements id)
    simp [calm, hanswers, hannouncements, Slot.calm]

theorem withLocator_calm {id : LocatorId} {f f' : Locator → Outcome ν}
    (h : ∀ l, f' l = (f l).calm soothed) :
    (c.calm soothed).withLocator id f' = (c.withLocator id f).calm soothed := by
  rw [withLocator, withLocator, locator?_calm]
  cases c.locator? id with
  | none => rfl
  | some l => exact h l

theorem carryOut_calm (id : LocatorId) (l : Locator) (judgement : Verdict × List LogRecord) :
    (c.calm soothed).carryOut id l judgement = (c.carryOut id l judgement).calm soothed := by
  obtain ⟨v, records⟩ := judgement
  cases v with
  | ignore => rfl
  | refresh d => simp [carryOut, Outcome.calm, Task.calm, modifyLocator_calm]
  | farewell usn =>
    simp [carryOut, Outcome.calm, Task.calm, modifyCache, modifyLocator_calm]

theorem dispose_calm (id : LocatorId) (l : Locator) :
    (c.calm soothed).dispose id l = (c.dispose id l).calm soothed := by
  simp only [dispose, modifyLocator_calm, Outcome.calm, List.map_nil]
  simp only [calm, unsubscribeAll_calm]

theorem operate_calm [UrlParser] (id : LocatorId) (l : Locator) (op : Operation) :
    (c.calm soothed).operate id l op = (c.operate id l op).calm soothed := by
  cases op with
  | start =>
    simp only [operate, start, modifyLocator_calm]
    split <;> rfl
  | stop =>
    simp only [operate, stop, modifyLocator_calm]
    rfl
  | dispose => exact dispose_calm c id l
  | drop =>
    simp only [operate, dispose_calm, Outcome.calm, modifyLocator_calm]
  | searchNow =>
    simp only [operate]
    split <;> rfl
  | tick =>
    simp only [operate]
    split <;> rfl
  | answer e => exact carryOut_calm c id l _
  | announcement e => exact carryOut_calm c id l _

theorem search_calm (id : LocatorId) (l : Locator) :
    (c.calm soothed).search id l = (c.search id l).calm soothed := by
  simp [search, Outcome.calm, Function.comp_def, Task.calm, modifyCache, modifyLocator_calm]

theorem broadcast_calm (id : LocatorId) (l : Locator) :
    (c.calm soothed).broadcast id l = (c.broadcast id l).calm soothed := by
  simp only [broadcast, link_calm]
  by_cases hworks : c.link.works c.attempts
  · simp [calm, hworks, Outcome.calm, Function.comp_def, Task.calm]
  · simp [calm, hworks, Outcome.calm]

theorem take_calm (reply : Reply) : (c.calm soothed).take reply = (c.take reply).calm soothed := by
  simp only [take]
  cases reply.read? <;> rfl

theorem emit_calm [UrlParser] (id : LocatorId) (event : Event) :
    (c.calm soothed).perform (.emit id event) = (c.perform (.emit id event)).calm soothed := by
  simp only [perform, calm, List.getElem?_map]
  cases c.slots[id]? with
  | none => rfl
  | some s =>
    by_cases hd : s.locator.disposed <;>
      simp [hd, Slot.calm, Outcome.calm, calm, Task.calm, Caller.kind]

/-- A script that does not panic goes on alike. -/
theorem performScript_calm (caller : Caller) (body : Script ν)
    (h : (Task.script caller body).isSoothed soothed = false) :
    (c.calm soothed).performScript caller (body.calm soothed caller.kind) =
      (c.performScript caller body).calm soothed := by
  cases body with
  | done => rfl
  | panic reason =>
    rw [Script.calm, if_neg (by simpa [Task.isSoothed] using h)]
    rfl
  | note change next => rfl
  | read datagram next =>
    simp only [Script.calm, performScript]
    cases Message.read? datagram <;> rfl
  | subscribe key handler next =>
    have hsubscribe : (c.router.map (·.calm soothed)).subscribe key
          (.code fun e => (handler e).calm soothed .subscriber) =
        ((c.router.subscribe key (.code handler)).1.map (·.calm soothed),
          (c.router.subscribe key (.code handler)).2) :=
      Router.subscribe_map (·.calm soothed) c.router key (.code handler)
    simp [Script.calm, performScript, calm, hsubscribe, Outcome.calm, Task.calm]
  | unsubscribe key id next =>
    simp [Script.calm, performScript, calm, Router.unsubscribe_map, Outcome.calm, Task.calm]
  | countHandlers key next =>
    simp [Script.calm, performScript, calm, Router.handlerCount_map, Outcome.calm, Task.calm]
  | dispatch e next =>
    simp [Script.calm, performScript, dispatchTasks_calm, Outcome.calm, Task.calm]
  | build config owner next =>
    simp [Script.calm, performScript, build_calm, Outcome.calm, Task.calm]
  | operate id op next => rfl
  | look id next =>
    simp [Script.calm, performScript, locator?_calm, Outcome.calm, Task.calm]

/-- What is no panic of soothed code leads to the same in both runs. -/
theorem perform_calm [UrlParser] (task : Task ν) (h : task.isSoothed soothed = false) :
    (c.calm soothed).perform (task.calm soothed) = (c.perform task).calm soothed := by
  cases task with
  | script caller body => exact congrArg caller.catching (performScript_calm c caller body h)
  | deliver e => simp [Task.calm, perform, dispatchTasks_calm, Outcome.calm]
  | take reply => exact c.take_calm reply
  | invoke s e =>
    obtain ⟨id, handler⟩ := s
    cases handler <;> rfl
  | operate id op =>
    refine withLocator_calm c fun l => ?_
    split
    · rfl
    · exact c.operate_calm id l op
  | search id => exact withLocator_calm c fun l => c.search_calm id l
  | lose id cause d => rfl
  | emit id event => exact c.emit_calm id event
  | broadcast id => exact withLocator_calm c fun l => c.broadcast_calm id l
  | log record => rfl

/-- Where soothed code panics, the one run ends the script with a record and the other one
ends it without: nothing else is done by either. -/
theorem perform_calm_of_soothed [UrlParser] {task : Task ν} (h : task.isSoothed soothed = true) :
    (c.calm soothed).perform (task.calm soothed) = ⟨c.calm soothed, [], [], none⟩ ∧
      (c.perform task).state = c ∧ (c.perform task).todo = [] := by
  obtain ⟨caller, reason, rfl, hkind⟩ : ∃ caller reason, task = .script caller (.panic reason) ∧
      soothed caller.kind = true := by
    unfold Task.isSoothed at h
    split at h
    · exact ⟨_, _, rfl, h⟩
    · cases h
  refine ⟨?_, rfl, rfl⟩
  rw [Task.calm, Script.calm, if_pos hkind]
  rfl

theorem state_perform_calm [UrlParser] (task : Task ν) :
    ((c.calm soothed).perform (task.calm soothed)).state = (c.perform task).state.calm soothed := by
  cases h : task.isSoothed soothed with
  | false => rw [perform_calm c task h, Outcome.calm]
  | true =>
    obtain ⟨hcalm, hstate, -⟩ := perform_calm_of_soothed c h
    rw [hcalm, hstate]

theorem todo_perform_calm [UrlParser] (task : Task ν) :
    ((c.calm soothed).perform (task.calm soothed)).todo =
      (c.perform task).todo.map (·.calm soothed) := by
  cases h : task.isSoothed soothed with
  | false => rw [perform_calm c task h, Outcome.calm]
  | true =>
    obtain ⟨hcalm, -, htodo⟩ := perform_calm_of_soothed c h
    rw [hcalm, htodo, List.map_nil]

theorem journal_perform_calm [UrlParser] (task : Task ν) :
    ((c.calm soothed).perform (task.calm soothed)).journal =
      if task.isSoothed soothed then [] else (c.perform task).journal := by
  cases h : task.isSoothed soothed with
  | false => rw [perform_calm c task h, Outcome.calm, if_neg Bool.false_ne_true]
  | true => rw [(perform_calm_of_soothed c h).1, if_pos rfl]

end ControlPoint

end

/-! ## Whole runs -/

section

variable {soothed : CallerKind → Bool} {c₀ c : ControlPoint ν} {tasks left : List (Task ν)}
  {steps : List (Step ν)}

/-- Both runs take the same steps, with the calm code in the one for the code of the other. -/
theorem Traced.calm [UrlParser] (h : Traced c₀ tasks steps c left) :
    Traced (c₀.calm soothed) (tasks.map (·.calm soothed)) (steps.map (·.calm soothed))
      (c.calm soothed) (left.map (·.calm soothed)) := by
  induction h with
  | start => exact .start
  | @perform steps c task rest _ ih =>
    rw [List.map_append, List.map_append, ← c.state_perform_calm, ← c.todo_perform_calm]
    exact ih.perform
  | turn clock link _ ih => exact ih.turn clock link

/-- Whatever the run of calm code goes through, the other one goes through as well. -/
theorem Traced.of_calm [UrlParser] {steps' : List (Step ν)} {c' : ControlPoint ν}
    {left' : List (Task ν)}
    (h : Traced (c₀.calm soothed) (tasks.map (·.calm soothed)) steps' c' left') :
    ∃ steps c left, Traced c₀ tasks steps c left ∧ steps' = steps.map (·.calm soothed) ∧
      c' = c.calm soothed ∧ left' = left.map (·.calm soothed) := by
  induction h with
  | start => exact ⟨[], c₀, tasks, .start, rfl, rfl, rfl⟩
  | perform _ ih =>
    obtain ⟨steps, c, left, h, rfl, rfl, hleft⟩ := ih
    obtain ⟨task, rest, rfl, rfl, rfl⟩ := List.map_eq_cons_iff.1 hleft.symm
    refine ⟨_, _, _, h.perform, ?_, c.state_perform_calm task, ?_⟩
    · rw [List.map_append]
      rfl
    · rw [List.map_append, c.todo_perform_calm]
  | turn clock link _ ih =>
    obtain ⟨steps, c, left, h, rfl, rfl, rfl⟩ := ih
    exact ⟨steps, _, left, h.turn clock link, rfl, rfl, rfl⟩

/-- The run of calm code shows what the other one shows in the steps that are no panics of
soothed code. -/
theorem shownBy_calm [UrlParser] (steps : List (Step ν)) :
    shownBy (steps.map (·.calm soothed)) =
      shownBy (steps.filter fun step => !step.task.isSoothed soothed) := by
  induction steps with
  | nil => rfl
  | cons step rest ih =>
    rw [shownBy, List.map_cons, List.flatMap_cons, ← shownBy, ih]
    have hstep : (step.calm soothed).outcome.journal =
        if step.task.isSoothed soothed then [] else step.outcome.journal :=
      step.state.journal_perform_calm step.task
    cases h : step.task.isSoothed soothed with
    | false =>
      rw [h, if_neg Bool.false_ne_true] at hstep
      rw [List.filter_cons_of_pos (by simp [h])]
      exact congrArg (· ++ _) hstep
    | true =>
      rw [h, if_pos rfl] at hstep
      rw [List.filter_cons_of_neg (by simp [h])]
      exact congrArg (· ++ _) hstep

/-- What is read off the entries that both runs show is the same in both, if nothing is read
off those of the panics. -/
theorem filterMap_shownBy_calm_of [UrlParser] {α : Type} {f : Entry → Option α}
    (hf : ∀ step ∈ steps, step.task.isSoothed soothed = true →
      step.outcome.journal.filterMap f = []) :
    (shownBy (steps.map (·.calm soothed))).filterMap f = (shownBy steps).filterMap f := by
  rw [shownBy_calm]
  induction steps with
  | nil => rfl
  | cons step rest ih =>
    obtain ⟨hstep, hrest⟩ := List.forall_mem_cons.1 hf
    cases h : step.task.isSoothed soothed with
    | false =>
      rw [List.filter_cons_of_pos (by simp [h]), shownBy_cons, List.filterMap_append, ih hrest,
        ← List.filterMap_append, ← shownBy_cons]
    | true =>
      rw [List.filter_cons_of_neg (by simp [h]), ih hrest, shownBy_cons, List.filterMap_append,
        hstep h, List.nil_append]

end

end Ssdp
