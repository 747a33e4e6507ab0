import Ssdp.Proofs.ControlPoint.Dispatch
import Ssdp.Proofs.ControlPoint.Quiet

/-!
# Reports to an owner

Once a locator has been operated, all that is left is to report the events to its owner.
An owner that calls nothing leaves every locator as it is, and is told of each event once,
in the order in which they were pending, whatever else it does.

* `Task.ReportsTo`: reports to the owner of a locator, and scripts that call nothing;
* `Traced.reporting`: while they are worked off, no locator changes;
* `Traced.events_reporting`: the owner is told of what was pending, and no other owner of
  anything;
* `exists_run_reporting`: they come to an end;
* `Traced.reported`: what a message comes to, once all of it is reported.
-/

namespace Ssdp

variable {ν : Type}

/-- Reports to the owner of the locator in a place, records, and scripts that call
nothing. -/
def Task.ReportsTo (id : LocatorId) : Task ν → Prop
  | .lose id' _ _ | .emit id' _ => id' = id
  | .script _ body => body.Quiet false
  | .log _ => True
  | _ => False

/-- Every locator of the first state is in its place in the second, as it was. -/
def ControlPoint.Keeps (c c' : ControlPoint ν) : Prop :=
  ∀ (id : LocatorId) s, c.slots[id]? = some s → c'.slots[id]? = some s

theorem ControlPoint.Keeps.trans {c c' c'' : ControlPoint ν} (h : c.Keeps c') (h' : c'.Keeps c'') :
    c.Keeps c'' :=
  fun id s hs => h' id s (h id s hs)

variable [UrlParser]

section

variable {id : LocatorId} {c : ControlPoint ν} {s : Slot ν} {task : Task ν}

omit [UrlParser] in
theorem Task.ReportsTo.changes (h : task.ReportsTo id) (id' : LocatorId) :
    task.changes id' = false := by
  cases task with
  | operate id' op => exact h.elim
  | search id' => exact h.elim
  | _ => rfl

omit [UrlParser] in
theorem Task.ReportsTo.pending (h : task.ReportsTo id) {id' : LocatorId} (hne : id' ≠ id) :
    task.pending id' = [] := by
  cases task with
  | lose place cause d =>
    obtain rfl : place = id := h
    exact if_neg hne.symm
  | emit place event =>
    obtain rfl : place = id := h
    exact if_neg hne.symm
  | _ => rfl

/-- A task that changes no locator keeps them all. -/
theorem ControlPoint.keeps_perform (h : ∀ id, task.changes id = false) (c : ControlPoint ν) :
    c.Keeps (c.perform task).state := by
  intro id s hs
  rw [slots_perform hs, Locator.undergo_of_not_changes (h id)]

omit [UrlParser] in
/-- Of a script that calls nothing such a script is left, or nothing. -/
theorem Script.Quiet.todo {body : Script ν} (hb : body.Quiet false) (c : ControlPoint ν)
    (caller : Caller) :
    (c.performScript caller body).todo = [] ∨
      ∃ body', (c.performScript caller body).todo = [.script caller body'] ∧
        body'.Quiet false := by
  cases body with
  | done => exact .inl rfl
  | panic reason => exact .inl rfl
  | note change next => exact .inr ⟨_, rfl, hb _⟩
  | read datagram next =>
    simp only [ControlPoint.performScript]
    split <;> exact .inr ⟨_, rfl, hb _⟩
  | subscribe key handler next => exact .inr ⟨_, rfl, hb.2 _⟩
  | unsubscribe key hid next => exact .inr ⟨_, rfl, hb _⟩
  | countHandlers key next => exact .inr ⟨_, rfl, hb _⟩
  | build config owner next => exact .inr ⟨_, rfl, hb.2 _⟩
  | look id next => exact .inr ⟨_, rfl, hb _⟩
  | dispatch e next => cases hb.1
  | operate id op next => cases hb.1

/-- Reports leave reports, and what an owner does that calls nothing. -/
theorem Task.ReportsTo.todo (h : task.ReportsTo id) (hs : c.slots[id]? = some s)
    (howner : ∀ event, (s.owner event).Quiet false) :
    ∀ t ∈ (c.perform task).todo, t.ReportsTo id := by
  cases task with
  | script caller body =>
    have hb : body.Quiet false := h
    obtain hnil | ⟨body', htodo, hb'⟩ := hb.todo c caller
    · rw [ControlPoint.perform, Caller.todo_catching, hnil]
      exact List.forall_mem_nil _
    · rw [ControlPoint.perform, Caller.todo_catching, htodo]
      exact List.forall_mem_singleton.2 hb'
  | lose id' cause d => exact List.forall_mem_singleton.2 h
  | emit id' event =>
    obtain rfl : id' = id := h
    simp only [ControlPoint.perform, hs]
    split
    · exact List.forall_mem_nil _
    · exact List.forall_mem_singleton.2 (howner event)
  | log record => exact List.forall_mem_nil _
  | _ => exact h.elim

end

/-! ## Until all is reported -/

section

variable {id : LocatorId} {c₀ c : ControlPoint ν} {s : Slot ν} {tasks left : List (Task ν)}
  {steps : List (Step ν)}

/-- While reports are worked off, only such tasks are performed, and no locator changes. -/
theorem Traced.reporting (h : Traced c₀ tasks steps c left) (hs : c₀.slots[id]? = some s)
    (howner : ∀ event, (s.owner event).Quiet false) (ht : ∀ task ∈ tasks, task.ReportsTo id) :
    (∀ step ∈ steps, step.task.ReportsTo id) ∧ (∀ task ∈ left, task.ReportsTo id) ∧
      c₀.Keeps c := by
  induction h with
  | start => exact ⟨List.forall_mem_nil _, ht, fun _ _ hslot => hslot⟩
  | @perform steps c task rest _ ih =>
    obtain ⟨hsteps, hleft, hkeeps⟩ := ih
    obtain ⟨htask, hrest⟩ := List.forall_mem_cons.1 hleft
    refine ⟨?_, ?_, hkeeps.trans (c.keeps_perform htask.changes)⟩
    · exact List.forall_mem_append.2 ⟨hsteps, List.forall_mem_singleton.2 htask⟩
    · exact List.forall_mem_append.2 ⟨htask.todo (hkeeps id s hs) howner, hrest⟩
  | turn clock link _ ih => exact ih

/-- What is pending is shown, each event once and in order; no other owner is told of
anything. -/
theorem Traced.events_reporting (h : Traced c₀ tasks steps c left)
    (hs : c₀.slots[id]? = some s) (hd : s.locator.disposed = false)
    (howner : ∀ event, (s.owner event).Quiet false) (ht : ∀ task ∈ tasks, task.ReportsTo id) :
    eventsOf id (shownBy steps) ++ pendingEvents id left = pendingEvents id tasks ∧
      ∀ id', id' ≠ id → eventsOf id' (shownBy steps) = [] := by
  induction h with
  | start => exact ⟨rfl, fun _ _ => rfl⟩
  | @perform steps c task rest hbefore ih =>
    obtain ⟨hevents, hothers⟩ := ih
    obtain ⟨-, hleft, hkeeps⟩ := hbefore.reporting hs howner ht
    have htask : task.ReportsTo id := hleft task List.mem_cons_self
    have hpending : eventsOf id (c.perform task).journal ++
        pendingEvents id (c.perform task).todo = task.pending id := by
      rw [ControlPoint.events_perform (hkeeps id s hs) fun hdisposed => by simp [hd] at hdisposed,
        Locator.undergo_of_not_changes (htask.changes id), List.append_nil]
    refine ⟨?_, fun id' hne => ?_⟩
    · rw [shownBy_append, shownBy_singleton, eventsOf_append, pendingEvents_append, ← hevents,
        pendingEvents_cons, ← hpending]
      simp only [List.append_assoc]
    · rw [shownBy_append, shownBy_singleton, eventsOf_append, hothers id' hne,
        (shows_perform c task).eventsOf_eq_nil (htask.pending hne)]
      rfl
  | turn clock link _ ih => exact ih

end

/-! ## Coming to an end -/

section

variable {id : LocatorId} {c : ControlPoint ν} {s : Slot ν} {rest : List (Task ν)}

/-- A task is done with once all that it leaves is. -/
theorem exists_run_of_todo {task : Task ν}
    (h : ∃ n, ((c.perform task).state.run n ((c.perform task).todo ++ rest)).agenda = rest) :
    ∃ n, (c.run n (task :: rest)).agenda = rest := by
  obtain ⟨n, hn⟩ := h
  refine ⟨n + 1, ?_⟩
  rw [ControlPoint.run_succ]
  exact hn

/-- A script that calls nothing comes to an end. -/
theorem exists_run_script {caller : Caller} {body : Script ν} (hb : body.Quiet false)
    (c : ControlPoint ν) (rest : List (Task ν)) :
    ∃ n, (c.run n (.script caller body :: rest)).agenda = rest := by
  induction body generalizing c with
  | done => exact exists_run_of_todo ⟨0, by rw [ControlPoint.run_zero]; rfl⟩
  | panic reason => exact exists_run_of_todo ⟨0, by rw [ControlPoint.run_zero]; rfl⟩
  | note change next ih => exact exists_run_of_todo (ih _ (hb _) _)
  | read datagram next ih =>
    refine exists_run_of_todo ?_
    simp only [ControlPoint.perform, ControlPoint.performScript]
    split <;> exact ih _ (hb _) _
  | subscribe key handler next _ ih => exact exists_run_of_todo (ih _ (hb.2 _) _)
  | unsubscribe key hid next ih => exact exists_run_of_todo (ih _ (hb _) _)
  | countHandlers key next ih => exact exists_run_of_todo (ih _ (hb _) _)
  | build config owner next _ ih => exact exists_run_of_todo (ih _ (hb.2 _) _)
  | look id next ih => exact exists_run_of_todo (ih _ (hb _) _)
  | dispatch e next => cases hb.1
  | operate id op next => cases hb.1

/-- A report to an owner that calls nothing comes to an end. -/
theorem exists_run_report {task : Task ν} (ht : task.ReportsTo id) (hs : c.slots[id]? = some s)
    (howner : ∀ event, (s.owner event).Quiet false) (rest : List (Task ν)) :
    ∃ n, (c.run n (task :: rest)).agenda = rest := by
  have told (event : Event) : ∃ n, (c.run n (.emit id event :: rest)).agenda = rest := by
    refine exists_run_of_todo ?_
    simp only [ControlPoint.perform, hs]
    split
    · exact ⟨0, by rw [ControlPoint.run_zero]; rfl⟩
    · exact exists_run_script (howner event) c rest
  cases task with
  | script caller body => exact exists_run_script ht c rest
  | lose id' cause d =>
    obtain rfl : id' = id := ht
    exact exists_run_of_todo (told _)
  | emit id' event =>
    obtain rfl : id' = id := ht
    exact told event
  | log record => exact exists_run_of_todo ⟨0, by rw [ControlPoint.run_zero]; rfl⟩
  | _ => exact ht.elim

/-- Reports to an owner that calls nothing come to an end. -/
theorem exists_run_reporting {tasks : List (Task ν)} (ht : ∀ task ∈ tasks, task.ReportsTo id)
    (hs : c.slots[id]? = some s) (howner : ∀ event, (s.owner event).Quiet false) :
    ∃ n, (c.run n tasks).agenda = [] := by
  induction tasks generalizing c with
  | nil => exact ⟨0, by rw [ControlPoint.run_zero]⟩
  | cons task rest ih =>
    obtain ⟨htask, hrest⟩ := List.forall_mem_cons.1 ht
    obtain ⟨m, hm⟩ := exists_run_report htask hs howner rest
    have hkeeps := ((traced_run c m (task :: rest)).reporting hs howner ht).2.2
    obtain ⟨n, hn⟩ := ih hrest (hkeeps id s hs)
    refine ⟨m + n, ?_⟩
    rw [ControlPoint.run_add]
    simp only [hm]
    exact hn

end

/-! ## Messages -/

/-- The operation is to handle a message. -/
def Operation.Handles (e : Received) (op : Operation) : Prop :=
  op = .answer e ∨ op = .announcement e

section

variable {id : LocatorId} {c c' : ControlPoint ν} {s : Slot ν} {op : Operation} {e : Received}
  {steps : List (Step ν)}

/-- When a message is handled, reports are left. -/
theorem Operation.Handles.todo (h : op.Handles e) (c : ControlPoint ν) (id : LocatorId) :
    ∀ t ∈ (c.perform (.operate id op)).todo, t.ReportsTo id := by
  have hleaves := leaves_perform c (.operate id op)
  revert hleaves
  generalize (c.perform (.operate id op)).todo = todo
  intro hleaves
  cases hleaves with
  | nothing => exact List.forall_mem_nil _
  | search _ _ l hl hd hop => rcases h with rfl | rfl <;> simp at hop
  | refresh _ _ event => exact List.forall_mem_singleton.2 rfl
  | farewell _ _ ds => exact List.forall_mem_map.2 fun d _ => rfl

/-- Handling a message does not dispose of a locator. -/
theorem Operation.Handles.disposed (h : op.Handles e) (l : Locator) (clock : Conditions) :
    (l.react clock op).1.disposed = l.disposed := by
  rcases h with rfl | rfl <;> exact l.disposed_heed _ _

/-- A message that a locator handles does to it what it does to the locator by itself, and
its owner, who calls nothing, is told of all events; nothing else happens to any locator. -/
theorem Traced.reported (hop : op.Handles e) (hs : c.slots[id]? = some s)
    (hd : s.locator.disposed = false) (hdropped : s.locator.dropped = false)
    (howner : ∀ event, (s.owner event).Quiet false)
    (h : Traced (c.perform (.operate id op)).state (c.perform (.operate id op)).todo steps c' []) :
    (∀ step ∈ steps, step.task.ReportsTo id) ∧
      c'.slots[id]? = some { s with locator := (s.locator.react c.clock op).1 } ∧
      eventsOf id ((c.perform (.operate id op)).journal ++ shownBy steps) =
        (s.locator.react c.clock op).2 ∧
      ∀ id', id' ≠ id →
        (∀ s', c.slots[id']? = some s' → c'.slots[id']? = some s') ∧
        eventsOf id' ((c.perform (.operate id op)).journal ++ shownBy steps) = [] := by
  have hundergo : s.locator.undergo id c.clock (.operate id op : Task ν) =
      s.locator.react c.clock op := if_pos ⟨rfl, hdropped⟩
  have hslot := c.slots_perform hs (.operate id op)
  have hevents : eventsOf id (c.perform (.operate id op)).journal ++
      pendingEvents id (c.perform (.operate id op)).todo =
        (s.locator.undergo id c.clock (.operate id op : Task ν)).2 :=
    c.events_perform hs fun _ => rfl
  rw [hundergo] at hslot hevents
  have hactive : (s.locator.react c.clock op).1.disposed = false :=
    (hop.disposed _ _).trans hd
  obtain ⟨hsteps, -, hkeeps⟩ := h.reporting hslot howner (hop.todo c id)
  obtain ⟨htold, hothers⟩ := h.events_reporting hslot hactive howner (hop.todo c id)
  rw [pendingEvents_nil, List.append_nil] at htold
  refine ⟨hsteps, hkeeps id _ hslot, ?_, fun id' hne => ⟨fun s' hs' => ?_, ?_⟩⟩
  · rw [eventsOf_append, htold]
    exact hevents
  · have hidle : (Task.operate id op : Task ν).changes id' = false :=
      decide_eq_false hne.symm
    have hslot' := c.slots_perform hs' (.operate id op)
    rw [Locator.undergo_of_not_changes hidle] at hslot'
    exact hkeeps id' _ hslot'
  · rw [eventsOf_append, hothers id' hne, (shows_perform c _).eventsOf_eq_nil rfl]
    rfl

end

end Ssdp
