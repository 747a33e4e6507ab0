import Ssdp.Proofs.ControlPoint.Agenda
import Ssdp.Proofs.ControlPoint.Wiring

/-!
# Code that does not call back

Code that is called with a message or an event may write notes, read datagrams,
subscribe, unsubscribe, build locators and panic without doing anything that
calls other code. Where all code keeps to that, everything the program asks for
comes to an end, and no locator is operated while its owner is at work.

* `Script.Quiet`: scripts that call nothing, and those of a program that has only
  such code called;
* `Quiet.perform`: quiet tasks leave quiet tasks, in a quiet control point;
* `Run.Quiet.comes_to_rest`: an agenda of quiet tasks comes to its end;
* `Run.Quiet.withoutCallback`: no owner calls its locator back.
-/

namespace Ssdp

variable {ν : Type}

/-- Scripts that neither dispatch nor operate a locator, unless they are free to,
and that hand over only such code as is not free to. -/
def Script.Quiet (free : Bool) : Script ν → Prop
  | .done | .panic _ => True
  | .note _ next => ∀ notes, (next notes).Quiet free
  | .read _ next => ∀ result, (next result).Quiet free
  | .subscribe _ handler next =>
    (∀ e, (handler e).Quiet false) ∧ ∀ hid, (next hid).Quiet free
  | .unsubscribe _ _ next => ∀ removed, (next removed).Quiet free
  | .countHandlers _ next => ∀ n, (next n).Quiet free
  | .dispatch _ next => free = true ∧ ∀ n, (next n).Quiet free
  | .build _ owner next =>
    (∀ event, (owner event).Quiet false) ∧ ∀ result, (next result).Quiet free
  | .operate _ _ next => free = true ∧ next.Quiet free
  | .look _ next => ∀ l, (next l).Quiet free

/-- Subscribers whose code calls nothing. -/
def Subscriber.Quiet : Subscriber ν → Prop
  | .code handler => ∀ e, (handler e).Quiet false
  | _ => True

/-- Whether the script of a caller is free to call other code: that of the program
alone. -/
def Caller.isFree : Caller → Bool
  | program => true
  | _ => false

/-- Tasks that call no code but such as calls nothing. -/
def Task.Quiet : Task ν → Prop
  | .script caller body => body.Quiet caller.isFree
  | .invoke s _ => s.handler.Quiet
  | _ => True

/-- All code that is subscribed or owns a locator calls nothing. -/
structure ControlPoint.Quiet (c : ControlPoint ν) : Prop where
  wired : Wired c.router c.kept
  handlers : ∀ key s, s ∈ c.router.subscriptions key → s.handler.Quiet
  owners : ∀ (id : LocatorId) s, c.slots[id]? = some s → ∀ event, (s.owner event).Quiet false

/-! ## Quiet steps -/

variable [UrlParser]

namespace ControlPoint.Quiet

variable {c : ControlPoint ν} {task : Task ν}

/-- A quiet task hands over only code that calls nothing. -/
theorem perform (h : c.Quiet) (ht : task.Quiet) : (c.perform task).state.Quiet := by
  refine ⟨h.wired.rewire (c.rewires_perform task), ?_, ?_⟩
  · refine h.wired.forall_subscriptions_perform (P := fun _ handler => handler.Quiet)
      (fun _ => trivial) (fun _ => trivial) ?_ h.handlers
    rintro caller key handler next rfl
    exact ht.1
  · refine forall_owners_perform (P := fun owner => ∀ event, (owner event).Quiet false) ?_ h.owners
    rintro caller config owner next rfl
    exact ht.1

omit [UrlParser] in
theorem dispatchTasks (h : c.Quiet) (e : Received) : ∀ t ∈ c.dispatchTasks e, t.Quiet := by
  intro t ht
  obtain ⟨s, hs, rfl⟩ := List.mem_map.1 ht
  exact h.handlers _ s hs

omit [UrlParser] in
theorem todo_performScript (h : c.Quiet) {caller : Caller} {body : Script ν}
    (hb : body.Quiet caller.isFree) : ∀ t ∈ (c.performScript caller body).todo, t.Quiet := by
  cases body with
  | done => exact fun t ht => nomatch ht
  | panic reason => exact fun t ht => nomatch ht
  | note change next => exact List.forall_mem_singleton.2 (hb _)
  | read datagram next =>
    simp only [performScript]
    split <;> exact List.forall_mem_singleton.2 (hb _)
  | subscribe key handler next => exact List.forall_mem_singleton.2 (hb.2 _)
  | unsubscribe key hid next => exact List.forall_mem_singleton.2 (hb _)
  | countHandlers key next => exact List.forall_mem_singleton.2 (hb _)
  | dispatch e next =>
    refine List.forall_mem_append.2 ⟨h.dispatchTasks e, ?_⟩
    exact List.forall_mem_singleton.2 (hb.2 _)
  | build config owner next => exact List.forall_mem_singleton.2 (hb.2 _)
  | operate id op next =>
    exact List.forall_mem_cons.2 ⟨trivial, List.forall_mem_singleton.2 hb.2⟩
  | look id next => exact List.forall_mem_singleton.2 (hb _)

omit [UrlParser] in
theorem todo_of_leaves (h : c.Quiet) (ht : task.Quiet) {todo : List (Task ν)}
    (hl : Leaves c task todo) (hscript : ∀ caller body, task ≠ .script caller body) :
    ∀ t ∈ todo, t.Quiet := by
  cases hl with
  | nothing => exact fun t ht => nomatch ht
  | goOn caller body body' => exact (hscript _ _ rfl).elim
  | dispatch caller e next n => exact (hscript _ _ rfl).elim
  | operate caller id op next => exact (hscript _ _ rfl).elim
  | deliver e => exact h.dispatchTasks e
  | code hid handler e => exact List.forall_mem_singleton.2 (ht e)
  | farewell id op ds => exact List.forall_mem_map.2 fun d _ => trivial
  | sweep id ds =>
    refine List.forall_mem_append.2 ⟨List.forall_mem_map.2 fun d _ => trivial, ?_⟩
    exact List.forall_mem_singleton.2 trivial
  | emit id event s hs hd => exact List.forall_mem_singleton.2 (h.owners id s hs event)
  | broadcast id replies record =>
    refine List.forall_mem_append.2 ⟨List.forall_mem_map.2 fun reply _ => trivial, ?_⟩
    exact List.forall_mem_singleton.2 trivial
  | _ => exact List.forall_mem_singleton.2 trivial

/-- A quiet task leaves quiet tasks. -/
theorem todo_perform (h : c.Quiet) (ht : task.Quiet) : ∀ t ∈ (c.perform task).todo, t.Quiet := by
  cases task with
  | script caller body => exact h.todo_performScript ht
  | _ => exact h.todo_of_leaves ht (leaves_perform c _) fun caller body h => nomatch h

end ControlPoint.Quiet

/-! ## Coming to rest -/

namespace ControlPoint

/-- A run goes on where a shorter one got to. -/
theorem run_add (c : ControlPoint ν) (m n : Nat) (agenda : List (Task ν)) :
    c.run (m + n) agenda =
      let r := c.run m agenda
      let r' := r.state.run n r.agenda
      { r' with journal := r.journal ++ r'.journal } := by
  induction m generalizing c agenda with
  | zero => simp
  | succ m ih =>
    cases agenda with
    | nil => simp
    | cons task rest =>
      rw [Nat.succ_add]
      simp only [run_succ, ih, List.append_assoc]

end ControlPoint

/-- Wherever all is quiet, a task and all that it leads to come to an end. -/
def Task.Passes (task : Task ν) : Prop :=
  ∀ c : ControlPoint ν, c.Quiet → ∀ rest, ∃ n,
    (c.run n (task :: rest)).agenda = rest ∧ (c.run n (task :: rest)).state.Quiet

namespace Task.Passes

/-- Tasks that come to an end do so one after the other. -/
theorem all {todo : List (Task ν)} (h : ∀ task ∈ todo, task.Passes) {c : ControlPoint ν}
    (hc : c.Quiet) (rest : List (Task ν)) :
    ∃ n, (c.run n (todo ++ rest)).agenda = rest ∧ (c.run n (todo ++ rest)).state.Quiet := by
  induction todo generalizing c with
  | nil => exact ⟨0, by simp, by simpa using hc⟩
  | cons task others ih =>
    obtain ⟨htask, hothers⟩ := List.forall_mem_cons.1 h
    obtain ⟨m, hm, hcm⟩ := htask c hc (others ++ rest)
    obtain ⟨n, hn, hcn⟩ := ih hothers hcm
    refine ⟨m + n, ?_⟩
    rw [List.cons_append, ControlPoint.run_add]
    simp only [hm]
    exact ⟨hn, hcn⟩

/-- A task comes to an end if all that it leaves does. -/
theorem of_todo {task : Task ν} (ht : task.Quiet)
    (h : ∀ c : ControlPoint ν, c.Quiet → ∀ t ∈ (c.perform task).todo, t.Passes) :
    task.Passes := by
  intro c hc rest
  obtain ⟨n, hn, hcn⟩ := all (h c hc) (hc.perform ht) rest
  refine ⟨n + 1, ?_⟩
  rw [ControlPoint.run_succ]
  exact ⟨hn, hcn⟩

theorem of_leaves {task : Task ν} (ht : task.Quiet)
    (h : ∀ (c : ControlPoint ν) (todo : List (Task ν)), c.Quiet → (∀ t ∈ todo, t.Quiet) →
      Leaves c task todo → ∀ t ∈ todo, t.Passes) : task.Passes :=
  .of_todo ht fun c hc => h c _ hc (hc.todo_perform ht) (leaves_perform c task)

theorem log (record : LogRecord) : (Task.log record : Task ν).Passes := by
  refine .of_leaves trivial fun c todo _ _ hl => ?_
  cases hl
  exact fun t ht => nomatch ht

/-- A script comes to an end if what it is free to call does. -/
theorem script {caller : Caller} {body : Script ν} (hb : body.Quiet caller.isFree)
    (hinvoke : caller.isFree = true → ∀ s e, s.handler.Quiet → (Task.invoke s e : Task ν).Passes)
    (hoperate : caller.isFree = true → ∀ id op, (Task.operate id op : Task ν).Passes) :
    (Task.script caller body).Passes := by
  induction body with
  | done => exact .of_todo trivial fun c _ t ht => nomatch ht
  | panic reason => exact .of_todo trivial fun c _ t ht => nomatch ht
  | note change next ih =>
    exact .of_todo hb fun c _ => List.forall_mem_singleton.2 (ih _ (hb _))
  | read datagram next ih =>
    refine .of_todo hb fun c _ => ?_
    simp only [ControlPoint.perform, ControlPoint.performScript]
    split <;> exact List.forall_mem_singleton.2 (ih _ (hb _))
  | subscribe key handler next ihHandler ih =>
    exact .of_todo hb fun c _ => List.forall_mem_singleton.2 (ih _ (hb.2 _))
  | unsubscribe key hid next ih =>
    exact .of_todo hb fun c _ => List.forall_mem_singleton.2 (ih _ (hb _))
  | countHandlers key next ih =>
    exact .of_todo hb fun c _ => List.forall_mem_singleton.2 (ih _ (hb _))
  | dispatch e next ih =>
    refine .of_todo hb fun c hc => List.forall_mem_append.2 ⟨?_, ?_⟩
    · refine List.forall_mem_map.2 fun s hs => hinvoke hb.1 s e ?_
      exact hc.handlers _ s hs
    · exact List.forall_mem_singleton.2 (ih _ (hb.2 _))
  | build config owner next ihOwner ih =>
    exact .of_todo hb fun c _ => List.forall_mem_singleton.2 (ih _ (hb.2 _))
  | operate id op next ih =>
    refine .of_todo hb fun c _ => List.forall_mem_cons.2 ⟨hoperate hb.1 id op, ?_⟩
    exact List.forall_mem_singleton.2 (ih hb.2)
  | look id next ih =>
    exact .of_todo hb fun c _ => List.forall_mem_singleton.2 (ih _ (hb _))

theorem emit (id : LocatorId) (event : Event) : (Task.emit id event : Task ν).Passes := by
  refine .of_leaves trivial fun c todo hc _ hl => ?_
  cases hl with
  | nothing => exact fun t ht => nomatch ht
  | emit _ _ s hs hd =>
    refine List.forall_mem_singleton.2 (script (hc.owners id s hs event) ?_ ?_)
    · exact fun hfree => nomatch hfree
    · exact fun hfree => nomatch hfree

theorem lose (id : LocatorId) (cause : LossCause) (d : Device) :
    (Task.lose id cause d : Task ν).Passes := by
  refine .of_leaves trivial fun c todo _ _ hl => ?_
  cases hl with
  | nothing => exact fun t ht => nomatch ht
  | lose => exact List.forall_mem_singleton.2 (emit id _)

/-- An operation comes to an end if the search that it may ask for does. -/
theorem operate_of_search {id : LocatorId} {op : Operation}
    (h : op = .searchNow ∨ op = .tick → (Task.search id : Task ν).Passes) :
    (Task.operate id op : Task ν).Passes := by
  refine .of_leaves trivial fun c todo _ _ hl => ?_
  cases hl with
  | nothing => exact fun t ht => nomatch ht
  | search _ _ l hl hd hop => exact List.forall_mem_singleton.2 (h hop)
  | refresh _ _ event => exact List.forall_mem_singleton.2 (emit id event)
  | farewell _ _ ds => exact List.forall_mem_map.2 fun d _ => lose id .left d

theorem invoke {s : Subscription (Subscriber ν)} (e : Received) (hs : s.handler.Quiet) :
    (Task.invoke s e).Passes := by
  refine .of_leaves hs fun c todo _ htodo hl => ?_
  cases hl with
  | nothing => exact fun t ht => nomatch ht
  | answers hid id => exact List.forall_mem_singleton.2 (operate_of_search (by simp))
  | announcements hid id => exact List.forall_mem_singleton.2 (operate_of_search (by simp))
  | code hid handler =>
    refine List.forall_mem_singleton.2 (script (hs e) ?_ ?_)
    · exact fun hfree => nomatch hfree
    · exact fun hfree => nomatch hfree

theorem deliver (e : Received) : (Task.deliver e : Task ν).Passes := by
  refine .of_leaves trivial fun c todo hc _ hl => ?_
  cases hl with
  | nothing => exact fun t ht => nomatch ht
  | deliver => exact List.forall_mem_map.2 fun s hs => invoke e (hc.handlers _ s hs)

theorem take (reply : Reply) : (Task.take reply : Task ν).Passes := by
  refine .of_leaves trivial fun c todo _ _ hl => ?_
  cases hl with
  | nothing => exact fun t ht => nomatch ht
  | take _ e => exact List.forall_mem_singleton.2 (deliver e)

theorem broadcast (id : LocatorId) : (Task.broadcast id : Task ν).Passes := by
  refine .of_leaves trivial fun c todo _ _ hl => ?_
  cases hl with
  | nothing => exact fun t ht => nomatch ht
  | broadcast _ replies record =>
    refine List.forall_mem_append.2 ⟨List.forall_mem_map.2 fun reply _ => take reply, ?_⟩
    exact List.forall_mem_singleton.2 (log record)

theorem search (id : LocatorId) : (Task.search id : Task ν).Passes := by
  refine .of_leaves trivial fun c todo _ _ hl => ?_
  cases hl with
  | nothing => exact fun t ht => nomatch ht
  | sweep _ ds =>
    refine List.forall_mem_append.2 ⟨List.forall_mem_map.2 fun d _ => lose id .expired d, ?_⟩
    exact List.forall_mem_singleton.2 (broadcast id)

theorem operate (id : LocatorId) (op : Operation) : (Task.operate id op : Task ν).Passes :=
  operate_of_search fun _ => search id

/-- Every quiet task comes to an end. -/
theorem of_quiet {task : Task ν} (h : task.Quiet) : task.Passes := by
  cases task with
  | script caller body => exact script h (fun _ s e hs => invoke e hs) fun _ id op => operate id op
  | deliver e => exact deliver e
  | take reply => exact take reply
  | invoke s e => exact invoke e h
  | operate id op => exact operate id op
  | search id => exact search id
  | lose id cause d => exact lose id cause d
  | emit id event => exact emit id event
  | broadcast id => exact broadcast id
  | log record => exact log record

end Task.Passes

/-! ## Quiet programs -/

/-- All that the program does is quiet. -/
def Run.QuietProgram (r : Run ν) : Prop :=
  ∀ body, .script .program body ∈ r.agenda → body.Quiet true

/-- Everything at hand is quiet, and only scripts of the program are put off. -/
structure Run.Quiet (r : Run ν) : Prop where
  state : r.state.Quiet
  agenda : ∀ task ∈ r.agenda, task.Quiet
  tail : ∀ caller body, .script caller body ∈ r.agenda.tail → caller = .program

omit [UrlParser] in
theorem Caller.eq_program_of_isFree {caller : Caller} (h : caller.isFree = true) :
    caller = .program := by
  cases caller with
  | program => rfl
  | _ => cases h

omit [UrlParser] in
/-- A quiet task puts off no script but one of the program. -/
theorem Leaves.script_tail {c : ControlPoint ν} {task : Task ν} {todo : List (Task ν)}
    (h : Leaves c task todo) (ht : task.Quiet) {caller : Caller} {body : Script ν}
    (hm : .script caller body ∈ todo.tail) : caller = .program := by
  cases h with
  | dispatch caller' e next n =>
    have hmem := List.mem_of_mem_tail hm
    simp only [ControlPoint.dispatchTasks, List.mem_append, List.mem_map,
      List.mem_singleton] at hmem
    rcases hmem with ⟨s, -, hs⟩ | hscript
    · cases hs
    · cases hscript
      exact Caller.eq_program_of_isFree ht.1
  | operate caller' id op next =>
    obtain ⟨rfl, -⟩ := Task.script.inj (List.mem_singleton.1 hm)
    exact Caller.eq_program_of_isFree ht.1
  | deliver e => simpa [ControlPoint.dispatchTasks] using List.mem_of_mem_tail hm
  | farewell id op ds => simpa using List.mem_of_mem_tail hm
  | sweep id ds => simpa using List.mem_of_mem_tail hm
  | broadcast id replies record => simpa using List.mem_of_mem_tail hm
  | _ => exact (List.not_mem_nil hm).elim

namespace Run.Quiet

variable {id : LocatorId} {r : Run ν}

theorem perform {c : ControlPoint ν} {shown : List Entry} {task : Task ν} {rest : List (Task ν)}
    (h : Run.Quiet ⟨c, shown, task :: rest⟩) :
    Run.Quiet ⟨(c.perform task).state, shown ++ (c.perform task).journal,
      (c.perform task).todo ++ rest⟩ := by
  obtain ⟨htask, hrest⟩ := List.forall_mem_cons.1 h.agenda
  refine ⟨h.state.perform htask, ?_, fun caller body hm => ?_⟩
  · exact List.forall_mem_append.2 ⟨h.state.todo_perform htask, hrest⟩
  · have hleaves := leaves_perform c task
    revert hm hleaves
    cases (c.perform task).todo with
    | nil => exact fun hm _ => h.tail caller body (List.mem_of_mem_tail hm)
    | cons first others =>
      intro hm hleaves
      rcases List.mem_append.1 hm with hm | hm
      · exact hleaves.script_tail htask hm
      · exact h.tail caller body hm

theorem move {r' : Run ν} (h : r.Quiet) (hm : Move r r') (hprogram : r'.QuietProgram) :
    r'.Quiet := by
  cases hm with
  | perform c shown task rest => exact h.perform
  | turn c shown agenda clock link =>
    exact ⟨⟨h.state.wired, h.state.handlers, h.state.owners⟩, h.agenda, h.tail⟩
  | ask c shown hreq =>
    refine ⟨h.state, List.forall_mem_singleton.2 ?_, fun caller body hm => nomatch hm⟩
    cases hreq with
    | deliver e => trivial
    | operate id op => trivial
    | script body => exact hprogram body List.mem_cons_self

omit [UrlParser] in
/-- Quiet owners do not call their locators back. -/
theorem withoutCallback (h : r.Quiet) (id : LocatorId) : r.WithoutCallback id := by
  intro task rest hagenda _ body hm
  have htail := h.tail (.owner id) body
  rw [hagenda] at htail
  cases htail hm

/-- Whatever is asked for in quiet comes to an end. -/
theorem comes_to_rest (h : r.Quiet) : ∃ n, (r.after n).agenda = [] := by
  have hpasses : ∀ task ∈ r.agenda, task.Passes := fun task ht => .of_quiet (h.agenda task ht)
  obtain ⟨n, hn, -⟩ := Task.Passes.all hpasses h.state []
  rw [List.append_nil] at hn
  exact ⟨n, hn⟩

end Run.Quiet

theorem Reached.quiet {r : Run ν} (h : Reached Run.QuietProgram r) (hr : r.QuietProgram) :
    r.Quiet := by
  induction h with
  | fresh notes clock link attempts =>
    have hfresh : Reached Run.QuietProgram _ := .fresh notes clock link attempts
    refine ⟨⟨hfresh.wired, fun key s hs => (List.not_mem_nil hs).elim, fun id s hs => ?_⟩,
      fun task ht => (List.not_mem_nil ht).elim, fun caller body hm => (List.not_mem_nil hm).elim⟩
    rw [List.getElem?_nil] at hs
    cases hs
  | move _ hok hm ih => exact (ih hok).move hm hr

end Ssdp
