import Ssdp.Proofs.ControlPoint.Census
import Ssdp.Proofs.ControlPoint.Quiet
import Ssdp.Proofs.ControlPoint.Trace
import Ssdp.Proofs.Locator.Solo

/-!
# What a task has in store for a locator

Owners that do not call back leave it to the tasks at hand what becomes of a locator: each
task, with all that it leads to, does something to the locator and tells its owner of some
events, and that depends on the locator and the time alone. Other locators do not come into
it, whatever happens to them in between.

* `Script.Mute`, `ControlPoint.Mute`, `Task.Mute`: code that does not call back, and tasks
  that lead to no other code;
* `Task.fate`, `fateOf`: what tasks, with all that they lead to, do to the locator in a
  place, and the events that its owner is told;
* `ControlPoint.Mute.fate_perform`: a step leaves tasks with the same fate for the locator,
  less what it has done itself;
* `Traced.fate`: what is foretold is what comes to pass.
-/

namespace Ssdp

variable {ν : Type}

/-! ## Code that does not call back -/

/-- Scripts that call nothing, operate and build no locator, and take out no number, and
that subscribe only such code. -/
def Script.Mute : Script ν → Prop
  | .done | .panic _ => True
  | .note _ next => ∀ notes, (next notes).Mute
  | .read _ next => ∀ result, (next result).Mute
  | .subscribe _ handler next => (∀ e, (handler e).Mute) ∧ ∀ hid, (next hid).Mute
  | .countHandlers _ next => ∀ n, (next n).Mute
  | .look _ next => ∀ l, (next l).Mute
  | .unsubscribe .. | .dispatch .. | .build .. | .operate .. => False

/-- Subscribers whose code does not call back. -/
def Subscriber.Mute : Subscriber ν → Prop
  | .code handler => ∀ e, (handler e).Mute
  | _ => True

/-- Tasks that lead to no code but such as does not call back, and take no reply. -/
def Task.Mute : Task ν → Prop
  | .script _ body => body.Mute
  | .invoke s _ => s.handler.Mute
  | .take _ => False
  | _ => True

/-- Everything is in order, and all code that is subscribed or owns a locator does not call
back. -/
structure ControlPoint.Mute (c : ControlPoint ν) : Prop where
  inOrder : ∃ log, InOrder log c
  handlers : ∀ key s, s ∈ c.router.subscriptions key → s.handler.Mute
  owners : ∀ (id : LocatorId) s, c.slots[id]? = some s → ∀ event, (s.owner event).Mute

variable [UrlParser]

omit [UrlParser] in
theorem Script.Mute.quiet {body : Script ν} (h : body.Mute) (free : Bool) : body.Quiet free := by
  induction body generalizing free with
  | done => trivial
  | panic reason => trivial
  | note change next ih => exact fun notes => ih notes (h notes) free
  | read datagram next ih => exact fun result => ih result (h result) free
  | subscribe key handler next ihHandler ih =>
    exact ⟨fun e => ihHandler e (h.1 e) false, fun hid => ih hid (h.2 hid) free⟩
  | countHandlers key next ih => exact fun n => ih n (h n) free
  | look id next ih => exact fun l => ih l (h l) free
  | _ => exact h.elim

namespace ControlPoint.Mute

variable {c : ControlPoint ν} {task : Task ν}

theorem fresh (notes : ν) (clock : Conditions) (link : Link) (attempts : Nat) :
    ({ notes, clock, link, attempts } : ControlPoint ν).Mute :=
  ⟨⟨[], .fresh notes clock link attempts⟩, fun _ _ hs => (List.not_mem_nil hs).elim,
    fun id s hs => by simp at hs⟩

omit [UrlParser] in
theorem turn (h : c.Mute) (clock : Conditions) (link : Link) :
    ({ c with clock, link } : ControlPoint ν).Mute := by
  obtain ⟨log, horder⟩ := h.inOrder
  exact ⟨⟨log, horder.wired, horder.distinct, horder.orderly, horder.coherent, horder.sound,
    horder.placed, horder.inUse, horder.foreign, horder.code⟩, h.handlers, h.owners⟩

omit [UrlParser] in
/-- Code that does not call back calls nothing. -/
theorem quiet (h : c.Mute) : c.Quiet := by
  obtain ⟨log, horder⟩ := h.inOrder
  refine ⟨horder.wired, fun key s hs => ?_, fun id s hs event => (h.owners id s hs event).quiet _⟩
  have hmute := h.handlers key s hs
  revert hmute
  cases s.handler with
  | code handler => exact fun hmute e => (hmute e).quiet _
  | _ => exact fun _ => trivial

/-- The code that a step hands over decides whether all code stays such. -/
theorem perform_of_code (h : c.Mute) (hcivil : ∀ log, task.Civil log)
    (hhandler : ∀ caller key handler next, task = .script caller (.subscribe key handler next) →
      ∀ e, (handler e).Mute)
    (howner : ∀ caller config owner next, task = .script caller (.build config owner next) →
      ∀ event, (owner event).Mute) : (c.perform task).state.Mute := by
  obtain ⟨log, horder⟩ := h.inOrder
  refine ⟨⟨_, horder.perform (hcivil log)⟩, ?_, ?_⟩
  · exact horder.wired.forall_subscriptions_perform (P := fun _ handler => handler.Mute)
      (fun _ => trivial) (fun _ => trivial) hhandler h.handlers
  · exact forall_owners_perform (P := fun owner => ∀ event, (owner event).Mute) howner h.owners

theorem perform (h : c.Mute) (ht : task.Mute) : (c.perform task).state.Mute := by
  refine h.perform_of_code (fun log => ?_) ?_ ?_
  · cases task with
    | script caller body =>
      cases body with
      | unsubscribe key id next => exact ht.elim
      | _ => trivial
    | _ => trivial
  · rintro caller key handler next rfl
    exact ht.1
  · rintro caller config owner next rfl
    exact ht.elim

/-- Where no replies come, a search that is sent leaves a record at most. -/
theorem todo_broadcast (hreplies : c.link.replies = []) (id : LocatorId) :
    ∀ t ∈ (c.perform (.broadcast id)).todo, ∃ record, t = .log record := by
  simp only [ControlPoint.perform, withLocator, broadcast, hreplies, List.map_nil, List.nil_append]
  split
  · split
    · exact List.forall_mem_singleton.2 ⟨_, rfl⟩
    · exact List.forall_mem_nil _
  · exact List.forall_mem_nil _

omit [UrlParser] in
theorem todo_performScript (c : ControlPoint ν) {caller : Caller} {body : Script ν}
    (hb : body.Mute) :
    ∀ t ∈ (c.performScript caller body).todo, ∃ body', t = .script caller body' ∧ body'.Mute := by
  cases body with
  | done => exact List.forall_mem_nil _
  | panic reason => exact List.forall_mem_nil _
  | note change next => exact List.forall_mem_singleton.2 ⟨_, rfl, hb _⟩
  | read datagram next =>
    simp only [performScript]
    split <;> exact List.forall_mem_singleton.2 ⟨_, rfl, hb _⟩
  | subscribe key handler next => exact List.forall_mem_singleton.2 ⟨_, rfl, hb.2 _⟩
  | countHandlers key next => exact List.forall_mem_singleton.2 ⟨_, rfl, hb _⟩
  | look id next => exact List.forall_mem_singleton.2 ⟨_, rfl, hb _⟩
  | _ => exact hb.elim

omit [UrlParser] in
theorem todo_of_leaves (h : c.Mute) (ht : task.Mute) {todo : List (Task ν)}
    (hl : Leaves c task todo) (hscript : ∀ caller body, task ≠ .script caller body)
    (hbroadcast : ∀ id, task ≠ .broadcast id) : ∀ t ∈ todo, t.Mute := by
  cases hl with
  | nothing => exact List.forall_mem_nil _
  | goOn caller body body' => exact (hscript _ _ rfl).elim
  | dispatch caller e next n => exact (hscript _ _ rfl).elim
  | operate caller id op next => exact (hscript _ _ rfl).elim
  | broadcast id replies record => exact (hbroadcast _ rfl).elim
  | deliver e => exact List.forall_mem_map.2 fun s hs => h.handlers _ s hs
  | take reply e => exact ht.elim
  | code hid handler e => exact List.forall_mem_singleton.2 (ht e)
  | farewell id op ds => exact List.forall_mem_map.2 fun d _ => trivial
  | sweep id ds =>
    refine List.forall_mem_append.2 ⟨List.forall_mem_map.2 fun d _ => trivial, ?_⟩
    exact List.forall_mem_singleton.2 trivial
  | emit id event s hs hd => exact List.forall_mem_singleton.2 (h.owners id s hs event)
  | _ => exact List.forall_mem_singleton.2 trivial

/-- Where no replies come, such tasks leave such tasks. -/
theorem todo_perform (h : c.Mute) (ht : task.Mute) (hreplies : c.link.replies = []) :
    ∀ t ∈ (c.perform task).todo, t.Mute := by
  cases task with
  | script caller body =>
    intro t htodo
    obtain ⟨body', rfl, hb⟩ := todo_performScript c ht t htodo
    exact hb
  | broadcast id =>
    intro t htodo
    obtain ⟨record, rfl⟩ := todo_broadcast hreplies id t htodo
    trivial
  | _ => exact h.todo_of_leaves ht (leaves_perform c _) (by simp) (by simp)

end ControlPoint.Mute

/-! ## What is foretold -/

/-- What the task and all that it leads to do to the locator in a place, and the events
that its owner is told. -/
def Task.fate (id : LocatorId) (clock : Conditions) (l : Locator) : Task ν → Locator × List Event
  | .deliver e => l.hear clock e
  | .invoke ⟨_, .answers id'⟩ e => if id' = id then l.meet clock (.answer e) else (l, [])
  | .invoke ⟨_, .announcements id'⟩ e =>
    if id' = id then l.meet clock (.announcement e) else (l, [])
  | .operate id' op => if id' = id then l.meet clock op else (l, [])
  | .search id' => if id' = id then l.search clock else (l, [])
  | .lose id' _ d => if id' = id then (l, l.tells [.lost d]) else (l, [])
  | .emit id' event => if id' = id then (l, l.tells [event]) else (l, [])
  | _ => (l, [])

/-- What tasks, one after the other, have in store for the locator in a place. -/
def fateOf (id : LocatorId) (clock : Conditions) (l : Locator) :
    List (Task ν) → Locator × List Event
  | [] => (l, [])
  | task :: rest =>
    let first := task.fate id clock l
    let others := fateOf id clock first.1 rest
    (others.1, first.2 ++ others.2)

/-- Whether the task may have something in store for the locator in a place. -/
def Task.Concerns (id : LocatorId) : Task ν → Prop
  | .deliver _ | .take _ => True
  | .invoke s _ => s.handler.locator? = some id
  | .operate id' _ | .search id' | .lose id' _ _ | .emit id' _ => id' = id
  | .script .. | .broadcast _ | .log _ => False

/-- Whether the task is a report that is on its way to an owner. -/
def Task.Reports : Task ν → Prop
  | .lose .. | .emit .. => True
  | _ => False

section

variable {id : LocatorId} {clock : Conditions} {l : Locator} {task : Task ν} {tasks : List (Task ν)}

omit [UrlParser] in
theorem Task.changes_of_not_concerns (h : ¬ task.Concerns id) : task.changes id = false := by
  cases task <;> simp_all [Task.changes, Task.Concerns]

omit [UrlParser] in
theorem Task.pending_of_not_concerns (h : ¬ task.Concerns id) : task.pending id = [] := by
  cases task <;> simp_all [Task.pending, Task.Concerns]

theorem Task.fate_of_not_concerns (h : ¬ task.Concerns id) : task.fate id clock l = (l, []) := by
  cases task with
  | deliver e => exact absurd trivial h
  | invoke s e =>
    obtain ⟨hid, handler⟩ := s
    cases handler with
    | code handler => rfl
    | answers id' =>
      have hne : id' ≠ id := fun heq => h (congrArg some heq)
      exact if_neg hne
    | announcements id' =>
      have hne : id' ≠ id := fun heq => h (congrArg some heq)
      exact if_neg hne
  | operate id' op => exact if_neg h
  | search id' => exact if_neg h
  | lose id' cause d => exact if_neg h
  | emit id' event => exact if_neg h
  | _ => rfl

theorem fateOf_append (xs ys : List (Task ν)) :
    fateOf id clock l (xs ++ ys) =
      let first := fateOf id clock l xs
      let others := fateOf id clock first.1 ys
      (others.1, first.2 ++ others.2) := by
  induction xs generalizing l with
  | nil => rfl
  | cons task rest ih => simp only [List.cons_append, fateOf, ih, List.append_assoc]

@[simp] theorem fateOf_singleton (task : Task ν) :
    fateOf id clock l [task] = task.fate id clock l := by
  simp [fateOf]

theorem fateOf_of_not_concerns (h : ∀ task ∈ tasks, ¬ task.Concerns id) :
    fateOf id clock l tasks = (l, []) := by
  induction tasks with
  | nil => rfl
  | cons task rest ih =>
    obtain ⟨htask, hrest⟩ := List.forall_mem_cons.1 h
    rw [fateOf, Task.fate_of_not_concerns htask]
    exact ih hrest

/-- Reports change nothing; they tell of what is pending, unless the locator is disposed. -/
theorem fateOf_reports (h : ∀ task ∈ tasks, task.Reports) :
    fateOf id clock l tasks = (l, l.tells (pendingEvents id tasks)) := by
  induction tasks with
  | nil => simp [fateOf, Locator.tells]
  | cons task rest ih =>
    obtain ⟨htask, hrest⟩ := List.forall_mem_cons.1 h
    have hfirst : task.fate id clock l = (l, l.tells (task.pending id)) := by
      cases task with
      | lose id' cause d =>
        by_cases hid : id' = id <;> simp [Task.fate, Task.pending, Locator.tells, hid]
      | emit id' event =>
        by_cases hid : id' = id <;> simp [Task.fate, Task.pending, Locator.tells, hid]
      | _ => exact htask.elim
    rw [fateOf, hfirst, ih hrest, pendingEvents_cons]
    by_cases hd : l.disposed = true <;> simp [Locator.tells, hd]

end

/-! ## One step -/

section

variable {c : ControlPoint ν} {id : LocatorId} {clock : Conditions} {s : Slot ν} {task : Task ν}

/-- Of the handlers of a dispatch only those of a locator have something in store for it. -/
theorem fateOf_invokes (l : Locator) (e : Received) (subs : List (Subscription (Subscriber ν))) :
    fateOf id clock l (subs.map (.invoke · e)) =
      fateOf id clock l ((subs.filter (·.handler.locator? = some id)).map (.invoke · e)) := by
  induction subs generalizing l with
  | nil => rfl
  | cons sub rest ih =>
    by_cases hmine : sub.handler.locator? = some id
    · rw [List.filter_cons_of_pos (by simp [hmine]), List.map_cons, List.map_cons, fateOf, fateOf,
        ih]
    · have hidle : (Task.invoke sub e).fate id clock l = (l, []) :=
        Task.fate_of_not_concerns hmine
      rw [List.filter_cons_of_neg (by simp [hmine]), List.map_cons, fateOf, hidle]
      exact ih l

/-- A locator hears a message that is dispatched once, by the handler that it has under its
key. -/
theorem ControlPoint.Mute.fateOf_dispatchTasks (h : c.Mute) (hs : c.slots[id]? = some s)
    (e : Received) :
    fateOf id clock s.locator (c.dispatchTasks e) = s.locator.hear clock e := by
  obtain ⟨log, horder⟩ := h.inOrder
  have hhandlers := horder.handlers_eq hs e.routeKey
  rw [ControlPoint.dispatchTasks, fateOf_invokes, Locator.hear]
  by_cases hd : s.locator.disposed = true
  · rw [if_pos hd, List.map_eq_nil_iff] at hhandlers
    rw [if_pos hd, hhandlers]
    rfl
  · rw [if_neg hd] at hhandlers ⊢
    by_cases hanswer : e.routeKey = responseStartLine
    · rw [if_pos hanswer, List.map_eq_singleton_iff] at hhandlers
      obtain ⟨⟨hid, handler⟩, hfilter, rfl⟩ := hhandlers
      rw [if_pos hanswer, hfilter, List.map_singleton, fateOf_singleton]
      exact if_pos rfl
    · rw [if_neg hanswer] at hhandlers ⊢
      by_cases hnotify : e.routeKey = notifyKey
      · rw [if_pos hnotify, List.map_eq_singleton_iff] at hhandlers
        obtain ⟨⟨hid, handler⟩, hfilter, rfl⟩ := hhandlers
        rw [if_pos hnotify, hfilter, List.map_singleton, fateOf_singleton]
        exact if_pos rfl
      · rw [if_neg hnotify, List.map_eq_nil_iff] at hhandlers
        rw [if_neg hnotify, hhandlers]
        rfl

/-- A task that does not concern a locator leaves no task that does, where scripts call
nothing and no replies come. -/
theorem not_concerns_todo
    (hscript : ∀ caller body, task = .script caller body →
      ∀ t ∈ (c.performScript caller body).todo, ∃ body', t = .script caller body')
    (hreplies : ∀ id', task = .broadcast id' → c.link.replies = [])
    (hc : ¬ task.Concerns id) : ∀ t ∈ (c.perform task).todo, ¬ t.Concerns id := by
  have hleaves := leaves_perform c task
  cases task with
  | script caller body =>
    intro t htodo
    obtain ⟨body', rfl⟩ := hscript caller body rfl t htodo
    exact not_false
  | broadcast id' =>
    intro t htodo
    obtain ⟨record, rfl⟩ := ControlPoint.Mute.todo_broadcast (hreplies id' rfl) id' t htodo
    exact not_false
  | deliver e => exact absurd trivial hc
  | take reply => exact absurd trivial hc
  | invoke sub e =>
    obtain ⟨hid, handler⟩ := sub
    cases handler with
    | code handler => exact List.forall_mem_singleton.2 not_false
    | _ => exact List.forall_mem_singleton.2 fun heq => hc (congrArg some heq)
  | operate id' op =>
    revert hleaves
    generalize (c.perform (.operate id' op)).todo = todo
    intro hleaves
    cases hleaves with
    | nothing => exact List.forall_mem_nil _
    | farewell id op ds => exact List.forall_mem_map.2 fun d _ => hc
    | _ => exact List.forall_mem_singleton.2 hc
  | search id' =>
    revert hleaves
    generalize (c.perform (.search id')).todo = todo
    intro hleaves
    cases hleaves with
    | nothing => exact List.forall_mem_nil _
    | sweep id ds =>
      exact List.forall_mem_append.2
        ⟨List.forall_mem_map.2 fun d _ => hc, List.forall_mem_singleton.2 not_false⟩
  | lose id' cause d => exact List.forall_mem_singleton.2 hc
  | emit id' event =>
    revert hleaves
    generalize (c.perform (.emit id' event)).todo = todo
    intro hleaves
    cases hleaves with
    | nothing => exact List.forall_mem_nil _
    | emit id event s hs hd => exact List.forall_mem_singleton.2 not_false
  | log record => exact List.forall_mem_nil _

/-- But for searches, an operation leaves reports alone. -/
theorem reports_operate (hs : c.slots[id]? = some s) {op : Operation}
    (hop : ¬ (op = .searchNow ∨ op = .tick)) :
    ∀ t ∈ (c.operate id s.locator op).todo, t.Reports := by
  have hleaves := leaves_operate (ControlPoint.locator?_eq hs) op
  revert hleaves
  generalize (c.operate id s.locator op).todo = todo
  intro hleaves
  cases hleaves with
  | nothing => exact List.forall_mem_nil _
  | search _ _ l hl hd hsearch => exact absurd hsearch hop
  | refresh _ _ event => exact List.forall_mem_singleton.2 trivial
  | farewell _ _ ds => exact List.forall_mem_map.2 fun d _ => trivial

/-- An operation of a locator does to it what the tasks do that it leaves. -/
theorem meet_eq_fateOf (hs : c.slots[id]? = some s) (op : Operation)
    (hstamp : c.clock.stamp = clock.stamp) (horder : c.clock.order = clock.order) :
    s.locator.meet clock op =
      fateOf id clock (s.locator.undergo id c.clock (.operate id op : Task ν)).1
        (c.perform (.operate id op)).todo := by
  simp only [ControlPoint.perform, ControlPoint.withLocator, ControlPoint.locator?_eq hs,
    Locator.undergo, true_and]
  by_cases hdropped : s.locator.dropped = true
  · simp [Locator.meet, hdropped, fateOf]
  · rw [Bool.not_eq_true] at hdropped
    rw [hdropped, if_neg Bool.false_ne_true, if_pos rfl, Locator.react_congr hstamp horder]
    cases op with
    | searchNow =>
      by_cases hd : s.locator.disposed = true <;>
        simp [Locator.meet, hdropped, hd, ControlPoint.operate, Locator.react, fateOf, Task.fate]
    | tick =>
      by_cases hidle : (s.locator.disposed || !s.locator.listening) = true <;>
        simp [Locator.meet, hdropped, hidle, ControlPoint.operate, Locator.react, fateOf, Task.fate]
    | _ =>
      rw [fateOf_reports (reports_operate hs (by simp)), ControlPoint.pendingEvents_operate,
        Locator.react_congr hstamp horder]
      simp only [Locator.meet, hdropped, Bool.false_eq_true, if_false]
      exact Prod.ext rfl (Locator.tells_react _ _ _).symm

/-- A search of a locator does to it what the tasks do that it leaves, the sweep itself
being done. -/
theorem search_eq_fateOf (hs : c.slots[id]? = some s) (hsweep : c.clock.sweep = clock.sweep)
    (horder : c.clock.order = clock.order) : s.locator.search clock =
      fateOf id clock (s.locator.undergo id c.clock (.search id : Task ν)).1
        (c.perform (.search id)).todo := by
  simp only [ControlPoint.perform, ControlPoint.withLocator, ControlPoint.locator?_eq hs,
    ControlPoint.search, Locator.undergo, if_true, Locator.sweep_congr hsweep horder, hsweep,
    horder]
  have hreports : ∀ t ∈ ((clock.order.arrange (s.locator.cache.sweepAt clock.sweep).2).map
      (.lose id .expired · : Device → Task ν)), t.Reports :=
    List.forall_mem_map.2 fun d _ => trivial
  rw [fateOf_append, fateOf_reports hreports, pendingEvents_lose, if_pos rfl]
  simp only [fateOf_singleton, Task.fate, List.append_nil]
  rfl

/-- What a task has in store for a locator is what the step shows of it, and what the tasks
that it leaves have in store for the locator as it is after the step. -/
theorem ControlPoint.Mute.fate_perform (h : c.Mute) (ht : task.Mute)
    (hreplies : c.link.replies = [])
    (hstamp : ∀ op, task = .operate id op → c.clock.stamp = clock.stamp)
    (hsweep : task = .search id → c.clock.sweep = clock.sweep)
    (horder : task.changes id = true → c.clock.order = clock.order)
    (hs : c.slots[id]? = some s) :
    task.fate id clock s.locator =
      let later := fateOf id clock (s.locator.undergo id c.clock task).1 (c.perform task).todo
      (later.1, eventsOf id (c.perform task).journal ++ later.2) := by
  -- What is pending is shown by the step; other tasks only leave something.
  have silent (hp : task.pending id = []) : eventsOf id (c.perform task).journal = [] :=
    (shows_perform c task).eventsOf_eq_nil hp
  by_cases hc : task.Concerns id
  · cases task with
    | deliver e =>
      rw [silent rfl]
      exact (h.fateOf_dispatchTasks hs e).symm
    | invoke sub e =>
      rw [silent rfl]
      obtain ⟨hid, handler⟩ := sub
      cases handler with
      | code handler => cases hc
      | answers id' =>
        obtain rfl := Option.some.inj hc
        exact (fateOf_singleton (.operate id' (.answer e))).symm
      | announcements id' =>
        obtain rfl := Option.some.inj hc
        exact (fateOf_singleton (.operate id' (.announcement e))).symm
    | operate id' op =>
      obtain rfl : id' = id := hc
      rw [silent rfl, ← meet_eq_fateOf hs op (hstamp op rfl) (horder (by simp [Task.changes]))]
      exact if_pos rfl
    | search id' =>
      obtain rfl : id' = id := hc
      rw [silent rfl, ← search_eq_fateOf hs (hsweep rfl) (horder (by simp [Task.changes]))]
      exact if_pos rfl
    | lose id' cause d =>
      obtain rfl : id' = id := hc
      simp [ControlPoint.perform, Task.fate, Locator.undergo, eventsOf, Entry.eventOf?]
    | emit id' event =>
      obtain rfl : id' = id := hc
      by_cases hd : s.locator.disposed = true <;>
        simp [ControlPoint.perform, hs, hd, Task.fate, fateOf, Locator.undergo, Locator.tells,
          eventsOf, Entry.eventOf?]
    | take reply => exact ht.elim
    | _ => exact hc.elim
  · have hscript : ∀ caller body, task = .script caller body →
        ∀ t ∈ (c.performScript caller body).todo, ∃ body', t = .script caller body' := by
      rintro caller body rfl t htodo
      obtain ⟨body', heq, -⟩ := ControlPoint.Mute.todo_performScript c ht t htodo
      exact ⟨body', heq⟩
    rw [Task.fate_of_not_concerns hc,
      Locator.undergo_of_not_changes (Task.changes_of_not_concerns hc),
      silent (Task.pending_of_not_concerns hc),
      fateOf_of_not_concerns (not_concerns_todo hscript (fun _ _ => hreplies) hc)]
    rfl

end

/-! ## Whole runs -/

/-- Such a task builds no locator. -/
theorem slots_perform_none_of_mute {c : ControlPoint ν} {id : LocatorId} {task : Task ν}
    (ht : task.Mute) (hn : c.slots[id]? = none) : (c.perform task).state.slots[id]? = none := by
  rw [Option.eq_none_iff_forall_ne_some]
  intro s' hs'
  obtain ⟨caller, config, owner, next, rfl, -, -⟩ := ControlPoint.slots_perform_none hn hs'
  exact ht

/-- Nothing is told by a locator that is not there. -/
theorem eventsOf_perform_none {c : ControlPoint ν} {id : LocatorId} (hn : c.slots[id]? = none)
    (task : Task ν) : eventsOf id (c.perform task).journal = [] := by
  by_cases hp : task.pending id = []
  · exact (shows_perform c task).eventsOf_eq_nil hp
  · cases task with
    | lose id' cause d => simp [ControlPoint.perform, eventsOf, Entry.eventOf?]
    | emit id' event =>
      have hid : id' = id := Decidable.byContradiction fun hid => hp (by simp [Task.pending, hid])
      simp [ControlPoint.perform, hid, hn, eventsOf]
    | _ => exact absurd rfl hp

/-- A step that operates or sweeps a locator finds the moment as it is given for that
locator: what it reads off the clock, and the order in which it goes through the cache. -/
structure Step.OnTime (time : LocatorId → Conditions) (step : Step ν) : Prop where
  stamp : ∀ id op, step.task = .operate id op → step.state.clock.stamp = (time id).stamp
  sweep : ∀ id, step.task = .search id → step.state.clock.sweep = (time id).sweep
  order : ∀ id, step.task.changes id = true → step.state.clock.order = (time id).order
  replies : step.state.link.replies = []

/-- What the tasks have in store for a locator is what has been shown of it and what the
tasks that are left have in store for it. -/
theorem Traced.fate {time : LocatorId → Conditions} {c₀ c : ControlPoint ν}
    {tasks left : List (Task ν)} {steps : List (Step ν)} (h : Traced c₀ tasks steps c left)
    (hc : c₀.Mute) (ht : ∀ task ∈ tasks, task.Mute) (htime : ∀ step ∈ steps, step.OnTime time) :
    c.Mute ∧ (∀ task ∈ left, task.Mute) ∧
      ∀ id, match c₀.slots[id]? with
        | none => c.slots[id]? = none ∧ eventsOf id (shownBy steps) = []
        | some s => ∃ l, c.slots[id]? = some { s with locator := l } ∧
          fateOf id (time id) s.locator tasks =
            let later := fateOf id (time id) l left
            (later.1, eventsOf id (shownBy steps) ++ later.2) := by
  induction h with
  | start =>
    refine ⟨hc, ht, fun id => ?_⟩
    split
    · rename_i hn
      exact ⟨hn, rfl⟩
    · rename_i s hs
      exact ⟨s.locator, hs, rfl⟩
  | @perform steps c task rest _ ih =>
    obtain ⟨hbefore, hlast⟩ := List.forall_mem_append.1 htime
    have hstep := List.forall_mem_singleton.1 hlast
    obtain ⟨hmute, hleft, hplaces⟩ := ih hbefore
    obtain ⟨htask, hrest⟩ := List.forall_mem_cons.1 hleft
    have htodo := hmute.todo_perform htask hstep.replies
    refine ⟨hmute.perform htask, List.forall_mem_append.2 ⟨htodo, hrest⟩, fun id => ?_⟩
    have hplace := hplaces id
    rw [shownBy_append, shownBy_singleton, eventsOf_append]
    revert hplace
    split
    · rintro ⟨hn, hnil⟩
      exact ⟨slots_perform_none_of_mute htask hn, by rw [hnil, eventsOf_perform_none hn]; rfl⟩
    · rintro ⟨l, hs, hfate⟩
      refine ⟨_, c.slots_perform hs task, hfate.trans ?_⟩
      rw [fateOf, hmute.fate_perform htask hstep.replies (hstep.stamp id) (hstep.sweep id)
        (hstep.order id) hs, fateOf_append]
      simp only [List.append_assoc]
  | turn clock link _ ih =>
    obtain ⟨hmute, hleft, hplaces⟩ := ih htime
    exact ⟨hmute.turn clock link, hleft, hplaces⟩

end Ssdp
