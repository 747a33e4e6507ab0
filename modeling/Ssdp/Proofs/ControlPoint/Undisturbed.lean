import Ssdp.Proofs.ControlPoint.Mute
import Ssdp.Proofs.ControlPoint.Reporting
import Ssdp.Proofs.ControlPoint.Shelter
import Ssdp.Proofs.Locator.Replies

/-!
# A locator that nobody disturbs

While a search is being sent, the replies to it are dispatched to everyone who is subscribed,
and each handler may have code called. Where all that code calls nothing, and leaves the
numbers of a locator alone, the locator handles the replies that are for it, one after the
other, and nothing else happens to it.

* `Undisturbed`: the locator is there, has its two handlers, and is not disturbed;
* `Task.Discreet`: tasks that search for nothing and lead to no code but such as disturbs
  nobody; `Traced.discreet`: they leave such tasks, and the locator undisturbed;
* `heardOf`, `Attends`: the messages that a locator is given to handle, and that they are all
  that happens to it;
* `Traced.attends_takes`: this is so while replies are taken.
-/

namespace Ssdp

variable {ν : Type}

/-! ## What does not disturb -/

/-- A locator that is there and has one handler under each of its keys, and that is not
disturbed: all code that may be called calls nothing and takes none of its numbers out. -/
structure Undisturbed (id : LocatorId) (numbers : List (Text × HandlerId)) (c : ControlPoint ν) :
    Prop where
  quiet : c.Quiet
  spares : c.Spares id numbers
  kept : c.kept id = numbers
  ears : ∀ key, ((c.router.subscriptions key).filter (·.handler.locator? = some id)).map
    (·.handler) = if key = responseStartLine then [.answers id]
      else if key = notifyKey then [.announcements id] else []
  active : ∃ s, c.slots[id]? = some s ∧ s.locator.disposed = false ∧ s.locator.dropped = false

/-- Tasks that search for nothing, and lead to no code but such as calls nothing and takes
none of the numbers of a locator out. -/
def Task.Discreet (id : LocatorId) (numbers : List (Text × HandlerId)) : Task ν → Prop
  | .script caller body => caller.isFree = false ∧ body.Quiet false ∧ body.Spares id numbers
  | .invoke s _ => s.handler.Quiet ∧ s.handler.Spares id numbers
  | .operate _ op => ∃ e, op.Handles e
  | .search _ | .broadcast _ => False
  | .deliver _ | .take _ | .lose .. | .emit .. | .log _ => True

/-- A locator that is not disposed has its handlers, where code is civil. -/
theorem InOrder.undisturbed {log : List (Registration (Received → Script ν))} {c : ControlPoint ν}
    (h : InOrder log c) (hquiet : c.Quiet) {id : LocatorId} {s : Slot ν}
    (hs : c.slots[id]? = some s) (hd : s.locator.disposed = false)
    (hspares : c.Spares id s.locator.subscriptions) :
    Undisturbed id s.locator.subscriptions c := by
  have hdropped : s.locator.dropped = false := by
    refine Bool.eq_false_iff.2 fun hdropped => ?_
    rw [(h.orderly id s hs).disposed hdropped] at hd
    cases hd
  refine ⟨hquiet, hspares, ControlPoint.kept_of_slot hs, fun key => ?_, s, hs, hd, hdropped⟩
  rw [h.handlers_eq hs key, hd, if_neg Bool.false_ne_true]

variable [UrlParser]

omit [UrlParser] in
/-- Code that does not call back leaves every locator alone. -/
theorem Script.Mute.spares {body : Script ν} (h : body.Mute) (id : LocatorId)
    (numbers : List (Text × HandlerId)) : body.Spares id numbers := by
  induction body with
  | done => trivial
  | panic reason => trivial
  | note change next ih => exact fun notes => ih notes (h notes)
  | read datagram next ih => exact fun result => ih result (h result)
  | subscribe key handler next ihHandler ih =>
    exact ⟨fun e => ihHandler e (h.1 e), fun hid => ih hid (h.2 hid)⟩
  | countHandlers key next ih => exact fun n => ih n (h n)
  | look place next ih => exact fun l => ih l (h l)
  | _ => exact h.elim

omit [UrlParser] in
theorem ControlPoint.Mute.spares {c : ControlPoint ν} (h : c.Mute) (id : LocatorId)
    (numbers : List (Text × HandlerId)) : c.Spares id numbers := by
  refine ⟨fun key s hs => ?_, fun place s hs event => (h.owners place s hs event).spares _ _⟩
  have hmute := h.handlers key s hs
  revert hmute
  cases s.handler with
  | code handler => exact fun hmute e => (hmute e).spares _ _
  | _ => exact fun _ => trivial

/-- Only by being disposed of does a locator become disposed or dropped. -/
theorem Locator.active_react (l : Locator) (clock : Conditions) {op : Operation}
    (h : ¬(op = .dispose ∨ op = .drop)) :
    (l.react clock op).1.disposed = l.disposed ∧ (l.react clock op).1.dropped = l.dropped := by
  have heeded (v : Verdict) : (l.heed clock.order v).1.disposed = l.disposed ∧
      (l.heed clock.order v).1.dropped = l.dropped := by
    obtain ⟨cache, heq⟩ := l.exists_heed clock.order v
    rw [heq]
    exact ⟨rfl, rfl⟩
  cases op with
  | start =>
    simp only [react]
    split <;> exact ⟨rfl, rfl⟩
  | answer e => exact heeded _
  | announcement e => exact heeded _
  | dispose => simp at h
  | drop => simp at h
  | _ => exact ⟨rfl, rfl⟩

section

variable {id : LocatorId} {numbers : List (Text × HandlerId)} {c : ControlPoint ν} {task : Task ν}

omit [UrlParser] in
theorem Task.Discreet.quiet (h : task.Discreet id numbers) : task.Quiet := by
  cases task with
  | script caller body =>
    obtain ⟨hfree, hquiet, -⟩ := h
    rw [Task.Quiet, hfree]
    exact hquiet
  | invoke s e => exact h.1
  | _ => trivial

omit [UrlParser] in
theorem Task.Discreet.ne_operate (h : task.Discreet id numbers) {op : Operation}
    (hop : op = .dispose ∨ op = .drop) (id' : LocatorId) : task ≠ .operate id' op := by
  rintro rfl
  obtain ⟨e, rfl | rfl⟩ := h <;> simp at hop

namespace Undisturbed

omit [UrlParser] in
theorem turn (h : Undisturbed id numbers c) (clock : Conditions) (link : Link) :
    Undisturbed id numbers { c with clock, link } :=
  ⟨⟨h.quiet.wired, h.quiet.handlers, h.quiet.owners⟩, ⟨h.spares.handlers, h.spares.owners⟩, h.kept,
    h.ears, h.active⟩

/-- A quiet step leaves a locator undisturbed if it neither disposes of it nor has code of
another kind called. -/
theorem perform_of_quiet (h : Undisturbed id numbers c) (ht : task.Quiet)
    (hscript : ∀ caller body, task = .script caller body → body.Spares id numbers)
    (hstays : ∀ op, op = .dispose ∨ op = .drop → task ≠ .operate id op) :
    Undisturbed id numbers (c.perform task).state := by
  obtain ⟨s, hs, hd, hdropped⟩ := h.active
  obtain ⟨hkept, hown⟩ := h.quiet.wired.own_perform (by simp [hs]) (fun caller key hid next heq =>
    h.kept ▸ (hscript _ _ heq).1) hstays
  refine ⟨h.quiet.perform ht, h.spares.perform_of_scripts h.quiet.wired hscript,
    hkept.trans h.kept, fun key => by rw [hown, h.ears], _, c.slots_perform hs task, ?_⟩
  cases task with
  | operate id' op =>
    simp only [Locator.undergo]
    split
    · rename_i hid
      obtain ⟨hd', hdropped'⟩ := s.locator.active_react c.clock
        fun hop => hstays op hop (by rw [hid.1])
      exact ⟨hd'.trans hd, hdropped'.trans hdropped⟩
    · exact ⟨hd, hdropped⟩
  | search id' =>
    simp only [Locator.undergo]
    split <;> exact ⟨hd, hdropped⟩
  | _ => exact ⟨hd, hdropped⟩

theorem perform (h : Undisturbed id numbers c) (ht : task.Discreet id numbers) :
    Undisturbed id numbers (c.perform task).state := by
  refine h.perform_of_quiet ht.quiet ?_ fun op hop => ht.ne_operate hop id
  rintro caller body rfl
  exact ht.2.2

/-- Neither does a search disturb a locator, nor the sending of it. -/
theorem perform_search (h : Undisturbed id numbers c)
    (ht : task = .search id ∨ task = .broadcast id) :
    Undisturbed id numbers (c.perform task).state := by
  obtain rfl | rfl := ht
  · exact h.perform_of_quiet trivial nofun fun op hop => nofun
  · exact h.perform_of_quiet trivial nofun fun op hop => nofun

omit [UrlParser] in
/-- A script that calls nothing leaves itself at most. -/
theorem todo_performScript {caller : Caller} {body : Script ν}
    (hb : (Task.script caller body).Discreet id numbers) (c : ControlPoint ν) :
    ∀ t ∈ (c.performScript caller body).todo,
      ∃ body', t = .script caller body' ∧ t.Discreet id numbers := by
  obtain ⟨hfree, hquiet, hspares⟩ := hb
  cases body with
  | done => exact List.forall_mem_nil _
  | panic reason => exact List.forall_mem_nil _
  | note change next =>
    exact List.forall_mem_singleton.2 ⟨_, rfl, hfree, hquiet _, hspares _⟩
  | read datagram next =>
    simp only [ControlPoint.performScript]
    split <;> exact List.forall_mem_singleton.2 ⟨_, rfl, hfree, hquiet _, hspares _⟩
  | subscribe key handler next =>
    exact List.forall_mem_singleton.2 ⟨_, rfl, hfree, hquiet.2 _, hspares.2 _⟩
  | unsubscribe key hid next =>
    exact List.forall_mem_singleton.2 ⟨_, rfl, hfree, hquiet _, hspares.2 _⟩
  | countHandlers key next =>
    exact List.forall_mem_singleton.2 ⟨_, rfl, hfree, hquiet _, hspares _⟩
  | build config owner next =>
    exact List.forall_mem_singleton.2 ⟨_, rfl, hfree, hquiet.2 _, hspares.2 _⟩
  | look place next =>
    exact List.forall_mem_singleton.2 ⟨_, rfl, hfree, hquiet _, hspares _⟩
  | dispatch e next => cases hquiet.1
  | operate place op next => cases hquiet.1

omit [UrlParser] in
theorem todo_of_leaves (h : Undisturbed id numbers c) (ht : task.Discreet id numbers)
    {todo : List (Task ν)} (hl : Leaves c task todo)
    (hscript : ∀ caller body, task ≠ .script caller body) :
    ∀ t ∈ todo, t.Discreet id numbers := by
  cases hl with
  | nothing => exact List.forall_mem_nil _
  | goOn caller body body' => exact (hscript _ _ rfl).elim
  | dispatch caller e next n => exact (hscript _ _ rfl).elim
  | operate caller place op next => exact (hscript _ _ rfl).elim
  | deliver e =>
    exact List.forall_mem_map.2 fun s hs => ⟨h.quiet.handlers _ s hs, h.spares.handlers _ s hs⟩
  | take reply e => exact List.forall_mem_singleton.2 trivial
  | answers hid place e => exact List.forall_mem_singleton.2 ⟨e, .inl rfl⟩
  | announcements hid place e => exact List.forall_mem_singleton.2 ⟨e, .inr rfl⟩
  | code hid handler e => exact List.forall_mem_singleton.2 ⟨rfl, ht.1 e, ht.2 e⟩
  | search place op l hl hd hop =>
    obtain ⟨e, rfl | rfl⟩ := ht <;> simp at hop
  | refresh place op event => exact List.forall_mem_singleton.2 trivial
  | farewell place op ds => exact List.forall_mem_map.2 fun d _ => trivial
  | lose place cause d => exact List.forall_mem_singleton.2 trivial
  | emit place event s hs hd =>
    exact List.forall_mem_singleton.2
      ⟨rfl, h.quiet.owners place s hs event, h.spares.owners place s hs event⟩
  | sweep place ds => exact ht.elim
  | broadcast place replies record => exact ht.elim

/-- A discreet task leaves discreet tasks. -/
theorem todo_perform (h : Undisturbed id numbers c) (ht : task.Discreet id numbers) :
    ∀ t ∈ (c.perform task).todo, t.Discreet id numbers := by
  cases task with
  | script caller body =>
    intro t htodo
    obtain ⟨-, -, hdiscreet⟩ := todo_performScript ht c t htodo
    exact hdiscreet
  | _ => exact h.todo_of_leaves ht (leaves_perform c _) nofun

end Undisturbed

/-- While discreet tasks are worked off, only such tasks are performed, and the locator stays
undisturbed. -/
theorem Traced.discreet {c₀ : ControlPoint ν} {tasks left : List (Task ν)} {steps : List (Step ν)}
    (h : Traced c₀ tasks steps c left) (hc : Undisturbed id numbers c₀)
    (ht : ∀ task ∈ tasks, task.Discreet id numbers) :
    Undisturbed id numbers c ∧ (∀ task ∈ left, task.Discreet id numbers) := by
  induction h with
  | start => exact ⟨hc, ht⟩
  | perform _ ih =>
    obtain ⟨hstate, hleft⟩ := ih
    obtain ⟨htask, hrest⟩ := List.forall_mem_cons.1 hleft
    exact ⟨hstate.perform htask, List.forall_mem_append.2 ⟨hstate.todo_perform htask, hrest⟩⟩
  | turn clock link _ ih => exact ⟨ih.1.turn clock link, ih.2⟩

end

/-! ## What a locator is given to handle -/

/-- When the locator in a place is given a message to handle, the moment and the operation. -/
def Step.heard? (id : LocatorId) (step : Step ν) : Option (Conditions × Operation) :=
  match step.task with
  | .operate id' (.answer e) =>
    if id' = id then some (step.state.clock, .answer e) else none
  | .operate id' (.announcement e) =>
    if id' = id then some (step.state.clock, .announcement e) else none
  | _ => none

/-- The messages that the locator in a place is given to handle, and the moments. -/
def heardOf (id : LocatorId) (steps : List (Step ν)) : List (Conditions × Operation) :=
  steps.filterMap (Step.heard? id)

/-- The messages that are sent. -/
def sentOf (journal : List Entry) : List Message :=
  journal.filterMap Entry.sent?

omit [UrlParser] in
@[simp] theorem heardOf_append (id : LocatorId) (steps more : List (Step ν)) :
    heardOf id (steps ++ more) = heardOf id steps ++ heardOf id more :=
  List.filterMap_append

omit [UrlParser] in
@[simp] theorem sentOf_append (journal more : List Entry) :
    sentOf (journal ++ more) = sentOf journal ++ sentOf more :=
  List.filterMap_append

omit [UrlParser] in
theorem Step.heard?_of_not_changes {id : LocatorId} {step : Step ν}
    (h : step.task.changes id = false) : step.heard? id = none := by
  obtain ⟨c, task⟩ := step
  cases task with
  | operate id' op =>
    have hne : id' ≠ id := by simpa [Task.changes] using h
    cases op <;> simp [Step.heard?, hne]
  | _ => rfl

omit [UrlParser] in
theorem Operation.Handles.heard? {e : Received} {op : Operation} (h : op.Handles e)
    (c : ControlPoint ν) (id : LocatorId) :
    (⟨c, .operate id op⟩ : Step ν).heard? id = some (c.clock, op) := by
  rcases h with rfl | rfl <;> simp [Step.heard?]

/-- Only the search of a locator is sent. -/
theorem sentOf_perform (c : ControlPoint ν) {task : Task ν} (h : ∀ id, task ≠ .broadcast id) :
    sentOf (c.perform task).journal = [] := by
  refine List.filterMap_eq_nil_iff.2 fun entry hentry => ?_
  cases entry with
  | sent id m =>
    obtain ⟨htask, -⟩ := (shows_perform c task).of_sent_mem hentry
    exact (h id htask).elim
  | _ => rfl

theorem sentOf_shownBy {steps : List (Step ν)}
    (h : ∀ step ∈ steps, ∀ id, step.task ≠ .broadcast id) : sentOf (shownBy steps) = [] := by
  induction steps with
  | nil => rfl
  | cons step rest ih =>
    obtain ⟨hstep, hrest⟩ := List.forall_mem_cons.1 h
    have hfirst : sentOf step.outcome.journal = [] := sentOf_perform _ hstep
    rw [shownBy, List.flatMap_cons, sentOf_append, hfirst]
    exact ih hrest

/-- Over some steps a locator is given certain messages to handle; what becomes of it, and
what its owner is told, is what handling them comes to, and no search is sent. -/
structure Attends (id : LocatorId) (ops : List Operation) (c : ControlPoint ν)
    (steps : List (Step ν)) (c' : ControlPoint ν) : Prop where
  heard : (heardOf id steps).map (·.2) = ops
  unsent : sentOf (shownBy steps) = []
  slot : ∀ s, c.slots[id]? = some s →
    let r := s.locator.reactAll (heardOf id steps)
    c'.slots[id]? = some { s with locator := r.1 } ∧ eventsOf id (shownBy steps) = r.2

section

variable {id : LocatorId} {numbers : List (Text × HandlerId)} {c c' c'' : ControlPoint ν}
  {ops ops' : List Operation} {steps steps' : List (Step ν)}

namespace Attends

theorem nothing : Attends id [] c [] c :=
  ⟨rfl, rfl, fun _ hs => ⟨hs, rfl⟩⟩

theorem turn (h : Attends id ops c steps c') (clock : Conditions) (link : Link) :
    Attends id ops c steps { c' with clock, link } :=
  ⟨h.heard, h.unsent, h.slot⟩

theorem trans (h : Attends id ops c steps c') (h' : Attends id ops' c' steps' c'') :
    Attends id (ops ++ ops') c (steps ++ steps') c'' := by
  refine ⟨?_, ?_, fun s hs => ?_⟩
  · rw [heardOf_append, List.map_append, h.heard, h'.heard]
  · rw [shownBy_append, sentOf_append, h.unsent, h'.unsent]
    rfl
  · obtain ⟨hslot, hevents⟩ := h.slot s hs
    obtain ⟨hslot', hevents'⟩ := h'.slot _ hslot
    rw [heardOf_append, Locator.reactAll_append, shownBy_append, eventsOf_append]
    exact ⟨hslot', by rw [hevents, hevents']⟩

/-- A task that has nothing to do with the locator. -/
theorem idle (clock : Conditions) (link : Link) {task : Task ν} (hc : task.changes id = false)
    (hp : task.pending id = []) (hb : ∀ id', task ≠ .broadcast id') :
    let step : Step ν := ⟨{ c with clock, link }, task⟩
    Attends id [] c [step] step.outcome.state := by
  intro step
  have hheard : heardOf id [step] = [] := by
    rw [heardOf, List.filterMap_cons_none (Step.heard?_of_not_changes hc), List.filterMap_nil]
  refine ⟨by rw [hheard]; rfl, ?_, fun s hs => ?_⟩
  · rw [shownBy_singleton]
    exact sentOf_perform _ hb
  · have hslot := ControlPoint.slots_perform (c := step.state) hs task
    rw [Locator.undergo_of_not_changes hc] at hslot
    rw [hheard, shownBy_singleton, (shows_perform _ task).eventsOf_eq_nil hp]
    exact ⟨hslot, rfl⟩

end Attends

/-- Tasks that do not concern a locator make no difference to it. -/
theorem Traced.attends_idle {tasks left : List (Task ν)} (h : Traced c tasks steps c' left)
    (hc : Undisturbed id numbers c) (ht : ∀ task ∈ tasks, task.Discreet id numbers)
    (hidle : ∀ task ∈ tasks, ¬task.Concerns id) :
    Attends id [] c steps c' ∧ ∀ task ∈ left, ¬task.Concerns id := by
  induction h with
  | start => exact ⟨.nothing, hidle⟩
  | @perform steps c₁ task rest hbefore ih =>
    obtain ⟨hattends, hleft⟩ := ih
    obtain ⟨htask, hrest⟩ := List.forall_mem_cons.1 hleft
    have hdiscreet : task.Discreet id numbers :=
      (hbefore.discreet hc ht).2 task List.mem_cons_self
    have hbroadcast (id' : LocatorId) : task ≠ .broadcast id' := by
      rintro rfl
      exact hdiscreet
    refine ⟨hattends.trans (.idle c₁.clock c₁.link (Task.changes_of_not_concerns htask)
      (Task.pending_of_not_concerns htask) hbroadcast), List.forall_mem_append.2 ⟨?_, hrest⟩⟩
    refine not_concerns_todo ?_ (fun id' heq => (hbroadcast id' heq).elim) htask
    rintro caller body rfl t htodo
    obtain ⟨body', heq, -⟩ := Undisturbed.todo_performScript hdiscreet c₁ t htodo
    exact ⟨body', heq⟩
  | turn clock link _ ih => exact ⟨ih.1.turn clock link, ih.2⟩

/-! ## Messages for everyone -/

/-- What a locator is asked to do with a message that is dispatched, if anything. -/
def Received.asks? (e : Received) : Option Operation :=
  if e.routeKey = responseStartLine then some (.answer e)
  else if e.routeKey = notifyKey then some (.announcement e) else none

/-- What a locator is asked to do with a reply to a search, if anything. -/
def Reply.asks? (reply : Reply) : Option Operation :=
  reply.read?.bind (·.1.asks?)

/-- A handler of the locator has it handle the message. -/
theorem Traced.attends_invoke {sub : Subscription (Subscriber ν)} {e : Received} {op : Operation}
    (h : Traced c [.invoke sub e] steps c' []) (hc : Undisturbed id numbers c) (hop : op.Handles e)
    (hinvoke : ∀ c : ControlPoint ν, (c.invoke e sub.handler).todo = [.operate id op]) :
    Attends id [op] c steps c' := by
  obtain ⟨clock, link, later, hlater, rfl⟩ := h.performed
  rw [perform_invoke, hinvoke] at hlater
  obtain ⟨clock', link', told, htold, rfl⟩ := hlater.performed
  obtain ⟨s, hs, hd, hdropped⟩ := hc.active
  have howner := hc.quiet.owners id s hs
  let c₁ : ControlPoint ν := { c with clock, link }
  let c₂ : ControlPoint ν := { c with clock := clock', link := link' }
  have hslot₂ : c₂.slots[id]? = some s := hs
  obtain ⟨hreports, hslot, hevents, -⟩ := htold.reported hop hslot₂ hd hdropped howner
  have hheard : heardOf id (⟨c₂, .operate id op⟩ :: told) = [(clock', op)] := by
    rw [heardOf, List.filterMap_cons_some (hop.heard? c₂ id), List.filterMap_eq_nil_iff.2]
    exact fun step hstep => Step.heard?_of_not_changes ((hreports step hstep).changes id)
  have hunsent : sentOf (shownBy (⟨c₂, .operate id op⟩ :: told)) = [] := by
    refine sentOf_shownBy (List.forall_mem_cons.2 ⟨nofun, fun step hstep id' heq => ?_⟩)
    have htask := hreports step hstep
    rw [heq] at htask
    exact htask
  have hoperate : Attends id [op] c₁ (⟨c₂, .operate id op⟩ :: told) c' := by
    refine ⟨by rw [hheard]; rfl, hunsent, fun s' hs' => ?_⟩
    obtain rfl : s = s' := Option.some.inj (hs.symm.trans hs')
    rw [hheard, Locator.reactAll_singleton]
    exact ⟨hslot, hevents⟩
  have hinvoke₁ : Attends id [] c [⟨c₁, .invoke sub e⟩] (c₁.perform (.invoke sub e)).state :=
    .idle clock link rfl rfl nofun
  rw [perform_invoke] at hinvoke₁
  exact hinvoke₁.trans hoperate

omit [UrlParser] in
theorem Received.handles_of_asks? {e : Received} {op : Operation} (h : e.asks? = some op) :
    op.Handles e := by
  unfold asks? at h
  split at h
  · exact .inl (Option.some.inj h).symm
  · split at h
    · exact .inr (Option.some.inj h).symm
    · cases h

omit [UrlParser] in
/-- Of the handlers of a message one belongs to the locator, if the message is for it. -/
theorem Undisturbed.exists_split (h : Undisturbed id numbers c) (e : Received) :
    ∃ before mine after, c.router.subscriptions e.routeKey = (before ++ mine) ++ after ∧
      (∀ sub ∈ before ++ after, sub.handler.locator? ≠ some id) ∧
      match e.asks? with
      | none => mine = []
      | some op => ∃ sub, mine = [sub] ∧
        ∀ c : ControlPoint ν, (c.invoke e sub.handler).todo = [.operate id op] := by
  have one {handler : Subscriber ν} (hears : ((c.router.subscriptions e.routeKey).filter
      (·.handler.locator? = some id)).map (·.handler) = [handler]) :
      ∃ before sub after, c.router.subscriptions e.routeKey = (before ++ [sub]) ++ after ∧
        (∀ sub ∈ before ++ after, sub.handler.locator? ≠ some id) ∧ sub.handler = handler := by
    obtain ⟨sub, hfilter, hhandler⟩ := List.map_eq_singleton_iff.1 hears
    obtain ⟨before, after, heq, hbefore, -, hafter⟩ := List.filter_eq_cons_iff.1 hfilter
    refine ⟨before, sub, after, by rw [heq]; simp, ?_, hhandler⟩
    refine List.forall_mem_append.2 ⟨fun sub hsub => ?_, fun sub hsub => ?_⟩
    · simpa using hbefore sub hsub
    · simpa using List.filter_eq_nil_iff.1 hafter sub hsub
  have hears := h.ears e.routeKey
  unfold Received.asks?
  by_cases hanswer : e.routeKey = responseStartLine
  · rw [if_pos hanswer] at hears ⊢
    obtain ⟨before, ⟨hid, handler⟩, after, heq, hothers, rfl⟩ := one hears
    exact ⟨before, _, after, heq, hothers, _, rfl, fun _ => rfl⟩
  · rw [if_neg hanswer] at hears ⊢
    by_cases hnotify : e.routeKey = notifyKey
    · rw [if_pos hnotify] at hears ⊢
      obtain ⟨before, ⟨hid, handler⟩, after, heq, hothers, rfl⟩ := one hears
      exact ⟨before, _, after, heq, hothers, _, rfl, fun _ => rfl⟩
    · rw [if_neg hnotify, List.map_eq_nil_iff] at hears
      rw [if_neg hnotify]
      refine ⟨c.router.subscriptions e.routeKey, [], [], by simp, fun sub hsub => ?_, rfl⟩
      simpa using List.filter_eq_nil_iff.1 hears sub (by simpa using hsub)

/-- While a message is dispatched, the locator handles it if it is for it. -/
theorem Traced.attends_deliver {e : Received} (h : Traced c [.deliver e] steps c' [])
    (hc : Undisturbed id numbers c) : Attends id e.asks?.toList c steps c' := by
  obtain ⟨clock, link, later, hlater, rfl⟩ := h.performed
  let c₁ : ControlPoint ν := { c with clock, link }
  have hdeliver : Attends id [] c [⟨c₁, .deliver e⟩] c₁ := .idle clock link rfl rfl nofun
  refine hdeliver.trans ?_
  have hc₁ : Undisturbed id numbers c₁ := hc.turn clock link
  obtain ⟨before, mine, after, hsubs, hothers, hmine⟩ := hc₁.exists_split e
  obtain ⟨hbefore, hafter⟩ := List.forall_mem_append.1 hothers
  have hcalls : Traced c₁ ((before.map (.invoke · e) ++ mine.map (.invoke · e)) ++
      after.map (.invoke · e)) later c' [] := by
    rw [← List.map_append, ← List.map_append, ← hsubs]
    exact hlater
  have hdiscreet : ∀ sub ∈ (before ++ mine) ++ after,
      (Task.invoke sub e).Discreet id numbers := by
    rw [← hsubs]
    exact fun sub hsub => ⟨hc₁.quiet.handlers _ sub hsub, hc₁.spares.handlers _ sub hsub⟩
  obtain ⟨hfirst, hdiscreet₃⟩ := List.forall_mem_append.1 hdiscreet
  obtain ⟨hdiscreet₁, hdiscreet₂⟩ := List.forall_mem_append.1 hfirst
  -- The handlers before that of the locator, this one, and those after it.
  obtain ⟨c₃, steps₁₂, steps₃, htraced₁₂, htraced₃, rfl⟩ := hcalls.done_append
  obtain ⟨c₂, steps₁, steps₂, htraced₁, htraced₂, rfl⟩ := htraced₁₂.done_append
  have hc₂ := (htraced₁.discreet hc₁ (List.forall_mem_map.2 hdiscreet₁)).1
  have hc₃ := (htraced₂.discreet hc₂ (List.forall_mem_map.2 hdiscreet₂)).1
  have hattends₁ := (htraced₁.attends_idle hc₁ (List.forall_mem_map.2 hdiscreet₁)
    (List.forall_mem_map.2 hbefore)).1
  have hattends₃ := (htraced₃.attends_idle hc₃ (List.forall_mem_map.2 hdiscreet₃)
    (List.forall_mem_map.2 hafter)).1
  have hattends₂ : Attends id e.asks?.toList c₂ steps₂ c₃ := by
    cases hasks : e.asks? with
    | none =>
      rw [hasks] at hmine
      obtain rfl : mine = [] := hmine
      exact (htraced₂.attends_idle hc₂ (List.forall_mem_nil _) (List.forall_mem_nil _)).1
    | some op =>
      rw [hasks] at hmine
      obtain ⟨sub, rfl, hinvoke⟩ := hmine
      exact htraced₂.attends_invoke hc₂ (Received.handles_of_asks? hasks) hinvoke
  have hall := (hattends₁.trans hattends₂).trans hattends₃
  rw [List.append_nil] at hall
  exact hall

/-- While a reply is taken, the locator handles its message if it is for it. -/
theorem Traced.attends_take {reply : Reply} (h : Traced c [.take reply] steps c' [])
    (hc : Undisturbed id numbers c) : Attends id reply.asks?.toList c steps c' := by
  obtain ⟨clock, link, later, hlater, rfl⟩ := h.performed
  let c₁ : ControlPoint ν := { c with clock, link }
  have hc₁ : Undisturbed id numbers c₁ := hc.turn clock link
  have htake : Attends id [] c [⟨c₁, .take reply⟩] (c₁.perform (.take reply)).state :=
    .idle clock link rfl rfl nofun
  refine htake.trans ?_
  rw [Reply.asks?]
  simp only [ControlPoint.perform, ControlPoint.take] at hlater ⊢
  cases hread : reply.read? with
  | none =>
    rw [hread] at hlater
    exact (hlater.attends_idle hc₁ (List.forall_mem_nil _) (List.forall_mem_nil _)).1
  | some reading =>
    rw [hread] at hlater
    exact hlater.attends_deliver hc₁

/-- While replies are taken, the locator handles those that are for it, one after the
other. -/
theorem Traced.attends_takes {replies : List Reply}
    (h : Traced c (replies.map .take) steps c' []) (hc : Undisturbed id numbers c) :
    Attends id (replies.filterMap Reply.asks?) c steps c' := by
  induction replies generalizing c steps with
  | nil => exact (h.attends_idle hc (List.forall_mem_nil _) (List.forall_mem_nil _)).1
  | cons reply rest ih =>
    have hcons : Traced c ([.take reply] ++ rest.map .take) steps c' [] := h
    obtain ⟨c₁, first, second, hfirst, hsecond, rfl⟩ := hcons.done_append
    have hc₁ := (hfirst.discreet hc (List.forall_mem_singleton.2 trivial)).1
    have hall := (hfirst.attends_take hc).trans (ih hsecond hc₁)
    cases hasks : reply.asks? with
    | none =>
      rw [hasks] at hall
      rw [List.filterMap_cons_none hasks]
      exact hall
    | some op =>
      rw [hasks] at hall
      rw [List.filterMap_cons_some hasks]
      exact hall

end

end Ssdp
