import Ssdp.Proofs.ControlPoint.Census
import Ssdp.Proofs.ControlPoint.Quiet

/-!
# Code that leaves a locator alone

Other code may do a good deal without a difference to what a locator caches: it may use
the router for messages of its own, look after other locators, build new ones, and start
and stop this one. Where all code keeps to that, announcements reach the locator, one by
one and in order, and nothing else does.

* `Script.Spares`, `ControlPoint.Spares`: code that leaves a locator alone;
* `Task.Mild`: tasks that lead to no change of its cache but by announcements;
* `Sheltered`, `Sheltered.perform`: the locator is subscribed to announcements and left
  alone, and a mild task leaves it so;
* `Sheltered.todo_mild`: a mild task leaves mild tasks.
-/

namespace Ssdp

variable {ν : Type}

/-! ## Sparing a locator -/

/-- Operations of the locator in a place that make no difference to what another one
caches: no search, whose answers might be for all, and on the other one itself only to
start or to stop. -/
def Operation.Spares (id place : LocatorId) : Operation → Prop
  | .start | .stop => True
  | .searchNow | .tick => False
  | .dispose | .drop | .answer _ | .announcement _ => place ≠ id

/-- Scripts that leave a locator alone. They dispatch nothing under the keys of locators,
take none of its numbers out, and hand over only code that leaves it alone. -/
def Script.Spares (id : LocatorId) (numbers : List (Text × HandlerId)) : Script ν → Prop
  | .done | .panic _ => True
  | .note _ next => ∀ notes, (next notes).Spares id numbers
  | .read _ next => ∀ result, (next result).Spares id numbers
  | .subscribe _ handler next =>
    (∀ e, (handler e).Spares id numbers) ∧ ∀ hid, (next hid).Spares id numbers
  | .unsubscribe key hid next =>
    (key, hid) ∉ numbers ∧ ∀ removed, (next removed).Spares id numbers
  | .countHandlers _ next => ∀ n, (next n).Spares id numbers
  | .dispatch e next =>
    e.routeKey ∉ [notifyKey, responseStartLine] ∧ ∀ n, (next n).Spares id numbers
  | .build _ owner next =>
    (∀ event, (owner event).Spares id numbers) ∧ ∀ result, (next result).Spares id numbers
  | .operate place op next => op.Spares id place ∧ next.Spares id numbers
  | .look _ next => ∀ l, (next l).Spares id numbers

/-- Subscribers whose code leaves a locator alone. -/
def Subscriber.Spares (id : LocatorId) (numbers : List (Text × HandlerId)) : Subscriber ν → Prop
  | .code handler => ∀ e, (handler e).Spares id numbers
  | _ => True

/-- All code that is subscribed or owns a locator leaves a locator alone. -/
structure ControlPoint.Spares (id : LocatorId) (numbers : List (Text × HandlerId))
    (c : ControlPoint ν) : Prop where
  handlers : ∀ key s, s ∈ c.router.subscriptions key → s.handler.Spares id numbers
  owners : ∀ (place : LocatorId) s, c.slots[place]? = some s →
    ∀ event, (s.owner event).Spares id numbers

/-- Tasks that lead to no change of what a locator caches, but by announcements. -/
def Task.Mild (id : LocatorId) (numbers : List (Text × HandlerId)) : Task ν → Prop
  | .script _ body => body.Spares id numbers
  | .deliver e => e.routeKey ≠ responseStartLine
  | .invoke s _ => s.handler ≠ .answers id ∧ s.handler.Spares id numbers
  | .operate place op => op.Spares id place ∨ ∃ e, op = .announcement e
  | .take _ | .search _ | .broadcast _ => False
  | .lose .. | .emit .. | .log _ => True

/-- The scripts that a step hands over decide whether all code leaves the locator alone. -/
theorem ControlPoint.Spares.perform_of_scripts [UrlParser] {id : LocatorId}
    {numbers : List (Text × HandlerId)} {c : ControlPoint ν} {task : Task ν}
    (h : c.Spares id numbers) (hw : Wired c.router c.kept)
    (ht : ∀ caller body, task = .script caller body → body.Spares id numbers) :
    (c.perform task).state.Spares id numbers := by
  refine ⟨?_, ?_⟩
  · refine hw.forall_subscriptions_perform (P := fun _ handler => handler.Spares id numbers)
      (fun _ => trivial) (fun _ => trivial) ?_ h.handlers
    intro caller key handler next htask
    exact (ht _ _ htask).1
  · refine forall_owners_perform (P := fun owner => ∀ event, (owner event).Spares id numbers) ?_
      h.owners
    intro caller config owner next htask
    exact (ht _ _ htask).1

theorem ControlPoint.Spares.perform [UrlParser] {id : LocatorId} {numbers : List (Text × HandlerId)}
    {c : ControlPoint ν} {task : Task ν} (h : c.Spares id numbers) (hw : Wired c.router c.kept)
    (ht : task.Mild id numbers) : (c.perform task).state.Spares id numbers := by
  refine h.perform_of_scripts hw ?_
  rintro caller body rfl
  exact ht

/-! ## A locator that is left alone -/

/-- Announcements and answers go by different keys. -/
theorem notifyKey_ne_responseStartLine : notifyKey ≠ responseStartLine := by
  decide

/-- A locator that keeps its numbers, has one handler for announcements, and is left alone
by all code. -/
structure Sheltered (id : LocatorId) (numbers : List (Text × HandlerId)) (c : ControlPoint ν) :
    Prop where
  wired : Wired c.router c.kept
  kept : c.kept id = numbers
  keys : ∀ number ∈ numbers, number.1 ∈ [notifyKey, responseStartLine]
  ears : ∃ hid, (c.router.subscriptions notifyKey).filter (·.handler.locator? = some id) =
    [⟨hid, .announcements id⟩]
  spares : c.Spares id numbers

/-- A locator that is not disposed has one handler for announcements, where code is civil. -/
theorem InOrder.sheltered [UrlParser] {log : List (Registration (Received → Script ν))}
    {c : ControlPoint ν} (h : InOrder log c) {id : LocatorId} {s : Slot ν}
    (hs : c.slots[id]? = some s)
    (hd : s.locator.disposed = false) (hspares : c.Spares id s.locator.subscriptions) :
    Sheltered id s.locator.subscriptions c := by
  have hkept := ControlPoint.kept_of_slot hs
  have hkeys := (h.coherent id s hs).keys hd
  refine ⟨h.wired, hkept, fun number hm => ?_, ?_, hspares⟩
  · have hkey : number.1 ∈ s.locator.subscriptions.map (·.1) := List.mem_map_of_mem hm
    rw [hkeys] at hkey
    simpa [or_comm] using hkey
  · have hears := h.handlers_eq hs notifyKey
    rw [hd, if_neg Bool.false_ne_true, if_neg notifyKey_ne_responseStartLine, if_pos rfl,
      List.map_eq_singleton_iff] at hears
    obtain ⟨sub, hsub, hhandler⟩ := hears
    exact ⟨sub.id, by rw [hsub, ← hhandler]⟩

namespace Sheltered

variable {id : LocatorId} {numbers : List (Text × HandlerId)} {c : ControlPoint ν} {task : Task ν}

/-- The locator keeps the number of its handler for announcements. -/
theorem exists_mem (h : Sheltered id numbers c) : ∃ hid, (notifyKey, hid) ∈ numbers ∧
    (c.router.subscriptions notifyKey).filter (·.handler.locator? = some id) =
      [⟨hid, .announcements id⟩] := by
  obtain ⟨hid, hears⟩ := h.ears
  have hmem : ⟨hid, .announcements id⟩ ∈ (c.router.subscriptions notifyKey).filter
      (·.handler.locator? = some id) := by
    rw [hears]
    exact List.mem_singleton_self _
  have hkept := (h.wired.belongs notifyKey _ (List.mem_filter.1 hmem).1 id).1 rfl
  rw [h.kept] at hkept
  exact ⟨hid, hkept, hears⟩

/-- Under every key but that of answers, the locator has the handlers for announcements
alone. -/
theorem filter_subscriptions (h : Sheltered id numbers c) {key : Text}
    (hkey : key ≠ responseStartLine) :
    ∃ hid, (c.router.subscriptions key).filter (·.handler.locator? = some id) =
      if key = notifyKey then [⟨hid, .announcements id⟩] else [] := by
  obtain ⟨hid, hears⟩ := h.ears
  refine ⟨hid, ?_⟩
  split
  · rename_i heq
    rw [heq, hears]
  · rename_i hne
    refine List.filter_eq_nil_iff.2 fun s hs hmine => ?_
    have hkept := (h.wired.belongs key s hs id).1 (of_decide_eq_true hmine)
    rw [h.kept] at hkept
    have hmem := h.keys _ hkept
    simp [hne, hkey] at hmem

/-- A mild task takes no number of the locator out of the router, and gives it none. -/
theorem perform [UrlParser] (h : Sheltered id numbers c) (ht : task.Mild id numbers) :
    Sheltered id numbers (c.perform task).state := by
  obtain ⟨hid, hmem, hears⟩ := h.exists_mem
  have hplace : c.slots[id]? ≠ none := by
    intro hn
    rw [← h.kept, ControlPoint.kept_of_none hn] at hmem
    exact List.not_mem_nil hmem
  obtain ⟨hkept, hown⟩ : (c.perform task).state.kept id = c.kept id ∧ ∀ key, _ := by
    refine h.wired.own_perform hplace ?_ ?_
    · rintro caller key hid next rfl
      rw [h.kept]
      exact ht.1
    · rintro op hop rfl
      rcases ht with ht | ⟨e, rfl⟩
      · rcases hop with rfl | rfl <;> exact ht rfl
      · rcases hop with hop | hop <;> cases hop
  exact ⟨h.wired.rewire (c.rewires_perform task), hkept.trans h.kept, h.keys,
    ⟨hid, (hown notifyKey).trans hears⟩, h.spares.perform h.wired ht⟩

theorem turn (h : Sheltered id numbers c) (clock : Conditions) (link : Link) :
    Sheltered id numbers { c with clock, link } :=
  ⟨h.wired, h.kept, h.keys, h.ears, ⟨h.spares.handlers, h.spares.owners⟩⟩

/-! ## What a mild task leaves -/

theorem dispatchTasks_mild (h : Sheltered id numbers c) {e : Received}
    (hkey : e.routeKey ≠ responseStartLine) : ∀ t ∈ c.dispatchTasks e, t.Mild id numbers := by
  refine List.forall_mem_map.2 fun s hs => ⟨fun hanswers => ?_, h.spares.handlers _ s hs⟩
  obtain ⟨hid, hfilter⟩ := h.filter_subscriptions hkey
  have hmem : s ∈ (c.router.subscriptions e.routeKey).filter (·.handler.locator? = some id) :=
    List.mem_filter.2 ⟨hs, by simp [hanswers, Subscriber.locator?]⟩
  rw [hfilter] at hmem
  split at hmem
  · rw [List.mem_singleton.1 hmem] at hanswers
    cases hanswers
  · exact List.not_mem_nil hmem

theorem todo_performScript_mild (h : Sheltered id numbers c) {caller : Caller} {body : Script ν}
    (hb : body.Spares id numbers) :
    ∀ t ∈ (c.performScript caller body).todo, t.Mild id numbers := by
  cases body with
  | done => exact fun t ht => nomatch ht
  | panic reason => exact fun t ht => nomatch ht
  | note change next => exact List.forall_mem_singleton.2 (hb _)
  | read datagram next =>
    simp only [ControlPoint.performScript]
    split <;> exact List.forall_mem_singleton.2 (hb _)
  | subscribe key handler next => exact List.forall_mem_singleton.2 (hb.2 _)
  | unsubscribe key hid next => exact List.forall_mem_singleton.2 (hb.2 _)
  | countHandlers key next => exact List.forall_mem_singleton.2 (hb _)
  | dispatch e next =>
    have hkey : e.routeKey ≠ responseStartLine := fun heq => hb.1 (by simp [heq])
    refine List.forall_mem_append.2 ⟨h.dispatchTasks_mild hkey, ?_⟩
    exact List.forall_mem_singleton.2 (hb.2 _)
  | build config owner next => exact List.forall_mem_singleton.2 (hb.2 _)
  | operate place op next =>
    exact List.forall_mem_cons.2 ⟨.inl hb.1, List.forall_mem_singleton.2 hb.2⟩
  | look place next => exact List.forall_mem_singleton.2 (hb _)

theorem todo_of_leaves_mild (h : Sheltered id numbers c) (ht : task.Mild id numbers)
    {todo : List (Task ν)} (hl : Leaves c task todo)
    (hscript : ∀ caller body, task ≠ .script caller body) : ∀ t ∈ todo, t.Mild id numbers := by
  cases hl with
  | nothing => exact fun t ht => nomatch ht
  | goOn caller body body' => exact (hscript _ _ rfl).elim
  | dispatch caller e next n => exact (hscript _ _ rfl).elim
  | operate caller place op next => exact (hscript _ _ rfl).elim
  | deliver e => exact h.dispatchTasks_mild ht
  | answers hid place e =>
    have hplace : place ≠ id := fun heq => ht.1 (congrArg Subscriber.answers heq)
    exact List.forall_mem_singleton.2 (.inl hplace)
  | announcements hid place e => exact List.forall_mem_singleton.2 (.inr ⟨e, rfl⟩)
  | code hid handler e => exact List.forall_mem_singleton.2 (ht.2 e)
  | search place op l hl hd hop =>
    rcases ht with ht | ⟨e, rfl⟩
    · rcases hop with rfl | rfl <;> exact ht.elim
    · rcases hop with hop | hop <;> cases hop
  | refresh place op event => exact List.forall_mem_singleton.2 trivial
  | farewell place op ds => exact List.forall_mem_map.2 fun d _ => trivial
  | lose place cause d => exact List.forall_mem_singleton.2 trivial
  | emit place event s hs hd =>
    exact List.forall_mem_singleton.2 (h.spares.owners place s hs event)
  | _ => exact ht.elim

/-- A mild task leaves mild tasks. -/
theorem todo_mild [UrlParser] (h : Sheltered id numbers c) (ht : task.Mild id numbers) :
    ∀ t ∈ (c.perform task).todo, t.Mild id numbers := by
  cases task with
  | script caller body => exact h.todo_performScript_mild ht
  | _ => exact h.todo_of_leaves_mild ht (leaves_perform c _) fun caller body h => nomatch h

end Sheltered

end Ssdp
