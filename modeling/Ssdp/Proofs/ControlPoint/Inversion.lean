import Ssdp.ControlPoint.Step

/-!
# What a step can do

What a step leaves to be done and what it shows depend on little more than the
kind of its task. Both are listed here once; facts about all steps follow by
going through the list.

* `Leaves`, `leaves_perform`: the tasks that a step leaves;
* `Shows`, `shows_perform`: the entries that it shows;
* `Shows.of_emitted_mem`, `Shows.of_sent_mem`: what an event or a search that is shown tells of
  the step.
-/

namespace Ssdp

variable {ν : Type}

/-! ## What is left to be done -/

/-- What a task can leave to be done, by its kind. -/
inductive Leaves (c : ControlPoint ν) : Task ν → List (Task ν) → Prop
  | nothing (task : Task ν) : Leaves c task []
  | goOn (caller : Caller) (body body' : Script ν) :
    Leaves c (.script caller body) [.script caller body']
  | dispatch (caller : Caller) (e : Received) (next : Nat → Script ν) (n : Nat) :
    Leaves c (.script caller (.dispatch e next)) (c.dispatchTasks e ++ [.script caller (next n)])
  | operate (caller : Caller) (id : LocatorId) (op : Operation) (next : Script ν) :
    Leaves c (.script caller (.operate id op next)) [.operate id op, .script caller next]
  | deliver (e : Received) : Leaves c (.deliver e) (c.dispatchTasks e)
  | take (reply : Reply) (e : Received) : Leaves c (.take reply) [.deliver e]
  | answers (hid : HandlerId) (id : LocatorId) (e : Received) :
    Leaves c (.invoke ⟨hid, .answers id⟩ e) [.operate id (.answer e)]
  | announcements (hid : HandlerId) (id : LocatorId) (e : Received) :
    Leaves c (.invoke ⟨hid, .announcements id⟩ e) [.operate id (.announcement e)]
  | code (hid : HandlerId) (handler : Received → Script ν) (e : Received) :
    Leaves c (.invoke ⟨hid, .code handler⟩ e) [.script (.subscriber e) (handler e)]
  | search (id : LocatorId) (op : Operation) (l : Locator) (hl : c.locator? id = some l)
    (hd : l.disposed = false) (hop : op = .searchNow ∨ op = .tick) :
    Leaves c (.operate id op) [.search id]
  | refresh (id : LocatorId) (op : Operation) (event : Event) :
    Leaves c (.operate id op) [.emit id event]
  | farewell (id : LocatorId) (op : Operation) (ds : List Device) :
    Leaves c (.operate id op) (ds.map (.lose id .left ·))
  | sweep (id : LocatorId) (ds : List Device) :
    Leaves c (.search id) (ds.map (.lose id .expired ·) ++ [.broadcast id])
  | lose (id : LocatorId) (cause : LossCause) (d : Device) :
    Leaves c (.lose id cause d) [.emit id (.lost d)]
  | emit (id : LocatorId) (event : Event) (s : Slot ν) (hs : c.slots[id]? = some s)
    (hd : s.locator.disposed = false) :
    Leaves c (.emit id event) [.script (.owner id) (s.owner event)]
  | broadcast (id : LocatorId) (replies : List Reply) (record : LogRecord) :
    Leaves c (.broadcast id) (replies.map .take ++ [.log record])

theorem leaves_carryOut (c : ControlPoint ν) (id : LocatorId) (op : Operation) (l : Locator)
    (judgement : Verdict × List LogRecord) :
    Leaves c (.operate id op) (c.carryOut id l judgement).todo := by
  obtain ⟨v, records⟩ := judgement
  cases v with
  | ignore => exact .nothing _
  | refresh d => exact .refresh id op _
  | farewell usn => exact .farewell id op _

theorem leaves_operate [UrlParser] {c : ControlPoint ν} {id : LocatorId} {l : Locator}
    (hl : c.locator? id = some l) (op : Operation) :
    Leaves c (.operate id op) (c.operate id l op).todo := by
  cases op with
  | start =>
    simp only [ControlPoint.operate, ControlPoint.start]
    split <;> exact .nothing _
  | searchNow =>
    simp only [ControlPoint.operate]
    split
    · exact .nothing _
    · rename_i hd
      exact .search id _ l hl (Bool.eq_false_iff.2 hd) (.inl rfl)
  | tick =>
    simp only [ControlPoint.operate]
    split
    · exact .nothing _
    · rename_i hd
      simp only [Bool.or_eq_true, not_or] at hd
      exact .search id _ l hl (Bool.eq_false_iff.2 hd.1) (.inr rfl)
  | answer e => exact leaves_carryOut c id _ l _
  | announcement e => exact leaves_carryOut c id _ l _
  | _ => exact .nothing _

/-- Every step leaves what its task can leave. -/
theorem leaves_perform [UrlParser] (c : ControlPoint ν) (task : Task ν) :
    Leaves c task (c.perform task).todo := by
  cases task with
  | script caller body =>
    cases body with
    | done => exact .nothing _
    | panic reason => exact .nothing _
    | read datagram next =>
      simp only [ControlPoint.perform, ControlPoint.performScript]
      split <;> exact .goOn caller _ _
    | dispatch e next => exact .dispatch caller e next _
    | operate id op next => exact .operate caller id op next
    | _ => exact .goOn caller _ _
  | deliver e => exact .deliver e
  | take reply =>
    simp only [ControlPoint.perform, ControlPoint.take]
    split
    · exact .take reply _
    · exact .nothing _
  | invoke sub e =>
    obtain ⟨hid, handler⟩ := sub
    cases handler with
    | answers id => exact .answers hid id e
    | announcements id => exact .announcements hid id e
    | code handler => exact .code hid handler e
  | operate id op =>
    simp only [ControlPoint.perform, ControlPoint.withLocator]
    split
    · rename_i l hl
      split
      · exact .nothing _
      · exact leaves_operate hl op
    · exact .nothing _
  | search id =>
    simp only [ControlPoint.perform, ControlPoint.withLocator]
    split
    · exact .sweep id _
    · exact .nothing _
  | lose id cause d => exact .lose id cause d
  | emit id event =>
    simp only [ControlPoint.perform]
    split
    · rename_i s hs
      split
      · exact .nothing _
      · rename_i hd
        exact .emit id event s hs (Bool.eq_false_iff.2 hd)
    · exact .nothing _
  | broadcast id =>
    simp only [ControlPoint.perform, ControlPoint.withLocator, ControlPoint.broadcast]
    split
    · split
      · exact .broadcast id _ _
      · exact .nothing _
    · exact .nothing _
  | log record => exact .nothing _

/-! ## What is shown -/

/-- What a task can show, by its kind: but for records of the log, at most one
entry. -/
inductive Shows (c : ControlPoint ν) : Task ν → List Entry → Prop
  | records (task : Task ν) {journal : List Entry}
    (h : ∀ entry ∈ journal, ∃ record, entry = .logged record) : Shows c task journal
  | invoked (s : Subscription (Subscriber ν)) (e : Received) :
    Shows c (.invoke s e) [.invoked s.id e]
  | emitted (id : LocatorId) (event : Event) (s : Slot ν) (hs : c.slots[id]? = some s)
    (hd : s.locator.disposed = false) : Shows c (.emit id event) [.emitted id event]
  | sent (id : LocatorId) (l : Locator) (hl : c.locator? id = some l) :
    Shows c (.broadcast id) [.sent id (searchRequest l.config.searchWait)]

namespace Shows

variable {c : ControlPoint ν}

theorem nothing (task : Task ν) : Shows c task [] :=
  .records task fun _ h => (List.not_mem_nil h).elim

theorem logged (task : Task ν) (record : LogRecord) : Shows c task [.logged record] :=
  .records task (List.forall_mem_singleton.2 ⟨record, rfl⟩)

theorem map_logged {α : Type} (task : Task ν) (f : α → LogRecord) (xs : List α) :
    Shows c task (xs.map fun x => .logged (f x)) :=
  .records task (List.forall_mem_map.2 fun x _ => ⟨f x, rfl⟩)

end Shows

theorem shows_carryOut (c : ControlPoint ν) (task : Task ν) (id : LocatorId) (l : Locator)
    (judgement : Verdict × List LogRecord) :
    Shows c task (c.carryOut id l judgement).journal := by
  obtain ⟨v, records⟩ := judgement
  cases v with
  | ignore => exact .map_logged task _ records
  | refresh d => exact .map_logged task _ (records ++ _)
  | farewell usn => exact .map_logged task _ records

theorem shows_operate [UrlParser] (c : ControlPoint ν) (task : Task ν) (id : LocatorId)
    (l : Locator) (op : Operation) : Shows c task (c.operate id l op).journal := by
  have retired : Shows c task (if l.timer then [.logged .locatorDisposing] else []) := by
    split
    · exact .logged task _
    · exact .nothing task
  cases op with
  | start =>
    simp only [ControlPoint.operate, ControlPoint.start]
    split
    · exact .nothing task
    · split
      · exact .nothing task
      · exact .logged task _
  | stop => exact .nothing task
  | dispose => exact retired
  | drop => exact retired
  | searchNow => exact .nothing task
  | tick => exact .nothing task
  | answer e => exact shows_carryOut c task id l _
  | announcement e => exact shows_carryOut c task id l _

/-- Every step shows what its task can show. -/
theorem shows_perform [UrlParser] (c : ControlPoint ν) (task : Task ν) :
    Shows c task (c.perform task).journal := by
  cases task with
  | script caller body =>
    cases body with
    | panic reason =>
      cases caller with
      | program => exact .nothing _
      | _ => exact .logged _ _
    | read datagram next =>
      simp only [ControlPoint.perform, ControlPoint.performScript]
      split
      · exact .map_logged _ _ _
      · exact .nothing _
    | _ => exact .nothing _
  | deliver e => exact .nothing _
  | take reply =>
    simp only [ControlPoint.perform, ControlPoint.take]
    split
    · exact .map_logged _ _ _
    · exact .nothing _
  | invoke sub e =>
    obtain ⟨hid, handler⟩ := sub
    cases handler <;> exact .invoked _ e
  | operate id op =>
    simp only [ControlPoint.perform, ControlPoint.withLocator]
    split
    · split
      · exact .nothing _
      · exact shows_operate c _ id _ op
    · exact .nothing _
  | search id =>
    simp only [ControlPoint.perform, ControlPoint.withLocator]
    split <;> exact .nothing _
  | lose id cause d => exact .logged _ _
  | emit id event =>
    simp only [ControlPoint.perform]
    split
    · rename_i s hs
      split
      · exact .nothing _
      · rename_i hd
        exact .emitted id event s hs (Bool.eq_false_iff.2 hd)
    · exact .nothing _
  | broadcast id =>
    simp only [ControlPoint.perform, ControlPoint.withLocator, ControlPoint.broadcast]
    split
    · rename_i l hl
      split
      · exact .sent id l hl
      · exact .logged _ _
    · exact .nothing _
  | log record => exact .logged _ record

/-- A step ends in a panic that nobody has caught only if it is the program outside that
panics. -/
theorem ControlPoint.panic_perform_iff [UrlParser] (c : ControlPoint ν) (task : Task ν)
    {reason : PanicReason} :
    (c.perform task).panic = some reason ↔ task = .script .program (.panic reason) := by
  refine ⟨fun h => ?_, fun h => h ▸ rfl⟩
  have never {o : Outcome ν} (hnone : o.panic = none) (hsome : o.panic = some reason) : False := by
    rw [hnone] at hsome
    cases hsome
  have carried (id : LocatorId) (l : Locator) (judgement : Verdict × List LogRecord) :
      (c.carryOut id l judgement).panic = none := by
    obtain ⟨v, records⟩ := judgement
    cases v <;> rfl
  have operated (id : LocatorId) (l : Locator) (op : Operation) :
      (c.operate id l op).panic = none := by
    cases op with
    | start =>
      simp only [operate, start]
      split <;> rfl
    | answer e => exact carried id l _
    | announcement e => exact carried id l _
    | _ => rfl
  have within {id : LocatorId} {f : Locator → Outcome ν} (hf : ∀ l, (f l).panic = none) :
      (c.withLocator id f).panic = none := by
    unfold withLocator
    split
    · exact hf _
    · rfl
  cases task with
  | script caller body =>
    cases body with
    | panic reason' =>
      cases caller with
      | program =>
        obtain rfl : reason' = reason := Option.some.inj h
        rfl
      | _ => cases h
    | read datagram next =>
      simp only [perform, performScript] at h
      split at h <;> cases h
    | _ => cases h
  | take reply =>
    simp only [perform, take] at h
    split at h <;> cases h
  | invoke sub e =>
    obtain ⟨hid, handler⟩ := sub
    cases handler <;> cases h
  | operate id op =>
    refine (never (within fun l => ?_) h).elim
    split
    · rfl
    · exact operated id l op
  | search id => exact (never (within fun _ => rfl) h).elim
  | emit id event =>
    simp only [perform] at h
    split at h
    · split at h <;> cases h
    · cases h
  | broadcast id =>
    refine (never (within fun l => ?_) h).elim
    simp only [broadcast]
    split <;> rfl
  | _ => cases h

section

variable {c : ControlPoint ν} {task : Task ν} {journal : List Entry} {id : LocatorId}

/-- An event is shown on its way to the owner of a locator that is not disposed. -/
theorem Shows.of_emitted_mem {event : Event} (h : Shows c task journal)
    (hm : .emitted id event ∈ journal) :
    task = .emit id event ∧ ∃ s, c.slots[id]? = some s ∧ s.locator.disposed = false := by
  cases h with
  | records _ hrecords =>
    obtain ⟨record, heq⟩ := hrecords _ hm
    cases heq
  | emitted id' event' s hs hd =>
    obtain ⟨rfl, rfl⟩ := Entry.emitted.inj (List.mem_singleton.1 hm)
    exact ⟨rfl, s, hs, hd⟩
  | _ => cases List.mem_singleton.1 hm

/-- Nothing is sent but the search of a locator. -/
theorem Shows.of_sent_mem {m : Message} (h : Shows c task journal) (hm : .sent id m ∈ journal) :
    task = .broadcast id ∧
      ∃ l, c.locator? id = some l ∧ m = searchRequest l.config.searchWait := by
  cases h with
  | records _ hrecords =>
    obtain ⟨record, heq⟩ := hrecords _ hm
    cases heq
  | sent id' l hl =>
    obtain ⟨rfl, rfl⟩ := Entry.sent.inj (List.mem_singleton.1 hm)
    exact ⟨rfl, l, hl, rfl⟩
  | _ => cases List.mem_singleton.1 hm

end

end Ssdp
