import Ssdp.Proofs.ControlPoint.Inversion
import Ssdp.Proofs.ControlPoint.Move
import Ssdp.Proofs.Locator.Reaction

/-!
# What a step does to one locator

A task changes a locator only if it operates or sweeps that very locator. The
events that a step leads to are shown at once or are pending: they stand on the
agenda as tasks that report a loss or tell the owner of an event.

* `Locator.undergo`: what a task does to a locator, and `Locator.undergo_cases`: it
  leaves the locator alone, operates it or sweeps it;
* `slots_perform`: the locator in a place after a step, and its owner;
* `events_perform`: nothing a step leads to is forgotten or told twice.
-/

namespace Ssdp

variable {ν : Type}

/-- Whether a task operates or sweeps the locator in a place. -/
def Task.changes (id : LocatorId) : Task ν → Bool
  | .operate id' _ => id' = id
  | .search id' => id' = id
  | _ => false

/-- What a task does to the locator in a place, and the events that follow. -/
def Locator.undergo [UrlParser] (l : Locator) (id : LocatorId) (clock : Conditions) :
    Task ν → Locator × List Event
  | .operate id' op =>
    if id' = id ∧ l.dropped = false then l.react clock op else (l, [])
  | .search id' => if id' = id then l.sweep clock else (l, [])
  | _ => (l, [])

theorem Locator.undergo_of_not_changes [UrlParser] {l : Locator} {id : LocatorId}
    {clock : Conditions} {task : Task ν} (h : task.changes id = false) :
    l.undergo id clock task = (l, []) := by
  cases task with
  | operate id' op =>
    have hne : id' ≠ id := by simpa [Task.changes] using h
    simp [undergo, hne]
  | search id' =>
    have hne : id' ≠ id := by simpa [Task.changes] using h
    simp [undergo, hne]
  | _ => rfl

/-- What is true of a locator that is left alone, operated or swept, with the events
that follow, is true of what any task does to it. -/
@[elab_as_elim]
theorem Locator.undergo_cases [UrlParser] {motive : Locator × List Event → Prop} {l : Locator}
    {clock : Conditions} (idle : motive (l, [])) (react : ∀ op, motive (l.react clock op))
    (sweep : motive (l.sweep clock)) (id : LocatorId) (task : Task ν) :
    motive (l.undergo id clock task) := by
  cases task with
  | operate id' op =>
    simp only [undergo]
    split
    · exact react op
    · exact idle
  | search id' =>
    simp only [undergo]
    split
    · exact sweep
    · exact idle
  | _ => exact idle

theorem Locator.sound_undergo [UrlParser] {l : Locator} (h : l.cache.Sound) (id : LocatorId)
    (clock : Conditions) (task : Task ν) : (l.undergo id clock task).1.cache.Sound :=
  undergo_cases h (l.sound_react h clock) (l.sound_sweep h clock) id task

/-- A locator that is disposed stays so. -/
theorem Locator.disposed_undergo [UrlParser] {l : Locator} (h : l.disposed = true) (id : LocatorId)
    (clock : Conditions) (task : Task ν) : (l.undergo id clock task).1.disposed = true :=
  undergo_cases h (disposed_react h clock) h id task

/-- A disposed locator is past changing its cache, but for a sweep that is under way. -/
theorem Locator.undergo_of_disposed [UrlParser] {l : Locator} (h : l.disposed = true)
    {id : LocatorId} {clock : Conditions} {task : Task ν} (hsearch : task ≠ .search id) :
    (l.undergo id clock task).1.cache = l.cache ∧ (l.undergo id clock task).2 = [] := by
  cases task with
  | operate id' op =>
    simp only [undergo]
    split
    · exact react_of_disposed h clock op
    · exact ⟨rfl, rfl⟩
  | search id' =>
    have hne : id' ≠ id := fun hid => hsearch (hid ▸ rfl)
    simp [undergo, hne]
  | _ => exact ⟨rfl, rfl⟩

/-- A task that disposes of a locator leads to no event. -/
theorem Locator.undergo_snd_of_disposed [UrlParser] {l : Locator} (hd : l.disposed = false)
    {id : LocatorId} {clock : Conditions} {task : Task ν}
    (h : (l.undergo id clock task).1.disposed = true) :
    (l.undergo id clock task).2 = [] := by
  have still : l.disposed = true → (l.undergo id clock task).2 = [] := by
    intro ht
    rw [hd] at ht
    cases ht
  cases task with
  | operate id' op =>
    simp only [undergo] at h ⊢
    split
    · rename_i hid
      rw [if_pos hid] at h
      exact react_snd_of_disposed h
    · rfl
  | search id' =>
    by_cases hid : id' = id
    · refine still ?_
      simpa [undergo, hid, sweep, lose] using h
    · simp [undergo, hid]
  | _ => rfl

/-- The event of a locator that a task is about to show. -/
def Task.pending (id : LocatorId) : Task ν → List Event
  | .lose id' _ d => if id' = id then [.lost d] else []
  | .emit id' event => if id' = id then [event] else []
  | _ => []

/-- The events of a locator that an agenda is about to show. -/
def pendingEvents (id : LocatorId) (agenda : List (Task ν)) : List Event :=
  agenda.flatMap (Task.pending id)

/-- The event, if the entry shows one of this locator. -/
def Entry.eventOf? (id : LocatorId) : Entry → Option Event
  | .emitted id' event => if id' = id then some event else none
  | _ => none

/-- The events of a locator that were shown. -/
def eventsOf (id : LocatorId) (journal : List Entry) : List Event :=
  journal.filterMap (Entry.eventOf? id)

section

variable {id : LocatorId}

@[simp] theorem pendingEvents_nil : pendingEvents id ([] : List (Task ν)) = [] := rfl

@[simp] theorem pendingEvents_cons (task : Task ν) (rest : List (Task ν)) :
    pendingEvents id (task :: rest) = task.pending id ++ pendingEvents id rest := rfl

@[simp] theorem pendingEvents_append (xs ys : List (Task ν)) :
    pendingEvents id (xs ++ ys) = pendingEvents id xs ++ pendingEvents id ys :=
  List.flatMap_append

theorem pendingEvents_eq_nil_iff {agenda : List (Task ν)} :
    pendingEvents id agenda = [] ↔ ∀ task ∈ agenda, task.pending id = [] :=
  List.flatMap_eq_nil_iff

theorem pendingEvents_lose (id' : LocatorId) (cause : LossCause) (ds : List Device) :
    pendingEvents id (ds.map (.lose id' cause · : Device → Task ν)) =
      if id' = id then ds.map .lost else [] := by
  induction ds with
  | nil => simp
  | cons d rest ih =>
    rw [List.map_cons, pendingEvents_cons, ih]
    by_cases h : id' = id <;> simp [Task.pending, h]

@[simp] theorem eventsOf_append (xs ys : List Entry) :
    eventsOf id (xs ++ ys) = eventsOf id xs ++ eventsOf id ys :=
  List.filterMap_append

end

namespace ControlPoint

variable {id : LocatorId} {c : ControlPoint ν} {s : Slot ν}

/-- A change to the locator in a place is seen there. -/
theorem slots_modifyLocator (hs : c.slots[id]? = some s) (f : Locator → Locator) :
    (c.modifyLocator id f).slots[id]? = some { s with locator := f s.locator } := by
  simp only [modifyLocator, List.getElem?_modify_eq, hs, Option.map_some, Option.map_eq_map]

/-- A change to the locator in a place is seen nowhere else. -/
theorem slots_modifyLocator_ne (hs : c.slots[id]? = some s) {id' : LocatorId} (hne : id' ≠ id)
    (f : Locator → Locator) : (c.modifyLocator id' f).slots[id]? = some s := by
  simp only [modifyLocator, List.getElem?_modify_ne _ _ hne, hs]

/-- A change that leaves the locator in a place as it is changes nothing. -/
theorem modifyLocator_self (hs : c.slots[id]? = some s) {f : Locator → Locator}
    (hf : f s.locator = s.locator) : c.modifyLocator id f = c := by
  have hslots : c.slots.modify id (fun s => { s with locator := f s.locator }) = c.slots := by
    refine List.ext_getElem? fun id' => ?_
    by_cases hid : id = id'
    · subst hid
      rw [List.getElem?_modify_eq, hs]
      exact congrArg (fun l => some { s with locator := l }) hf
    · rw [List.getElem?_modify_ne _ _ hid]
  rw [modifyLocator, hslots]

theorem locator?_eq (hs : c.slots[id]? = some s) : c.locator? id = some s.locator := by
  rw [locator?, hs]
  rfl

theorem slots_build (hs : c.slots[id]? = some s) (config : LocatorConfig)
    (owner : Event → Script ν) : (c.build config owner).1.slots[id]? = some s := by
  unfold build
  split
  · exact hs
  · exact (List.getElem?_append_left (List.getElem?_eq_some_iff.1 hs).1).trans hs

/-! ## The locator after a step -/

theorem slots_performScript (hs : c.slots[id]? = some s) (caller : Caller) (body : Script ν) :
    (c.performScript caller body).state.slots[id]? = some s := by
  cases body with
  | read datagram next =>
    simp only [performScript]
    split <;> exact hs
  | build config owner next => exact slots_build hs config owner
  | _ => exact hs

theorem slots_carryOut (hs : c.slots[id]? = some s) (judgement : Verdict × List LogRecord) :
    (c.carryOut id s.locator judgement).state.slots[id]? =
      some { s with locator := (s.locator.heed c.clock.order judgement.1).1 } := by
  obtain ⟨v, records⟩ := judgement
  cases v with
  | ignore => exact hs
  | refresh d => exact slots_modifyLocator hs _
  | farewell usn => exact slots_modifyLocator hs _

theorem slots_dispose [UrlParser] (c : ControlPoint ν) (id : LocatorId) (l : Locator) :
    (c.operate id l .dispose).state.slots = (c.modifyLocator id Locator.retire).slots := rfl

theorem slots_drop [UrlParser] (c : ControlPoint ν) (id : LocatorId) (l : Locator) :
    (c.operate id l .drop).state.slots = ((c.modifyLocator id Locator.retire).modifyLocator id
      fun l => { l with dropped := true }).slots := rfl

theorem slots_operate [UrlParser] (hs : c.slots[id]? = some s) (op : Operation) :
    (c.operate id s.locator op).state.slots[id]? =
      some { s with locator := (s.locator.react c.clock op).1 } := by
  cases op with
  | start =>
    simp only [operate, start, Locator.react]
    split
    · exact hs
    · exact slots_modifyLocator hs _
  | stop => exact slots_modifyLocator hs _
  | dispose =>
    rw [slots_dispose]
    exact slots_modifyLocator hs _
  | drop =>
    rw [slots_drop]
    exact slots_modifyLocator (slots_modifyLocator hs _) _
  | searchNow => exact hs
  | tick => exact hs
  | answer e => exact slots_carryOut hs _
  | announcement e =>
    have h := slots_carryOut hs
      (s.locator.judgeAnnouncement (c.link.traces e.localAddress) c.clock.stamp e)
    rwa [Locator.judgeAnnouncement_fst] at h

/-- One change after another to the same locator is one change. -/
theorem modifyLocator_modifyLocator (c : ControlPoint ν) (id : LocatorId)
    (f g : Locator → Locator) :
    (c.modifyLocator id f).modifyLocator id g = c.modifyLocator id fun l => g (f l) := by
  simp only [modifyLocator, List.modify_modify_eq]
  rfl

/-- Carrying out a verdict changes no place but that of the locator. -/
theorem exists_slots_carryOut (c : ControlPoint ν) (id : LocatorId) (l : Locator)
    (judgement : Verdict × List LogRecord) :
    ∃ f, (c.carryOut id l judgement).state.slots = (c.modifyLocator id f).slots := by
  obtain ⟨v, records⟩ := judgement
  cases v with
  | ignore => exact ⟨fun l => l, (List.modify_id _ _).symm⟩
  | refresh d => exact ⟨_, rfl⟩
  | farewell usn => exact ⟨_, rfl⟩

/-- Operating a locator changes no other place. -/
theorem exists_slots_operate [UrlParser] (c : ControlPoint ν) (id : LocatorId) (l : Locator)
    (op : Operation) : ∃ f, (c.operate id l op).state.slots = (c.modifyLocator id f).slots := by
  have same : ∃ f, c.slots = (c.modifyLocator id f).slots :=
    ⟨fun l => l, (List.modify_id _ _).symm⟩
  cases op with
  | start =>
    simp only [operate, start]
    split
    · exact same
    · exact ⟨_, rfl⟩
  | stop => exact ⟨_, rfl⟩
  | dispose => exact ⟨_, slots_dispose c id l⟩
  | drop =>
    rw [slots_drop, modifyLocator_modifyLocator]
    exact ⟨_, rfl⟩
  | searchNow => exact same
  | tick => exact same
  | answer e => exact exists_slots_carryOut c id l _
  | announcement e => exact exists_slots_carryOut c id l _

theorem slots_operate_ne [UrlParser] (hs : c.slots[id]? = some s) {id' : LocatorId} (hne : id' ≠ id)
    (l : Locator) (op : Operation) : (c.operate id' l op).state.slots[id]? = some s := by
  obtain ⟨f, hf⟩ := exists_slots_operate c id' l op
  rw [hf]
  exact slots_modifyLocator_ne hs hne f

/-- What is done with the locator in another place. -/
theorem slots_withLocator_ne (hs : c.slots[id]? = some s) {id' : LocatorId}
    {f : Locator → Outcome ν} (hf : ∀ l, (f l).state.slots[id]? = some s) :
    (c.withLocator id' f).state.slots[id]? = some s := by
  unfold withLocator
  split
  · exact hf _
  · exact hs

/-- After a step the locator in a place is what the task makes of it, and has the
same owner. -/
theorem slots_perform [UrlParser] (hs : c.slots[id]? = some s) (task : Task ν) :
    (c.perform task).state.slots[id]? =
      some { s with locator := (s.locator.undergo id c.clock task).1 } := by
  cases task with
  | script caller body => exact slots_performScript hs caller body
  | deliver e => exact hs
  | take reply =>
    simp only [perform, take]
    split <;> exact hs
  | invoke sub e =>
    obtain ⟨hid, handler⟩ := sub
    cases handler <;> exact hs
  | operate id' op =>
    by_cases hid : id' = id
    · subst hid
      simp only [perform, withLocator, locator?_eq hs, Locator.undergo, true_and]
      cases hd : s.locator.dropped with
      | true => exact hs
      | false => exact slots_operate hs op
    · simp only [Locator.undergo, hid, false_and, if_false]
      refine slots_withLocator_ne hs fun l => ?_
      split
      · exact hs
      · exact slots_operate_ne hs hid l op
  | search id' =>
    by_cases hid : id' = id
    · subst hid
      simp only [perform, withLocator, locator?_eq hs, Locator.undergo, if_true]
      exact slots_modifyLocator hs _
    · simp only [Locator.undergo, hid, if_false]
      exact slots_withLocator_ne hs fun l => slots_modifyLocator_ne hs hid _
  | lose id' cause d => exact hs
  | emit id' event =>
    simp only [perform]
    split
    · split <;> exact hs
    · exact hs
  | broadcast id' =>
    refine slots_withLocator_ne hs fun l => ?_
    simp only [broadcast]
    split <;> exact hs
  | log record => exact hs

/-- A change to a locator builds none. -/
theorem slots_modifyLocator_none (hn : c.slots[id]? = none) (id' : LocatorId)
    (f : Locator → Locator) : (c.modifyLocator id' f).slots[id]? = none := by
  rw [List.getElem?_eq_none_iff] at hn ⊢
  rwa [modifyLocator, List.length_modify]

theorem slots_operate_none [UrlParser] (hn : c.slots[id]? = none) (id' : LocatorId) (l : Locator)
    (op : Operation) : (c.operate id' l op).state.slots[id]? = none := by
  obtain ⟨f, hf⟩ := exists_slots_operate c id' l op
  rw [hf]
  exact slots_modifyLocator_none hn id' f

/-- A locator that was not there before a step has just been built. -/
theorem slots_perform_none [UrlParser] (hn : c.slots[id]? = none) {task : Task ν} {s' : Slot ν}
    (hs' : (c.perform task).state.slots[id]? = some s') :
    ∃ caller config owner next, task = .script caller (.build config owner next) ∧
      config.fault? = none ∧ s' = ⟨.built config c.router.nextId, owner⟩ := by
  have still {o : Outcome ν} (ho : o.state.slots[id]? = none)
      (hsome : o.state.slots[id]? = some s') : False := by
    rw [ho] at hsome
    cases hsome
  have unchanged (hsome : c.slots[id]? = some s') : False := still (o := { state := c }) hn hsome
  have within {id' : LocatorId} {f : Locator → Outcome ν}
      (hf : ∀ l, (f l).state.slots[id]? = none) :
      (c.withLocator id' f).state.slots[id]? = none := by
    unfold withLocator
    split
    · exact hf _
    · exact hn
  cases task with
  | script caller body =>
    cases body with
    | build config owner next =>
      simp only [perform, performScript, Caller.state_catching, build] at hs'
      split at hs'
      · exact (unchanged hs').elim
      · rename_i hfault
        rw [List.getElem?_append_right (List.getElem?_eq_none_iff.1 hn)] at hs'
        obtain ⟨rfl⟩ := List.mem_singleton.1 (List.mem_of_getElem? hs')
        exact ⟨caller, config, owner, next, rfl, hfault, rfl⟩
    | read datagram next =>
      simp only [perform, performScript, Caller.state_catching] at hs'
      split at hs' <;> exact (unchanged hs').elim
    | _ => exact (unchanged hs').elim
  | take reply =>
    simp only [perform, take] at hs'
    split at hs' <;> exact (unchanged hs').elim
  | invoke sub e =>
    obtain ⟨hid, handler⟩ := sub
    cases handler <;> exact (unchanged hs').elim
  | operate id' op =>
    refine (still (within fun l => ?_) hs').elim
    split
    · exact hn
    · exact slots_operate_none hn id' l op
  | search id' => exact (still (within fun l => slots_modifyLocator_none hn _ _) hs').elim
  | emit id' event =>
    simp only [perform] at hs'
    split at hs'
    · split at hs' <;> exact (unchanged hs').elim
    · exact (unchanged hs').elim
  | broadcast id' =>
    refine (still (within fun l => ?_) hs').elim
    simp only [broadcast]
    split <;> exact hn
  | _ => exact (unchanged hs').elim

/-- What is true of a locator that has just been built, and stays true whatever a task
does to it, is true of every locator after a step if it was before. -/
theorem forall_locators_perform [UrlParser] {P : Locator → Prop}
    (hbuilt : ∀ config n, P (.built config n))
    (hundergo : ∀ l id clock, P l → ∀ task : Task ν, P (l.undergo id clock task).1)
    (h : ∀ (id : LocatorId) s, c.slots[id]? = some s → P s.locator) (task : Task ν)
    (id : LocatorId) (s : Slot ν) (hs : (c.perform task).state.slots[id]? = some s) :
    P s.locator := by
  cases hs' : c.slots[id]? with
  | none =>
    obtain ⟨-, config, owner, -, -, -, rfl⟩ := slots_perform_none hs' hs
    exact hbuilt config _
  | some s' =>
    rw [slots_perform hs'] at hs
    obtain ⟨rfl⟩ := Option.some.inj hs
    exact hundergo _ id c.clock (h id s' hs') task

/-- What is true of the owner of a locator that a step builds is true of all owners after
it if it was before. -/
theorem forall_owners_perform [UrlParser] {P : (Event → Script ν) → Prop} {task : Task ν}
    (hbuild : ∀ caller config owner next,
      task = .script caller (.build config owner next) → P owner)
    (h : ∀ (id : LocatorId) s, c.slots[id]? = some s → P s.owner) (id : LocatorId) (s : Slot ν)
    (hs : (c.perform task).state.slots[id]? = some s) : P s.owner := by
  cases hs' : c.slots[id]? with
  | none =>
    obtain ⟨caller, config, owner, next, rfl, -, rfl⟩ := slots_perform_none hs' hs
    exact hbuild caller config owner next rfl
  | some s' =>
    rw [slots_perform hs'] at hs
    obtain ⟨rfl⟩ := Option.some.inj hs
    exact h id s' hs'

end ControlPoint

/-! ## The events of a step -/

section

variable {id : LocatorId} {c : ControlPoint ν} {task : Task ν}

/-- Only a pending event is shown. -/
theorem Shows.eventsOf_eq_nil {journal : List Entry} (h : Shows c task journal)
    (hp : task.pending id = []) : eventsOf id journal = [] := by
  refine List.filterMap_eq_nil_iff.2 fun entry hentry => ?_
  cases entry with
  | emitted id' event =>
    obtain ⟨rfl, -⟩ := h.of_emitted_mem hentry
    have hid : id' ≠ id := by
      rintro rfl
      simp [Task.pending] at hp
    simp [Entry.eventOf?, hid]
  | _ => rfl

/-- Only a task that reports an event of a locator, operates or sweeps it leaves an
event of it. -/
theorem Leaves.pendingEvents_eq_nil {todo : List (Task ν)} (h : Leaves c task todo)
    (hp : task.pending id = []) (hc : task.changes id = false) : pendingEvents id todo = [] := by
  refine pendingEvents_eq_nil_iff.2 fun t ht => ?_
  cases h with
  | refresh id' op event =>
    have hid : id' ≠ id := by simpa [Task.changes] using hc
    simp [List.mem_singleton.1 ht, Task.pending, hid]
  | farewell id' op ds =>
    have hid : id' ≠ id := by simpa [Task.changes] using hc
    obtain ⟨d, -, rfl⟩ := List.mem_map.1 ht
    simp [Task.pending, hid]
  | sweep id' ds =>
    have hid : id' ≠ id := by simpa [Task.changes] using hc
    rcases List.mem_append.1 ht with ht | ht
    · obtain ⟨d, -, rfl⟩ := List.mem_map.1 ht
      simp [Task.pending, hid]
    · rw [List.mem_singleton.1 ht]
      rfl
  | lose id' cause d =>
    have hid : id' ≠ id := by
      rintro rfl
      simp [Task.pending] at hp
    simp [List.mem_singleton.1 ht, Task.pending, hid]
  | dispatch caller e next n =>
    rcases List.mem_append.1 ht with ht | ht
    · obtain ⟨sub, -, rfl⟩ := List.mem_map.1 ht
      rfl
    · rw [List.mem_singleton.1 ht]
      rfl
  | deliver e =>
    obtain ⟨sub, -, rfl⟩ := List.mem_map.1 ht
    rfl
  | broadcast id' replies record =>
    rcases List.mem_append.1 ht with ht | ht
    · obtain ⟨reply, -, rfl⟩ := List.mem_map.1 ht
      rfl
    · rw [List.mem_singleton.1 ht]
      rfl
  | operate caller id' op next =>
    rcases List.mem_cons.1 ht with rfl | ht
    · rfl
    · rw [List.mem_singleton.1 ht]
      rfl
  | nothing => cases ht
  | _ =>
    rw [List.mem_singleton.1 ht]
    rfl

end

namespace ControlPoint

variable {id : LocatorId} {c : ControlPoint ν} {s : Slot ν}

/-- A task that neither reports an event of a locator nor changes it leads to no
event of it. -/
theorem events_perform_of_not_changes [UrlParser] {task : Task ν} (hp : task.pending id = [])
    (hc : task.changes id = true → c.slots[id]? = none) :
    eventsOf id (c.perform task).journal = [] ∧ pendingEvents id (c.perform task).todo = [] := by
  refine ⟨(shows_perform c task).eventsOf_eq_nil hp, ?_⟩
  cases hchanges : task.changes id with
  | false => exact (leaves_perform c task).pendingEvents_eq_nil hp hchanges
  | true =>
    have hnone : c.locator? id = none := by
      rw [locator?, hc hchanges]
      rfl
    cases task with
    | operate id' op =>
      obtain rfl : id' = id := by simpa [Task.changes] using hchanges
      simp [perform, withLocator, hnone]
    | search id' =>
      obtain rfl : id' = id := by simpa [Task.changes] using hchanges
      simp [perform, withLocator, hnone]
    | _ => cases hchanges

theorem pendingEvents_carryOut (c : ControlPoint ν) (id : LocatorId) (l : Locator)
    (judgement : Verdict × List LogRecord) :
    pendingEvents id (c.carryOut id l judgement).todo =
      (l.heed c.clock.order judgement.1).2 := by
  obtain ⟨v, records⟩ := judgement
  cases v with
  | ignore => rfl
  | refresh d => simp [carryOut, Locator.heed, Task.pending]
  | farewell usn => exact (pendingEvents_lose _ _ _).trans (if_pos rfl)

theorem pendingEvents_operate [UrlParser] (c : ControlPoint ν) (id : LocatorId) (l : Locator)
    (op : Operation) :
    pendingEvents id (c.operate id l op).todo = (l.react c.clock op).2 := by
  cases op with
  | start =>
    simp only [operate, start]
    split <;> rfl
  | searchNow =>
    simp only [operate]
    split <;> rfl
  | tick =>
    simp only [operate]
    split <;> rfl
  | answer e => exact pendingEvents_carryOut c id l _
  | announcement e =>
    have h := pendingEvents_carryOut c id l
      (l.judgeAnnouncement (c.link.traces e.localAddress) c.clock.stamp e)
    rwa [Locator.judgeAnnouncement_fst] at h
  | _ => rfl

theorem pendingEvents_search (c : ControlPoint ν) (id : LocatorId) (l : Locator) :
    pendingEvents id (c.search id l).todo = (l.sweep c.clock).2 := by
  simp only [search, pendingEvents_append, pendingEvents_lose, if_true, Locator.sweep, Locator.lose]
  simp [Task.pending]

/-- What was pending and what a task leads to is shown at once or pending after it,
in this order, unless the locator is disposed. -/
theorem events_perform [UrlParser] (hs : c.slots[id]? = some s) {task : Task ν}
    (hd : s.locator.disposed = true → task.pending id = []) :
    eventsOf id (c.perform task).journal ++ pendingEvents id (c.perform task).todo =
      task.pending id ++ (s.locator.undergo id c.clock task).2 := by
  cases hc : task.changes id with
  | true =>
    have hp : task.pending id = [] := by
      cases task <;> first | rfl | cases hc
    rw [(shows_perform c task).eventsOf_eq_nil hp, hp, List.nil_append, List.nil_append]
    cases task with
    | operate id' op =>
      obtain rfl : id' = id := by simpa [Task.changes] using hc
      simp only [perform, withLocator, locator?_eq hs, Locator.undergo, true_and]
      cases s.locator.dropped with
      | true => rfl
      | false => exact pendingEvents_operate c id' s.locator op
    | search id' =>
      obtain rfl : id' = id := by simpa [Task.changes] using hc
      simp only [perform, withLocator, locator?_eq hs, Locator.undergo, if_true]
      exact pendingEvents_search c id' s.locator
    | _ => cases hc
  | false =>
    rw [Locator.undergo_of_not_changes hc, List.append_nil]
    by_cases hp : task.pending id = []
    · rw [(shows_perform c task).eventsOf_eq_nil hp,
        (leaves_perform c task).pendingEvents_eq_nil hp hc, hp, List.append_nil]
    · cases task with
      | lose id' cause d =>
        have hid : id' = id :=
          Decidable.byContradiction fun hid => hp (by simp [Task.pending, hid])
        simp [hid, perform, Task.pending, eventsOf, Entry.eventOf?]
      | emit id' event =>
        have hid : id' = id :=
          Decidable.byContradiction fun hid => hp (by simp [Task.pending, hid])
        have hd' : s.locator.disposed = false := Bool.eq_false_iff.2 fun ht => hp (hd ht)
        simp [hid, perform, hs, hd', Task.pending, eventsOf, Entry.eventOf?]
      | _ => exact absurd rfl hp

/-- Whether the locator is disposed or not, nothing else is shown or pending. -/
theorem events_perform_sublist [UrlParser] (hs : c.slots[id]? = some s) (task : Task ν) :
    (eventsOf id (c.perform task).journal ++ pendingEvents id (c.perform task).todo).Sublist
      (task.pending id ++ (s.locator.undergo id c.clock task).2) := by
  by_cases hp : s.locator.disposed = true → task.pending id = []
  · rw [events_perform hs hp]
  · obtain ⟨hd, hp⟩ := Classical.not_imp.1 hp
    cases task with
    | lose id' cause d =>
      simp [perform, Task.pending, Locator.undergo, eventsOf, Entry.eventOf?]
    | emit id' event =>
      have hid : id' = id :=
        Decidable.byContradiction fun hid => hp (by simp [Task.pending, hid])
      simp [perform, hid, hs, hd, eventsOf]
    | _ => exact absurd rfl hp

end ControlPoint

end Ssdp
