import Mathlib.Data.List.Forall2
import Ssdp.Proofs.ControlPoint.Ledger
import Ssdp.Proofs.ControlPoint.Trace

/-!
# A failing network

Whether a search gets through makes a difference to nothing but what is sent. Of two runs at
the same times, one in which some searches fail and one in which others do, each does what
the other does, step by step: the only step that one of them has and the other has not is the
one that puts on record on how many interfaces a search was sent.

* `Task.isRecord`, `work`, `worked`: the tasks and the steps without such records;
* `Traced.of_worked_nil`, `Traced.of_worked_cons`: records are put down without further ado;
* `Moment`, `Scheduled`: what each step finds, however searches fare;
* `ControlPoint.perform_pairs`: one step, with and without the search getting through;
* `Traced.unshaken`, `Traced.exists_rerun`: whole runs;
* `outages_unnoticed`: what a failing network does not change.
-/

namespace Ssdp

variable {ν : Type}

section

/-! ## Steps without records -/

/-- Whether the task does no more than to put something on record. -/
def Task.isRecord : Task ν → Bool
  | .log _ => true
  | _ => false

/-- The tasks that do more than to put something on record. -/
def work (tasks : List (Task ν)) : List (Task ν) :=
  tasks.filter fun task => !task.isRecord

/-- The steps that do more than to put something on record. -/
def worked (steps : List (Step ν)) : List (Step ν) :=
  steps.filter fun step => !step.task.isRecord

variable [UrlParser]

omit [UrlParser] in
theorem work_append (tasks more : List (Task ν)) : work (tasks ++ more) = work tasks ++ work more :=
  List.filter_append ..

omit [UrlParser] in
theorem worked_append (steps more : List (Step ν)) :
    worked (steps ++ more) = worked steps ++ worked more :=
  List.filter_append ..

omit [UrlParser] in
theorem work_cons {task : Task ν} (h : task.isRecord = false) (rest : List (Task ν)) :
    work (task :: rest) = task :: work rest :=
  List.filter_cons_of_pos (by simp [h])

omit [UrlParser] in
theorem worked_cons {step : Step ν} (h : step.task.isRecord = false) (rest : List (Step ν)) :
    worked (step :: rest) = step :: worked rest :=
  List.filter_cons_of_pos (by simp [h])

omit [UrlParser] in
theorem Task.eq_log_of_isRecord {task : Task ν} (h : task.isRecord = true) :
    ∃ record, task = .log record := by
  cases task with
  | log record => exact ⟨record, rfl⟩
  | _ => cases h

namespace Traced

variable {c₀ c : ControlPoint ν} {tasks left : List (Task ν)} {first : Step ν}
  {steps later : List (Step ν)}

/-- Where only records are put down, nothing changes. -/
theorem of_worked_nil (h : Traced c₀ tasks steps c left) (hw : worked steps = []) :
    work left = work tasks ∧ ∃ clock link, c = { c₀ with clock, link } := by
  induction steps generalizing c₀ tasks with
  | nil =>
    obtain ⟨rfl, hc⟩ := h.of_no_steps
    exact ⟨rfl, hc⟩
  | cons step steps ih =>
    obtain ⟨task, rest, clock, link, rfl, rfl, hlater⟩ := h.of_cons
    cases hrecord : task.isRecord with
    | true =>
      obtain ⟨record, rfl⟩ := Task.eq_log_of_isRecord hrecord
      obtain ⟨hleft, clock', link', rfl⟩ := ih hlater hw
      exact ⟨hleft, clock', link', rfl⟩
    | false =>
      rw [worked_cons hrecord] at hw
      cases hw

/-- Before the first step that does more, only records are put down. -/
theorem of_worked_cons (h : Traced c₀ tasks steps c left) (hw : worked steps = first :: later) :
    ∃ task rest clock link more, work tasks = task :: work rest ∧
      first = ⟨{ c₀ with clock, link }, task⟩ ∧
      Traced first.outcome.state (first.outcome.todo ++ rest) more c left ∧
      worked more = later := by
  induction steps generalizing c₀ tasks with
  | nil => cases hw
  | cons step steps ih =>
    obtain ⟨task, rest, clock, link, rfl, rfl, hlater⟩ := h.of_cons
    cases hrecord : task.isRecord with
    | true =>
      obtain ⟨record, rfl⟩ := Task.eq_log_of_isRecord hrecord
      have hrest : Traced { c₀ with clock, link } rest steps c left := hlater
      obtain ⟨task, rest', clock', link', more, hwork, hfirst, hmore, hlater⟩ :=
        ih ((turn_iff clock link).1 hrest) hw
      exact ⟨task, rest', clock', link', more, hwork, hfirst, hmore, hlater⟩
    | false =>
      rw [worked_cons hrecord] at hw
      obtain ⟨rfl, rfl⟩ := List.cons.inj hw
      exact ⟨task, rest, clock, link, steps, work_cons hrecord rest, rfl, hlater, rfl⟩

/-- Records can be put down at once. -/
theorem of_records {pre : List (Task ν)} (h : work pre = []) (rest : List (Task ν)) :
    ∃ steps, Traced c (pre ++ rest) steps c rest ∧ worked steps = [] := by
  induction pre with
  | nil => exact ⟨[], .start, rfl⟩
  | cons task pre ih =>
    cases hrecord : task.isRecord with
    | true =>
      obtain ⟨record, rfl⟩ := Task.eq_log_of_isRecord hrecord
      obtain ⟨steps, hsteps, hworked⟩ := ih h
      have hfirst : Traced c (.log record :: (pre ++ rest)) [⟨c, .log record⟩] c (pre ++ rest) :=
        .perform .start
      exact ⟨_, hfirst.trans hsteps, hworked⟩
    | false =>
      rw [work_cons hrecord] at h
      cases h

/-- The first task that does more can be performed, the records before it being put down. -/
theorem exists_first {task : Task ν} {more : List (Task ν)} (h : work tasks = task :: more)
    (clock : Conditions) (link : Link) :
    let first : Step ν := ⟨{ c with clock, link }, task⟩
    ∃ steps rest, work rest = more ∧ worked steps = [first] ∧
      Traced c tasks steps first.outcome.state (first.outcome.todo ++ rest) := by
  intro first
  obtain ⟨pre, rest, rfl, hpre, hwork, hrest⟩ := List.filter_eq_cons_iff.1 h
  obtain ⟨before, hbefore, hnone⟩ :=
    of_records (c := c) (List.filter_eq_nil_iff.2 hpre) (task :: rest)
  refine ⟨before ++ [first], rest, hrest, ?_, (hbefore.turn clock link).perform⟩
  rw [worked_append, hnone, worked_cons (by simpa using hwork)]
  rfl

end Traced

/-! ## One step -/

/-- What a step finds that has no part in sending searches: the time, and the addresses for
which announcements are traced. -/
structure Moment where
  clock : Conditions
  traces : Address → Bool

/-- The step takes place at this moment, and no search of it gets a reply at once. -/
structure Step.Finds (step : Step ν) (moment : Moment) : Prop where
  clock : step.state.clock = moment.clock
  traces : step.state.link.traces = moment.traces
  replies : step.state.link.replies = []

/-- The second step performs the same task in the same state, over another link. -/
structure Step.Same (step step' : Step ν) : Prop where
  task : step'.task = step.task
  state : step'.state = step.state.withLink step'.state.link

/-- The second run shows the same, or that a search failed which was sent in the first run, or
the other way round. -/
inductive Entry.Pairs : Entry → Entry → Prop
  | same (entry : Entry) : Pairs entry entry
  | failed (id : LocatorId) (message : Message) :
    Pairs (.sent id message) (.logged (.searchFailed .noInterfaceSent))
  | sent (id : LocatorId) (message : Message) :
    Pairs (.logged (.searchFailed .noInterfaceSent)) (.sent id message)

omit [UrlParser] in
theorem forall₂_pairs_same (journal : List Entry) : List.Forall₂ Entry.Pairs journal journal :=
  List.forall₂_same.2 fun entry _ => .same entry

/-- A step leads to the same over another link, and leaves the same work to be done. -/
structure Outcome.Pairs (o o' : Outcome ν) : Prop where
  state : ∃ link, o'.state = o.state.withLink link
  todo : work o'.todo = work o.todo
  journal : List.Forall₂ Entry.Pairs o.journal o'.journal

namespace ControlPoint

variable {c : ControlPoint ν} {link : Link}

/-- A search that fails leaves the same as one that gets through, with no reply. -/
theorem broadcast_pairs (hc : c.link.replies = []) (h : link.replies = []) (id : LocatorId) :
    (c.perform (.broadcast id)).Pairs ((c.withLink link).perform (.broadcast id)) := by
  have hlocator : (c.withLink link).locator? id = c.locator? id := rfl
  have hlink : (c.withLink link).link = link := rfl
  have hattempts : (c.withLink link).attempts = c.attempts := rfl
  simp only [perform, withLocator, hlocator]
  cases c.locator? id with
  | none => exact ⟨⟨link, rfl⟩, rfl, .nil⟩
  | some l =>
    simp only [broadcast, hlink, hattempts]
    by_cases hsent : c.link.works c.attempts = true <;>
      by_cases hsent' : link.works c.attempts = true <;>
      simp only [hsent, hsent', if_true, if_false, hc, h, Bool.false_eq_true]
    · exact ⟨⟨link, rfl⟩, rfl, forall₂_pairs_same _⟩
    · exact ⟨⟨link, rfl⟩, rfl, .cons (.failed id _) .nil⟩
    · exact ⟨⟨link, rfl⟩, rfl, .cons (.sent id _) .nil⟩
    · exact ⟨⟨link, rfl⟩, rfl, forall₂_pairs_same _⟩

/-- Whatever becomes of the searches, a step leads to the same. -/
theorem perform_pairs (htraces : link.traces = c.link.traces) (hc : c.link.replies = [])
    (h : link.replies = []) (task : Task ν) :
    (c.perform task).Pairs ((c.withLink link).perform task) := by
  by_cases hsearch : ∃ id, task = .broadcast id
  · obtain ⟨id, rfl⟩ := hsearch
    exact broadcast_pairs hc h id
  · rw [perform_withLink htraces fun id hid => hsearch ⟨id, hid⟩]
    exact ⟨⟨link, rfl⟩, rfl, forall₂_pairs_same _⟩

end ControlPoint

/-- Two steps at the same moment lead to the same. -/
theorem Step.Same.outcome {step step' : Step ν} {moment : Moment} (h : step.Same step')
    (hfinds : step.Finds moment) (hfinds' : step'.Finds moment) :
    step.outcome.Pairs step'.outcome := by
  have htraces : step'.state.link.traces = step.state.link.traces :=
    hfinds'.traces.trans hfinds.traces.symm
  rw [Step.outcome, Step.outcome, h.task, h.state]
  exact ControlPoint.perform_pairs htraces hfinds.replies hfinds'.replies step.task

omit [UrlParser] in
theorem Outcome.Pairs.work_todo_append {o o' : Outcome ν} (h : o.Pairs o')
    {rest rest' : List (Task ν)} (hrest : work rest' = work rest) :
    work (o'.todo ++ rest') = work (o.todo ++ rest) := by
  rw [work_append, work_append, h.todo, hrest]

/-! ## Runs -/

/-- Each step takes place at the moment that is set for it. -/
def Scheduled (moments : Nat → Moment) (steps : List (Step ν)) : Prop :=
  ∀ (i : Nat) (step : Step ν), steps[i]? = some step → step.Finds (moments i)

omit [UrlParser] in
theorem scheduled_cons {moments : Nat → Moment} {first : Step ν} {later : List (Step ν)} :
    Scheduled moments (first :: later) ↔
      first.Finds (moments 0) ∧ Scheduled (fun i => moments (i + 1)) later := by
  constructor
  · exact fun h => ⟨h 0 first rfl, fun i step hi => h (i + 1) step hi⟩
  · rintro ⟨hfirst, hlater⟩ (_ | i) step hi
    · obtain rfl := Option.some.inj hi
      exact hfirst
    · exact hlater i step hi

namespace Traced

variable {moments : Nat → Moment} {c₀ c c' : ControlPoint ν}
  {tasks tasks' left left' : List (Task ν)} {steps steps' : List (Step ν)}

/-- Runs that work off the same at the same moments do the same, step by step, as far as they
go and to their ends. -/
theorem unshaken (h : Traced c₀ tasks steps c left) (h' : Traced c₀ tasks' steps' c' left')
    (htasks : work tasks' = work tasks) (hs : Scheduled moments (worked steps))
    (hs' : Scheduled moments (worked steps'))
    (hlength : (worked steps').length = (worked steps).length ∨ left = [] ∧ left' = []) :
    List.Forall₂ Step.Same (worked steps) (worked steps') ∧ work left' = work left ∧
      ∃ clock link, c' = { c with clock, link } := by
  induction hw : worked steps generalizing c₀ tasks tasks' steps steps' moments with
  | nil =>
    obtain ⟨hleft, clock, link, rfl⟩ := h.of_worked_nil hw
    cases hw' : worked steps' with
    | nil =>
      obtain ⟨hleft', clock', link', rfl⟩ := h'.of_worked_nil hw'
      exact ⟨.nil, by rw [hleft, hleft', htasks], clock', link', rfl⟩
    | cons first' later' =>
      obtain ⟨task, rest, -, -, -, htask, -⟩ := h'.of_worked_cons hw'
      rw [hw, hw'] at hlength
      rcases hlength with hlength | ⟨rfl, -⟩
      · cases hlength
      · rw [htasks, ← hleft] at htask
        cases htask
  | cons first later ih =>
    obtain ⟨task, rest, clock, link, more, htask, rfl, hmore, hlater⟩ := h.of_worked_cons hw
    cases hw' : worked steps' with
    | nil =>
      obtain ⟨hleft', -⟩ := h'.of_worked_nil hw'
      rw [hw, hw'] at hlength
      rcases hlength with hlength | ⟨-, rfl⟩
      · cases hlength
      · rw [htasks, htask] at hleft'
        cases hleft'
    | cons first' later' =>
      obtain ⟨task', rest', clock', link', more', htask', rfl, hmore', hlater'⟩ :=
        h'.of_worked_cons hw'
      obtain ⟨rfl, hrest⟩ := List.cons.inj (htask'.symm.trans (htasks.trans htask))
      rw [hw] at hs
      rw [hw'] at hs'
      obtain ⟨hfinds, hafter⟩ := scheduled_cons.1 hs
      obtain ⟨hfinds', hafter'⟩ := scheduled_cons.1 hs'
      obtain rfl : clock' = clock := hfinds'.clock.trans hfinds.clock.symm
      have hsame : Step.Same ⟨{ c₀ with clock := clock', link }, task'⟩
          ⟨{ c₀ with clock := clock', link := link' }, task'⟩ := ⟨rfl, rfl⟩
      have hpairs := hsame.outcome hfinds hfinds'
      obtain ⟨link'', hstate⟩ := hpairs.state
      rw [hstate] at hmore'
      rw [hw, hw'] at hlength
      rw [← hlater] at hafter hlength
      rw [← hlater'] at hafter' hlength ⊢
      obtain ⟨hsteps, hleft, hc⟩ := ih hmore ((turn_iff _ link'').1 hmore')
        (hpairs.work_todo_append hrest) hafter hafter' (hlength.imp_left Nat.succ.inj) hlater
      exact ⟨.cons hsame hsteps, hleft, hc⟩

/-- A run can be taken again, over whatever links; if it came to its end, so does the other. -/
theorem exists_rerun (h : Traced c₀ tasks steps c left) (htasks : work tasks' = work tasks)
    (hs : Scheduled moments (worked steps)) {links : Nat → Link}
    (hlinks : ∀ i, (links i).traces = (moments i).traces ∧ (links i).replies = []) :
    ∃ steps' c' left', Traced c₀ tasks' steps' c' left' ∧ Scheduled moments (worked steps') ∧
      (worked steps').length = (worked steps).length ∧
      (∀ (i : Nat) (step : Step ν), (worked steps')[i]? = some step → step.state.link = links i) ∧
      (left = [] → left' = []) := by
  induction hw : worked steps generalizing c₀ tasks tasks' steps moments links with
  | nil =>
    obtain ⟨hleft, -⟩ := h.of_worked_nil hw
    by_cases hend : left = []
    · have hrecords : work tasks' = [] := by
        rw [htasks, ← hleft, hend]
        rfl
      obtain ⟨steps', hsteps', hworked⟩ := of_records (c := c₀) hrecords []
      rw [List.append_nil] at hsteps'
      refine ⟨steps', c₀, [], hsteps', ?_, by rw [hworked], ?_, fun _ => rfl⟩ <;>
        simp [hworked, Scheduled]
    · exact ⟨[], c₀, tasks', .start, by simp [worked, Scheduled], rfl, by simp [worked],
        fun hnil => absurd hnil hend⟩
  | cons first later ih =>
    obtain ⟨task, rest, clock, link, more, htask, rfl, hmore, hlater⟩ := h.of_worked_cons hw
    rw [hw] at hs
    obtain ⟨hfinds, hafter⟩ := scheduled_cons.1 hs
    obtain ⟨before, rest', hrest, hworked, hbefore⟩ :=
      exists_first (c := c₀) (htasks.trans htask) clock (links 0)
    have hfinds' : Step.Finds ⟨{ c₀ with clock, link := links 0 }, task⟩ (moments 0) :=
      ⟨hfinds.clock, (hlinks 0).1, (hlinks 0).2⟩
    have hsame : Step.Same ⟨{ c₀ with clock, link }, task⟩
        ⟨{ c₀ with clock, link := links 0 }, task⟩ := ⟨rfl, rfl⟩
    have hpairs := hsame.outcome hfinds hfinds'
    obtain ⟨link', hstate⟩ := hpairs.state
    rw [hstate] at hbefore
    rw [← hlater] at hafter
    obtain ⟨after, c', left', hafter', hs', hlength, hfound, hend⟩ :=
      ih hmore (hpairs.work_todo_append hrest) hafter (fun i => hlinks (i + 1)) hlater
    have hrun := hbefore.trans ((turn_iff _ link').2 hafter')
    have hall : worked (before ++ after) =
        ⟨{ c₀ with clock, link := links 0 }, task⟩ :: worked after := by
      rw [worked_append, hworked]
      rfl
    refine ⟨_, c', left', hrun, ?_, ?_, ?_, hend⟩
    · rw [hall]
      exact scheduled_cons.2 ⟨hfinds', hs'⟩
    · rw [hall, List.length_cons, List.length_cons, hlength]
    · rw [hall]
      rintro (_ | i) step hi
      · obtain rfl := Option.some.inj hi
        rfl
      · exact hfound i step hi

end Traced

/-! ## What is shown -/

section

variable {moments : Nat → Moment} {steps steps' : List (Step ν)}

/-- The same steps show the same, but for searches that fail in the one run. -/
theorem shownBy_pairs (h : List.Forall₂ Step.Same steps steps') (hs : Scheduled moments steps)
    (hs' : Scheduled moments steps') :
    List.Forall₂ Entry.Pairs (shownBy steps) (shownBy steps') := by
  induction h generalizing moments with
  | nil => exact .nil
  | cons hfirst _ ih =>
    obtain ⟨hfinds, hafter⟩ := scheduled_cons.1 hs
    obtain ⟨hfinds', hafter'⟩ := scheduled_cons.1 hs'
    rw [shownBy_cons, shownBy_cons]
    exact List.rel_append (hfirst.outcome hfinds hfinds').journal (ih hafter hafter')

omit [UrlParser] in
/-- Such differences are no events. -/
theorem eventsOf_pairs {journal journal' : List Entry}
    (h : List.Forall₂ Entry.Pairs journal journal') (id : LocatorId) :
    eventsOf id journal' = eventsOf id journal := by
  induction h with
  | nil => rfl
  | cons hentry _ ih =>
    cases hentry with
    | same =>
      simp only [eventsOf, List.filterMap_cons] at ih ⊢
      rw [ih]
    | _ => exact ih

/-- The steps that put down records show no events. -/
theorem eventsOf_worked (id : LocatorId) (steps : List (Step ν)) :
    eventsOf id (shownBy (worked steps)) = eventsOf id (shownBy steps) := by
  induction steps with
  | nil => rfl
  | cons step rest ih =>
    obtain ⟨c, task⟩ := step
    rw [shownBy_cons, eventsOf_append, ← ih]
    cases hrecord : task.isRecord with
    | true =>
      obtain ⟨record, rfl⟩ := Task.eq_log_of_isRecord hrecord
      rfl
    | false =>
      rw [worked_cons hrecord, shownBy_cons, eventsOf_append]

end

/-! ## Outages -/

/-- A failing network changes nothing but what is sent. Let a run work off some tasks, with
whatever locators, owners and other code: code may call back and may panic. Let a moment be
set for each step, apart from those that put down on how many interfaces a search was sent;
and let no search get a reply at once.

* The run can be taken again at these moments, with other searches getting through at each
  step, and comes to its end if the first one did.
* Take any two such runs, whichever searches get through in either. At their ends they have
  taken as many steps. And whenever they have taken as many, then each step of the one has
  performed the task that the step of the other has, in the same state but for the link; and
  their states after it, with all caches, flags, timers, notes and subscriptions, are the same
  but for the clock and the link, and so is what is left to be done. They have shown the same,
  but where a search was sent in the one the other may have put down that it failed: what both
  have sent is the same, and all owners have been told the same events in the same order. -/
theorem outages_unnoticed {moments : Nat → Moment} {c₀ c : ControlPoint ν}
    {tasks left : List (Task ν)} {steps : List (Step ν)} (h : Traced c₀ tasks steps c left)
    (hs : Scheduled moments (worked steps)) :
    (∀ links : Nat → Link,
      (∀ i, (links i).traces = (moments i).traces ∧ (links i).replies = []) →
      ∃ steps' c' left', Traced c₀ tasks steps' c' left' ∧ Scheduled moments (worked steps') ∧
        (worked steps').length = (worked steps).length ∧
        (∀ (i : Nat) (step : Step ν), (worked steps')[i]? = some step →
          step.state.link = links i) ∧
        (left = [] → left' = [])) ∧
    ∀ {c' : ControlPoint ν} {left' : List (Task ν)} {steps' : List (Step ν)},
      Traced c₀ tasks steps' c' left' → Scheduled moments (worked steps') →
      (left = [] → left' = [] → (worked steps').length = (worked steps).length) ∧
      ((worked steps').length = (worked steps).length →
        List.Forall₂ Step.Same (worked steps) (worked steps') ∧
        (∃ clock link, c' = { c with clock, link }) ∧ work left' = work left ∧
        List.Forall₂ Entry.Pairs (shownBy (worked steps)) (shownBy (worked steps')) ∧
        ∀ id, eventsOf id (shownBy steps') = eventsOf id (shownBy steps)) := by
  refine ⟨fun links hlinks => h.exists_rerun rfl hs hlinks, fun h' hs' => ⟨?_, ?_⟩⟩
  · intro hend hend'
    obtain ⟨hsteps, -⟩ := h.unshaken h' rfl hs hs' (.inr ⟨hend, hend'⟩)
    exact hsteps.length_eq.symm
  · intro hlength
    obtain ⟨hsteps, hleft, hc⟩ := h.unshaken h' rfl hs hs' (.inl hlength)
    have hshown := shownBy_pairs hsteps hs hs'
    refine ⟨hsteps, hc, hleft, hshown, fun id => ?_⟩
    rw [← eventsOf_worked, eventsOf_pairs hshown, eventsOf_worked]

/-- The steps of a run without replies take place at the same moment. -/
theorem scheduled_run {c : ControlPoint ν} (h : c.link.replies = []) (n : Nat)
    (tasks : List (Task ν)) :
    Scheduled (fun _ => ⟨c.clock, c.link.traces⟩) (worked (c.steps n tasks)) := by
  intro i step hi
  have hmem : step ∈ c.steps n tasks := (List.mem_filter.1 (List.mem_of_getElem? hi)).1
  obtain ⟨hclock, hlink⟩ := c.surroundings_steps n tasks step hmem
  exact ⟨hclock, congrArg Link.traces hlink, (congrArg Link.replies hlink).trans h⟩

end

/-- A clock by which devices have expired as soon as they are heard of, and a link over which
some searches get through. -/
def overLink (works : Nat → Bool) : ControlPoint Unit where
  notes := ()
  clock := { sweep := (Instant.ofParts? 1000 0).getD .origin }
  link := { works }

/-- A device is found, and a search is asked for by an owner that panics at every event; the
timer ticks and the locator is disposed of. -/
def patrol : List (Task Unit) :=
  [.script .program <| .build .forAll
      (fun event => if event.isNew then .operate 0 .searchNow (.panic .wordless)
        else .panic .wordless)
      fun _ => .done,
    .operate 0 .start, .deliver (announcementWith "ssdp:alive".toList), .operate 0 .tick,
    .operate 0 .dispose]

attribute [local instance] UrlParser.verbatim

/-- The device is found and lost, whether both searches get through or only the second one. -/
theorem patrol_unnoticed :
    let steps := (overLink fun _ => true).steps 60 patrol
    let steps' := (overLink (· == 1)).steps 60 patrol
    (((shownBy steps).filterMap Entry.sent?).length = 2 ∧
      ((shownBy steps').filterMap Entry.sent?).length = 1) ∧
    (eventsOf 0 (shownBy steps)).map Event.isNew = [true, false] ∧
    eventsOf 0 (shownBy steps') = eventsOf 0 (shownBy steps) ∧
    List.Forall₂ Entry.Pairs (shownBy (worked steps)) (shownBy (worked steps')) := by
  intro steps steps'
  have hrun := traced_run (overLink fun _ => true) 60 patrol
  have hrun' : Traced (overLink fun _ => true) patrol steps' _ _ :=
    (Traced.turn_iff (overLink (· == 1)).clock (overLink (· == 1)).link).1
      (traced_run (overLink (· == 1)) 60 patrol)
  obtain ⟨-, hsame⟩ := outages_unnoticed hrun (scheduled_run rfl 60 patrol)
  obtain ⟨hlength, hrest⟩ := hsame hrun' (scheduled_run rfl 60 patrol)
  obtain ⟨-, -, -, hshown, hevents⟩ :=
    hrest (hlength (by decide +kernel) (by decide +kernel))
  exact ⟨by decide +kernel, by decide +kernel, hevents 0, hshown⟩

end Ssdp
