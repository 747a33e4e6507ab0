import Ssdp.Proofs.ControlPoint.Composure
import Ssdp.Proofs.ControlPoint.Legitimacy
import Ssdp.Proofs.ControlPoint.Searching
import Ssdp.Proofs.Locator.Lifecycle

/-!
# Answers that are not listened to

A locator takes answers to searches only while it is listening: from when it is started
until it is stopped or disposed of, and never if it does not search by itself. Any other
answer may as well not have come. Announcements are heard at any time.

* `Step.isUnheard`, `perform_of_unheard`: an answer on its way to a locator that does not
  listen, and what becomes of it;
* `TracedDeaf`, `Traced.deaf`: tasks are worked off without such answers, in the same steps
  otherwise;
* `Traced.without_request`: an answer that was asked for from outside may be left out of
  what was asked for;
* `perform_announcement_withFlags`: an announcement is heard alike by one that listens and one
  that does not;
* `Traced.countP_sent_le`: the searches of a locator whose timer does nothing;
* `answers_count_while_listening`: what answers and searches amount to in a whole run.
-/

namespace Ssdp

variable {ν : Type}

section

/-! ## Answers on their way -/

/-- Whether the locator in a place takes answers. -/
def ControlPoint.listens (c : ControlPoint ν) (id : LocatorId) : Bool :=
  (c.locator? id).any fun l => l.listening && !l.disposed

/-- Whether the handler is the one that the locator in a place has for answers. -/
def Subscriber.takesAnswers (id : LocatorId) : Subscriber ν → Bool
  | .answers place => place = id
  | _ => false

/-- Whether a message is an answer, and would be handed to the locator in a place alone. -/
def ControlPoint.answersOnly (c : ControlPoint ν) (id : LocatorId) (e : Received) : Bool :=
  e.routeKey = responseStartLine &&
    (c.router.subscriptions e.routeKey).all (·.handler.takesAnswers id)

/-- Whether the task is an answer on its way to the locator in a place, and to nobody else:
it may be a reply that is taken, a message that is delivered, a handler that is invoked, or
an answer that is handed over. -/
def Task.answers (c : ControlPoint ν) (id : LocatorId) : Task ν → Bool
  | .take reply => reply.read?.any fun reading => c.answersOnly id reading.1
  | .deliver e => c.answersOnly id e
  | .invoke s _ => s.handler.takesAnswers id
  | .operate place (.answer _) => place = id
  | _ => false

/-- Whether the step is an answer on its way to the locator in a place while that does not
take any. -/
def Step.isUnheard (id : LocatorId) (step : Step ν) : Bool :=
  !step.state.listens id && step.task.answers step.state id

variable [UrlParser]

section

variable {c : ControlPoint ν} {id : LocatorId} {task : Task ν}

omit [UrlParser] in
theorem listens_eq_false_iff : c.listens id = false ↔
    ∀ l, c.locator? id = some l → (!l.listening || l.disposed) = true := by
  rw [ControlPoint.listens]
  cases c.locator? id with
  | none => simp
  | some l => cases hl : l.listening <;> simp [hl]

/-- An answer that is not listened to does nothing. -/
theorem perform_answer_of_not_listens (h : c.listens id = false) (e : Received) :
    c.perform (.operate id (.answer e)) = ⟨c, [], [], none⟩ := by
  simp only [ControlPoint.perform, ControlPoint.withLocator]
  cases hl : c.locator? id with
  | none => rfl
  | some l =>
    by_cases hd : l.dropped = true
    · simp only [hd, if_true]
    · simp only [hd, Bool.false_eq_true, if_false, ControlPoint.operate, Locator.judgeAnswer,
        listens_eq_false_iff.1 h l hl, if_true]
      rfl

/-- Neither does a tick. -/
theorem perform_tick_of_not_listens (h : c.listens id = false) :
    c.perform (.operate id .tick) = ⟨c, [], [], none⟩ := by
  simp only [ControlPoint.perform, ControlPoint.withLocator]
  cases hl : c.locator? id with
  | none => rfl
  | some l =>
    have hidle : (l.disposed || !l.listening) = true := by
      rw [Bool.or_comm]
      exact listens_eq_false_iff.1 h l hl
    by_cases hd : l.dropped = true
    · simp only [hd, if_true]
    · simp only [hd, Bool.false_eq_true, if_false, ControlPoint.operate, hidle, if_true]

/-- A locator that does not search by itself is not started. -/
theorem perform_start_of_passive
    (h : ∀ l, c.locator? id = some l → l.config.activeSearch = false) :
    c.perform (.operate id .start) = ⟨c, [], [], none⟩ := by
  simp only [ControlPoint.perform, ControlPoint.withLocator]
  cases hl : c.locator? id with
  | none => rfl
  | some l =>
    by_cases hd : l.dropped = true
    · simp only [hd, if_true]
    · simp only [hd, Bool.false_eq_true, if_false, ControlPoint.operate, ControlPoint.start,
        h l hl, Bool.not_false, Bool.true_or, if_true]

/-- What becomes of an answer that is not listened to: it may still be handed from task to
task, and shows no more than that and what was passed over in reading it. -/
theorem perform_of_unheard (h : (Step.mk c task).isUnheard id = true) :
    (c.perform task).state = c ∧
      (∀ t ∈ (c.perform task).todo, (Step.mk c t).isUnheard id = true) ∧
      ∀ entry ∈ (c.perform task).journal, entry.event? = none ∧ entry.sent? = none := by
  obtain ⟨hlistens, hanswers⟩ : c.listens id = false ∧ task.answers c id = true := by
    simpa [Step.isUnheard] using h
  have hunheard {t : Task ν} (ht : t.answers c id = true) : (Step.mk c t).isUnheard id = true := by
    simp [Step.isUnheard, hlistens, ht]
  cases task with
  | take reply =>
    simp only [Task.answers] at hanswers
    simp only [ControlPoint.perform, ControlPoint.take]
    cases hread : reply.read? with
    | none => exact ⟨rfl, List.forall_mem_nil _, List.forall_mem_nil _⟩
    | some reading =>
      rw [hread] at hanswers
      exact ⟨rfl, List.forall_mem_singleton.2 (hunheard hanswers),
        List.forall_mem_map.2 fun _ _ => ⟨rfl, rfl⟩⟩
  | deliver e =>
    have hall := (Bool.and_eq_true_iff.1 hanswers).2
    exact ⟨rfl, List.forall_mem_map.2 fun s hs => hunheard (List.all_eq_true.1 hall s hs),
      List.forall_mem_nil _⟩
  | invoke s e =>
    obtain ⟨hid, handler⟩ := s
    cases handler with
    | answers place =>
      exact ⟨rfl, List.forall_mem_singleton.2 (hunheard hanswers),
        List.forall_mem_singleton.2 ⟨rfl, rfl⟩⟩
    | _ => cases hanswers
  | operate place op =>
    cases op with
    | answer e =>
      obtain rfl : place = id := of_decide_eq_true hanswers
      rw [perform_answer_of_not_listens hlistens]
      exact ⟨rfl, List.forall_mem_nil _, List.forall_mem_nil _⟩
    | _ => cases hanswers
  | _ => cases hanswers

end

/-! ## Runs without them -/

section

variable {c₀ c : ControlPoint ν} {tasks left : List (Task ν)} {steps : List (Step ν)}
  {id : LocatorId}

/-- Tasks are worked off in the steps of a trace, but an answer to a locator that does not
listen is left out when its turn comes. -/
inductive TracedDeaf (id : LocatorId) (c₀ : ControlPoint ν) (tasks : List (Task ν)) :
    List (Step ν) → ControlPoint ν → List (Task ν) → Prop
  | start : TracedDeaf id c₀ tasks [] c₀ tasks
  | perform {steps : List (Step ν)} {c : ControlPoint ν} {task : Task ν} {rest : List (Task ν)}
    (h : TracedDeaf id c₀ tasks steps c (task :: rest))
    (hheard : (Step.mk c task).isUnheard id = false) :
    TracedDeaf id c₀ tasks (steps ++ [⟨c, task⟩]) (c.perform task).state
      ((c.perform task).todo ++ rest)
  | leaveOut {steps : List (Step ν)} {c : ControlPoint ν} {task : Task ν} {rest : List (Task ν)}
    (h : TracedDeaf id c₀ tasks steps c (task :: rest))
    (hunheard : (Step.mk c task).isUnheard id = true) :
    TracedDeaf id c₀ tasks steps c rest
  | turn {steps : List (Step ν)} {c : ControlPoint ν} {left : List (Task ν)} (clock : Conditions)
    (link : Link) (h : TracedDeaf id c₀ tasks steps c left) :
    TracedDeaf id c₀ tasks steps { c with clock, link } left

/-- The run without those answers takes all other steps, in the same states, and comes to the
same state; what it has not left to do are only such answers. -/
theorem Traced.deaf (h : Traced c₀ tasks steps c left) (id : LocatorId) :
    ∃ unheard left', left = unheard ++ left' ∧
      (∀ t ∈ unheard, (Step.mk c t).isUnheard id = true) ∧
      TracedDeaf id c₀ tasks (steps.filter (!·.isUnheard id)) c left' := by
  induction h with
  | start => exact ⟨[], tasks, rfl, List.forall_mem_nil _, .start⟩
  | @perform steps c task rest _ ih =>
    obtain ⟨unheard, left', hleft, hunheard, hdeaf⟩ := ih
    cases hstep : (Step.mk c task).isUnheard id with
    | false =>
      -- What is left out stands in front, so nothing is when the next task is not.
      have hnil : unheard = [] := by
        cases unheard with
        | nil => rfl
        | cons t ts =>
          obtain ⟨rfl, -⟩ := List.cons.inj hleft
          rw [hunheard _ List.mem_cons_self] at hstep
          cases hstep
      subst hnil
      obtain rfl : task :: rest = left' := hleft
      refine ⟨[], _, rfl, List.forall_mem_nil _, ?_⟩
      rw [List.filter_append, List.filter_cons_of_pos (by simp [hstep]), List.filter_nil]
      exact hdeaf.perform hstep
    | true =>
      obtain ⟨hstate, htodo, -⟩ := perform_of_unheard hstep
      rw [List.filter_append, List.filter_cons_of_neg (by simp [hstep]), List.filter_nil,
        List.append_nil, hstate]
      cases unheard with
      | nil =>
        obtain rfl : task :: rest = left' := hleft
        exact ⟨_, rest, rfl, htodo, hdeaf.leaveOut hstep⟩
      | cons t unheard =>
        obtain ⟨rfl, rfl⟩ := List.cons.inj hleft
        exact ⟨_, left', (List.append_assoc _ unheard left').symm,
          List.forall_mem_append.2 ⟨htodo, (List.forall_mem_cons.1 hunheard).2⟩, hdeaf⟩
  | turn clock link _ ih =>
    obtain ⟨unheard, left', hleft, hunheard, hdeaf⟩ := ih
    exact ⟨unheard, left', hleft, hunheard, hdeaf.turn clock link⟩

/-- An answer that is not listened to leads to nothing but steps that are such answers. -/
theorem Traced.of_unheard {task : Task ν} (h : Traced c₀ [task] steps c left)
    (hunheard : (Step.mk c₀ task).isUnheard id = true) :
    (∃ clock link, c = { c₀ with clock, link }) ∧ (∀ step ∈ steps, step.isUnheard id = true) ∧
      ∀ t ∈ left, (Step.mk c t).isUnheard id = true := by
  induction h with
  | start =>
    exact ⟨⟨c₀.clock, c₀.link, rfl⟩, List.forall_mem_nil _, List.forall_mem_singleton.2 hunheard⟩
  | @perform steps c task rest _ ih =>
    obtain ⟨hsame, hsteps, hleft⟩ := ih
    obtain ⟨hstep, hrest⟩ := List.forall_mem_cons.1 hleft
    obtain ⟨hstate, htodo, -⟩ := perform_of_unheard hstep
    rw [hstate]
    exact ⟨hsame, List.forall_mem_append.2 ⟨hsteps, List.forall_mem_singleton.2 hstep⟩,
      List.forall_mem_append.2 ⟨htodo, hrest⟩⟩
  | turn clock link _ ih =>
    obtain ⟨⟨_, _, rfl⟩, hsteps, hleft⟩ := ih
    exact ⟨⟨clock, link, rfl⟩, hsteps, hleft⟩

/-- An answer that was asked for from outside, and not listened to when its turn came, may be
left out of what was asked for: all other steps are the same, and so is the end. -/
theorem Traced.without_request {before after : List (Task ν)} {task : Task ν}
    (h : Traced c₀ (before ++ task :: after) steps c []) :
    ∃ c₁ first second third, Traced c₀ before first c₁ [] ∧ steps = first ++ second ++ third ∧
      ((Step.mk c₁ task).isUnheard id = true →
        (∀ step ∈ second, step.isUnheard id = true) ∧
          Traced c₀ (before ++ after) (first ++ third) c []) := by
  obtain ⟨c₁, first, others, hbefore, hothers, rfl⟩ := h.done_append
  have hcons : Traced c₁ ([task] ++ after) others c [] := hothers
  obtain ⟨c₂, second, third, htask, hafter, rfl⟩ := hcons.done_append
  refine ⟨c₁, first, second, third, hbefore, (List.append_assoc _ _ _).symm, fun hunheard => ?_⟩
  obtain ⟨⟨clock, link, rfl⟩, hsecond, -⟩ := htask.of_unheard hunheard
  exact ⟨hsecond, (hbefore.append after).trans ((Traced.turn_iff clock link).1 hafter)⟩

/-- What is read off events and searches is the same without the answers that are not
listened to. -/
theorem filterMap_shownBy_heard {α : Type} {f : Entry → Option α}
    (hf : ∀ entry, entry.event? = none → entry.sent? = none → f entry = none)
    (steps : List (Step ν)) (id : LocatorId) :
    (shownBy (steps.filter (!·.isUnheard id))).filterMap f = (shownBy steps).filterMap f := by
  induction steps with
  | nil => rfl
  | cons step rest ih =>
    cases hstep : step.isUnheard id with
    | false =>
      rw [List.filter_cons_of_pos (by simp [hstep]), shownBy_cons, shownBy_cons,
        List.filterMap_append, List.filterMap_append, ih]
    | true =>
      obtain ⟨-, -, hjournal⟩ := perform_of_unheard hstep
      have hnone : step.outcome.journal.filterMap f = [] :=
        List.filterMap_eq_nil_iff.2 fun entry hentry =>
          hf entry (hjournal entry hentry).1 (hjournal entry hentry).2
      rw [List.filter_cons_of_neg (by simp [hstep]), ih, shownBy_cons, List.filterMap_append,
        hnone, List.nil_append]

end

/-! ## Announcements -/

/-- The locator with other flags for listening and its timer. -/
def Locator.withFlags (listening timer : Bool) (l : Locator) : Locator :=
  { l with listening, timer }

omit [UrlParser] in
theorem Locator.refresh_withFlags (l : Locator) (listening timer : Bool) (d : Device) :
    (l.withFlags listening timer).refresh d =
      ((l.refresh d).1.withFlags listening timer, (l.refresh d).2) := by
  unfold refresh
  rw [show (l.withFlags listening timer).cache = l.cache from rfl]
  split <;> rfl

omit [UrlParser] in
theorem carryOut_withFlags (c : ControlPoint ν) (id : LocatorId) (l : Locator)
    (listening timer : Bool) (judgement : Verdict × List LogRecord) :
    let o := c.carryOut id l judgement
    (c.modifyLocator id (.withFlags listening timer)).carryOut id (l.withFlags listening timer)
        judgement =
      { o with state := o.state.modifyLocator id (.withFlags listening timer) } := by
  obtain ⟨v, records⟩ := judgement
  cases v with
  | ignore => rfl
  | refresh d =>
    simp only [ControlPoint.carryOut, l.refresh_withFlags,
      ControlPoint.modifyLocator_modifyLocator]
  | farewell usn =>
    simp only [ControlPoint.carryOut, ControlPoint.modifyCache,
      ControlPoint.modifyLocator_modifyLocator]
    rfl

/-- An announcement is heard alike whether the locator listens or not: it changes the same,
leaves the same to be done and shows the same. -/
theorem perform_announcement_withFlags (c : ControlPoint ν) (id : LocatorId)
    (listening timer : Bool) (e : Received) :
    let o := c.perform (.operate id (.announcement e))
    (c.modifyLocator id (.withFlags listening timer)).perform (.operate id (.announcement e)) =
      { o with state := o.state.modifyLocator id (.withFlags listening timer) } := by
  simp only [ControlPoint.perform, ControlPoint.withLocator]
  cases hs : c.slots[id]? with
  | none =>
    have hslots := ControlPoint.slots_modifyLocator_none hs id (.withFlags listening timer)
    simp only [ControlPoint.locator?, hs, hslots, Option.map_none]
  | some s =>
    have hslots := ControlPoint.slots_modifyLocator hs (.withFlags listening timer)
    simp only [ControlPoint.locator?, hs, hslots, Option.map_some]
    by_cases hd : s.locator.dropped = true
    · have hd' : (s.locator.withFlags listening timer).dropped = true := hd
      rw [if_pos hd, if_pos hd']
    · have hd' : ¬(s.locator.withFlags listening timer).dropped = true := hd
      rw [if_neg hd, if_neg hd']
      exact carryOut_withFlags c id s.locator listening timer _

/-! ## Searches -/

/-- Whether the task is a sweep of the locator in a place before a search, or the search. -/
def Task.searches (id : LocatorId) : Task ν → Bool
  | .search place => place = id
  | .broadcast place => place = id
  | _ => false

/-- Whether the task asks the locator in a place to search at once. -/
def Task.asksToSearch (id : LocatorId) : Task ν → Bool
  | .operate place .searchNow => place = id
  | _ => false

omit [UrlParser] in
theorem Leaves.countP_searches {c : ControlPoint ν} {id : LocatorId} {task : Task ν}
    {todo : List (Task ν)} (h : Leaves c task todo)
    (htick : task = .operate id .tick → todo = []) :
    [task].countP (Task.sends id) + todo.countP (Task.searches id) ≤
      [task].countP (Task.searches id) + [task].countP (Task.asksToSearch id) := by
  cases h with
  | nothing =>
    cases task <;> simp [Task.sends, Task.searches]
  | search place op l hl hd hop =>
    rcases hop with rfl | rfl
    · simp [Task.sends, Task.searches, Task.asksToSearch, List.countP_cons]
    · have hplace : place ≠ id := by
        rintro rfl
        cases htick rfl
      simp [Task.sends, Task.searches, hplace]
  | _ =>
    simp [Task.sends, Task.searches, Task.asksToSearch, List.countP_cons, List.countP_map,
      Function.comp_def, ControlPoint.dispatchTasks]

/-- A locator whose ticks leave nothing to be done has sent no more searches than it was asked
to make at once. -/
theorem Traced.countP_sent_le {c₀ c : ControlPoint ν} {tasks left : List (Task ν)}
    {steps : List (Step ν)} {id : LocatorId} (h : Traced c₀ tasks steps c left)
    (htick : ∀ step ∈ steps, step.task = .operate id .tick → step.outcome.todo = []) :
    (shownBy steps).countP (Entry.isSent id) + left.countP (Task.searches id) ≤
      steps.countP (·.task.asksToSearch id) + tasks.countP (Task.searches id) := by
  induction h with
  | start => simp [shownBy]
  | @perform steps c task rest _ ih =>
    obtain ⟨hsteps, hlast⟩ := List.forall_mem_append.1 htick
    have hshown : (c.perform task).journal.countP (Entry.isSent id) ≤
        [task].countP (Task.sends id) := (shows_perform c task).countP_isSent
    have hleft := (leaves_perform c task).countP_searches (List.forall_mem_singleton.1 hlast)
    have hrest := ih hsteps
    rw [shownBy_append, shownBy_singleton, List.countP_append, List.countP_append,
      List.countP_append]
    rw [← List.singleton_append, List.countP_append] at hrest
    simp only [List.countP_singleton] at hshown hleft hrest ⊢
    omega
  | turn _ _ _ ih => exact ih htick

/-! ## Locators that do not search by themselves -/

theorem Interleaved.coherent {place : LocatorId} {made : List Change} {t : Threads ν}
    (h : Interleaved place made t) {id : LocatorId} {s : Slot ν}
    (hs : t.state.slots[id]? = some s) : s.locator.Coherent := by
  induction h generalizing id s with
  | fresh =>
    rw [List.getElem?_nil] at hs
    cases hs
  | perform _ ih =>
    exact ControlPoint.forall_locators_perform Locator.coherent_built
      (fun _ id clock hl => hl.undergo id clock) (fun _ _ => ih) _ id s hs
  | turn _ _ _ ih => exact ih hs
  | ask _ _ ih => exact ih hs

/-- A locator that does not search by itself in the end never did, and never listened. -/
theorem Traced.passive {c₀ c : ControlPoint ν} {tasks left : List (Task ν)}
    {steps : List (Step ν)} (h : Traced c₀ tasks steps c left)
    (hcoherent : ∀ (id : LocatorId) s, c₀.slots[id]? = some s → s.locator.Coherent)
    {id : LocatorId} {l : Locator} (hl : c.locator? id = some l)
    (hpassive : l.config.activeSearch = false) : ∀ step ∈ steps,
      step.state.listens id = false ∧
        ∀ l', step.state.locator? id = some l' → l'.config.activeSearch = false := by
  intro step hstep
  have hcoherent' : ∀ (id : LocatorId) s, step.state.slots[id]? = some s → s.locator.Coherent :=
    (h.forall_states hcoherent (fun c task hc => c.forall_locators_perform
      Locator.coherent_built (fun _ id clock hl => hl.undergo id clock) hc task)
      fun _ _ _ hc => hc).1 step hstep
  have hconfig : ∀ l', step.state.locator? id = some l' → l'.config.activeSearch = false := by
    intro l' hl'
    obtain ⟨s, hs, rfl⟩ := Option.map_eq_some_iff.1 hl'
    obtain ⟨before, after, rfl⟩ := List.append_of_mem hstep
    obtain ⟨rest, hafter⟩ := h.of_append_cons
    obtain ⟨s', hs', hkept⟩ := hafter.slot_keeps
      (P := fun l => l.config = s.locator.config)
      (fun l clock task hl => (l.config_undergo id clock task).trans hl)
      (ControlPoint.slots_perform hs step.task) (Locator.config_undergo _ _ _ _)
    obtain rfl := Option.some.inj (hl.symm.trans (ControlPoint.locator?_eq hs'))
    rw [← hkept, hpassive]
  refine ⟨listens_eq_false_iff.2 fun l' hl' => ?_, hconfig⟩
  obtain ⟨s, hs, rfl⟩ := Option.map_eq_some_iff.1 hl'
  cases hlistening : s.locator.listening with
  | false => rfl
  | true =>
    have hactive := (hcoherent' id s hs).activeSearch hlistening
    rw [hconfig _ hl'] at hactive
    cases hactive

/-! ## Whole runs -/

/-- Answers to searches count for a locator only while it is listening. Let tasks be worked
off from any state, in steps to one where some are left, and call a step unheard if it is an
answer on its way to the locator, and to nobody else, while that is not listening: because it
was not started, or was stopped or disposed of, or is not there. Then

* the run in which every such answer is left out when its turn comes, wherever it comes from,
  takes all other steps in the same states and comes to the same end;
* one that was asked for from outside may be left out of what was asked for, and the run is
  the same but for the steps that it led to;
* an unheard step changes nothing, and what is read off events and searches is the same
  without such steps;
* an announcement is always among the other steps, and what it does is the same as if the
  locator listened;
* if the locator does not search by itself, wherever the run began, then it never listens: to
  start it does nothing, nor does its tick or an answer, replies to its own searches included;
  and it has sent no more searches than it was asked to make at once, unless one was under way
  at the beginning. -/
theorem answers_count_while_listening {c₀ c : ControlPoint ν} {tasks left : List (Task ν)}
    {steps : List (Step ν)} (h : Traced c₀ tasks steps c left) (id : LocatorId) :
    let heard := steps.filter (!·.isUnheard id)
    (∃ unheard left', left = unheard ++ left' ∧
      (∀ t ∈ unheard, (Step.mk c t).isUnheard id = true) ∧
      TracedDeaf id c₀ tasks heard c left') ∧
    (∀ before task after, tasks = before ++ task :: after → left = [] →
      ∃ c₁ first second third, Traced c₀ before first c₁ [] ∧
        steps = first ++ second ++ third ∧
        ((Step.mk c₁ task).isUnheard id = true →
          (∀ step ∈ second, step.isUnheard id = true) ∧
            Traced c₀ (before ++ after) (first ++ third) c [])) ∧
    ((∀ step ∈ steps, step.isUnheard id = true → step.outcome.state = step.state) ∧
      (shownBy heard).filterMap Entry.event? = (shownBy steps).filterMap Entry.event? ∧
      (shownBy heard).filterMap Entry.sent? = (shownBy steps).filterMap Entry.sent?) ∧
    (∀ step ∈ steps, ∀ e, step.task = .operate id (.announcement e) → step ∈ heard ∧
      ∀ listening timer,
        (step.state.modifyLocator id (.withFlags listening timer)).perform step.task =
          { step.outcome with
            state := step.outcome.state.modifyLocator id (.withFlags listening timer) }) ∧
    ∀ place made shown agendas, Interleaved place made ⟨c₀, shown, agendas⟩ →
      ∀ l, c.locator? id = some l → l.config.activeSearch = false →
        (∀ step ∈ steps, step.state.listens id = false ∧
          ((step.task = .operate id .start ∨ step.task = .operate id .tick ∨
              ∃ e, step.task = .operate id (.answer e)) →
            step.outcome = ⟨step.state, [], [], none⟩)) ∧
        (shownBy steps).countP (Entry.isSent id) + left.countP (Task.searches id) ≤
          steps.countP (·.task.asksToSearch id) + tasks.countP (Task.searches id) := by
  intro heard
  refine ⟨h.deaf id, ?_, ⟨fun step _ hunheard => (perform_of_unheard hunheard).1, ?_, ?_⟩,
    fun step hstep e htask => ⟨?_, fun listening timer => ?_⟩,
    fun place made shown agendas hmade l hl hpassive => ?_⟩
  · rintro before task after rfl rfl
    exact h.without_request
  · exact filterMap_shownBy_heard (fun _ hevent _ => hevent) steps id
  · exact filterMap_shownBy_heard (fun _ _ hsent => hsent) steps id
  · refine List.mem_filter.2 ⟨hstep, ?_⟩
    simp [Step.isUnheard, Task.answers, htask]
  · rw [Step.outcome, htask]
    exact perform_announcement_withFlags step.state id listening timer e
  · have hpassive' := h.passive (fun _ _ hs => hmade.coherent hs) hl hpassive
    have htick : ∀ step ∈ steps, step.task = .operate id .tick →
        step.outcome = ⟨step.state, [], [], none⟩ := fun step hstep htask => by
      rw [Step.outcome, htask, perform_tick_of_not_listens (hpassive' step hstep).1]
    refine ⟨fun step hstep => ⟨(hpassive' step hstep).1, ?_⟩,
      h.countP_sent_le fun step hstep htask => by rw [htick step hstep htask]⟩
    rintro (htask | htask | ⟨e, htask⟩)
    · rw [Step.outcome, htask, perform_start_of_passive (hpassive' step hstep).2]
    · exact htick step hstep htask
    · rw [Step.outcome, htask, perform_answer_of_not_listens (hpassive' step hstep).1]

end

/-- An answer comes before the locator is started, one after that, and one when it is stopped
again, as well as an announcement. -/
def hesitation : List (Task Unit) :=
  [.deliver (messageOf responseStartLine "ST".toList "a".toList []), .operate 0 .start,
    .deliver (messageOf responseStartLine "ST".toList "b".toList []), .operate 0 .stop,
    .operate 0 (.answer (messageOf responseStartLine "ST".toList "c".toList [])),
    .deliver (messageOf notifyStartLine "NT".toList "d".toList "ssdp:alive".toList)]

/-- A locator that does not search by itself is built and started, and is asked to search by
its timer and by the program. -/
def aloofness : Script Unit :=
  .build { LocatorConfig.forAll with activeSearch := false } (fun _ => .done) fun _ =>
  .operate 0 .start <|
  .operate 0 .tick <|
  .operate 0 .searchNow .done

attribute [local instance] UrlParser.verbatim

/-- Four steps of the one run are unheard, and it is the same without them; in the other one
search is sent, of whose two replies the announcement is heard. -/
theorem hesitation_deaf :
    let steps := newcomer.steps 16 hesitation
    let c : ControlPoint Unit := { notes := (), link := { replies := returning } }
    let steps' := c.steps 40 [.script .program aloofness]
    ((newcomer.run 16 hesitation).agenda.length = 0 ∧
      (steps.filter (!·.isUnheard 0)).length + 4 = steps.length ∧
      (∃ left', TracedDeaf 0 newcomer hesitation (steps.filter (!·.isUnheard 0))
        (newcomer.run 16 hesitation).state left') ∧
      ((shownBy (steps.filter (!·.isUnheard 0))).filterMap Entry.event?).map
        (·.2.device.notificationType) = ["b".toList, "d".toList]) ∧
    (c.run 40 [.script .program aloofness]).agenda.length = 0 ∧
      (∀ step ∈ steps', step.state.listens 0 = false) ∧
      (shownBy steps').countP (Entry.isSent 0) = 1 ∧
      (shownBy steps').countP (Entry.isSent 0) ≤ steps'.countP (·.task.asksToSearch 0) ∧
      ((shownBy steps').filterMap Entry.event?).map (·.2.isNew) = [true] := by
  intro steps c steps'
  have hend : (newcomer.run 16 hesitation).agenda.length = 0 := by decide +kernel
  have hend' : (c.run 40 [.script .program aloofness]).agenda.length = 0 := by decide +kernel
  obtain ⟨⟨_, left', -, -, hdeaf⟩, -, ⟨-, hevents, -⟩, -⟩ :=
    answers_count_while_listening (traced_run newcomer 16 hesitation) 0
  obtain ⟨-, -, -, -, hpassive⟩ :=
    answers_count_while_listening (traced_run c 40 [.script .program aloofness]) 0
  have hlocator : ((c.run 40 [.script .program aloofness]).state.locator? 0).map
      (·.config.activeSearch) = some false := by
    decide +kernel
  obtain ⟨l, hl, hactive⟩ := Option.map_eq_some_iff.1 hlocator
  obtain ⟨hsteps, hcount⟩ := hpassive 0 [] [] _ (.fresh () {} { replies := returning } 0 1) l hl
    hactive
  refine ⟨⟨hend, by decide +kernel, ⟨left', hdeaf⟩, ?_⟩, hend', fun step hstep =>
    (hsteps step hstep).1, by decide +kernel, ?_, by decide +kernel⟩
  · rw [hevents]
    decide +kernel
  · rw [List.eq_nil_of_length_eq_zero hend'] at hcount
    simpa [Task.searches] using hcount

end Ssdp
