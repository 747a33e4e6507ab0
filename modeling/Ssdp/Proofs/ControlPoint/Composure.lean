import Ssdp.Proofs.ControlPoint.Balance
import Ssdp.Proofs.ControlPoint.Isolation

/-!
# Owners that panic

An owner that panics when it is told of an event ends there, whatever it has done before,
and its locator goes on as if it had returned: with the losses that are still to be
reported, with the search, with the reply that it was taking, and with the call it was in.

* `Outline`, `outline_calm`: all of a control point but the code at work in it;
* `perform_of_soothed_owner`: the panic of an owner changes nothing and leaves nothing;
* `Traced.losses_reported`: devices that are to be reported lost one after the other are so;
* `owner_panics_invisible`: the run, compared with the one in which owners return where they
  would panic.
-/

namespace Ssdp

variable {ν : Type}

section

/-! ## All but the code -/

/-- A control point without the code at work in it: the notes, the locators with their
caches, flags and numbers, the numbers subscribed under each key and the next one, the clock,
the link, and how many searches were attempted. -/
structure Outline (ν : Type) where
  notes : ν
  locators : List Locator
  subscribed : List (Text × List HandlerId)
  nextId : Nat
  clock : Conditions
  link : Link
  attempts : Nat

/-- The outline of a control point. -/
def ControlPoint.outline (c : ControlPoint ν) : Outline ν where
  notes := c.notes
  locators := c.slots.map (·.locator)
  subscribed := c.router.topics.map fun topic => (topic.key, topic.subscriptions.map (·.id))
  nextId := c.router.nextId
  clock := c.clock
  link := c.link
  attempts := c.attempts

theorem outline_calm {soothed : CallerKind → Bool} (c : ControlPoint ν) :
    (c.calm soothed).outline = c.outline := by
  simp [ControlPoint.outline, ControlPoint.calm, Router.map, Function.comp_def, Slot.calm,
    Subscription.map]

/-! ## Panics of owners -/

/-- Whether the code is an owner's. -/
def CallerKind.isOwner (kind : CallerKind) : Bool :=
  kind = .owner

variable [UrlParser]

/-- A panic of an owner changes nothing and leaves nothing to be done. It is put on record. -/
theorem perform_of_soothed_owner {c : ControlPoint ν} {task : Task ν}
    (h : task.isSoothed CallerKind.isOwner = true) :
    ∃ id reason, task = .script (.owner id) (.panic reason) ∧
      c.perform task = ⟨c, [], [.logged .ownerPanicked], none⟩ := by
  unfold Task.isSoothed at h
  split at h
  · rename_i caller reason
    cases caller with
    | owner id => exact ⟨id, reason, rfl, rfl⟩
    | _ => cases h
  · cases h

/-! ## Losses that are to be reported -/

section

variable {c₀ c : ControlPoint ν} {tasks left : List (Task ν)} {steps : List (Step ν)}
  {id : LocatorId}

/-- A locator stays in its place, and what no task changes stays true of it. -/
theorem Traced.slot_keeps {P : Locator → Prop}
    (hP : ∀ l clock (task : Task ν), P l → P (l.undergo id clock task).1)
    (h : Traced c₀ tasks steps c left) {s : Slot ν} (hs : c₀.slots[id]? = some s)
    (hl : P s.locator) : ∃ s', c.slots[id]? = some s' ∧ P s'.locator := by
  induction h with
  | start => exact ⟨s, hs, hl⟩
  | perform _ ih =>
    obtain ⟨s', hs', hl'⟩ := ih
    exact ⟨_, ControlPoint.slots_perform hs' _, hP _ _ _ hl'⟩
  | turn _ _ _ ih => exact ih

theorem Traced.exists_slot {s : Slot ν} (h : Traced c₀ tasks steps c left)
    (hs : c₀.slots[id]? = some s) : ∃ s', c.slots[id]? = some s' := by
  obtain ⟨s', hs', -⟩ := h.slot_keeps (P := fun _ => True) (fun _ _ _ _ => trivial) hs trivial
  exact ⟨s', hs'⟩

/-- A locator that is not disposed has not been so before. -/
theorem Traced.not_disposed {s s' : Slot ν} (h : Traced c₀ tasks steps c left)
    (hs : c₀.slots[id]? = some s) (hs' : c.slots[id]? = some s')
    (hd : s'.locator.disposed = false) : s.locator.disposed = false := by
  refine Bool.eq_false_iff.2 fun hdisposed => ?_
  obtain ⟨s'', hs'', hd'⟩ := h.slot_keeps (P := fun l => l.disposed = true)
    (fun _ clock task hl => Locator.disposed_undergo hl id clock task) hs hdisposed
  obtain rfl := Option.some.inj (hs'.symm.trans hs'')
  rw [hd] at hd'
  cases hd'

/-- An event of a locator that is not disposed is told at once. -/
theorem Traced.event_told {s : Slot ν} {event : Event} (h : Traced c₀ [.emit id event] steps c [])
    (hs : c₀.slots[id]? = some s) (hd : s.locator.disposed = false) :
    [(id, event)].Sublist ((shownBy steps).filterMap Entry.event?) := by
  obtain ⟨clock, link, later, -, rfl⟩ := h.performed
  have hemit : (({ c₀ with clock, link } : ControlPoint ν).perform (.emit id event)).journal =
      [.emitted id event] := by
    simp [ControlPoint.perform, hs, hd]
  rw [shownBy_cons, Step.outcome, hemit, List.singleton_append, List.filterMap_cons]
  exact (List.nil_sublist _).cons_cons _

/-- Devices that are to be reported lost are reported in order, whatever the owner does when
it is told of one of them, if the locator is not disposed in the end. -/
theorem Traced.losses_reported {cause : LossCause} {ds : List Device} {s s' : Slot ν}
    (h : Traced c₀ (ds.map (.lose id cause ·)) steps c []) (hs : c₀.slots[id]? = some s)
    (hs' : c.slots[id]? = some s') (hd : s'.locator.disposed = false) :
    (ds.map fun d => (id, Event.lost d)).Sublist ((shownBy steps).filterMap Entry.event?) := by
  induction ds generalizing c₀ s steps with
  | nil => exact List.nil_sublist _
  | cons d ds ih =>
    have hcons : Traced c₀ ([.lose id cause d] ++ ds.map (.lose id cause ·)) steps c [] := h
    obtain ⟨c₁, first, second, hfirst, hsecond, rfl⟩ := hcons.done_append
    obtain ⟨clock, link, later, hlater, rfl⟩ := hfirst.performed
    have htold := hlater.event_told hs (h.not_disposed hs hs' hd)
    obtain ⟨s₁, hs₁⟩ := hfirst.exists_slot hs
    rw [shownBy_append, shownBy_cons, List.filterMap_append, List.filterMap_append]
    exact (htold.trans (List.sublist_append_right _ _)).append (ih hsecond hs₁)

end

/-! ## Runs with and without panics of owners -/

/-- An owner that panics is as one that returns, but for the log. Let tasks be worked off
from any state, in steps to one where some are left, and compare this with the run in which
every owner returns where it would panic:

* the same steps are taken, with the calm code for the code, and they end with the same
  tasks left; and so they are whichever owners panic at whichever events, as all of these
  runs have the one calm run in common;
* at every step and in the end all but the code is the same: caches, flags and notes, the
  numbers subscribed, and what the numbers to come are;
* every request to the router is answered the same, so an owner's call counts as invoked;
* whatever is read off what is shown, other than the records of these panics, is the same:
  the events, the searches, the handlers that are invoked, and all other records;
* each panic of an owner changes nothing, leaves nothing to be done and shows one record, an
  error; in the calm run there is no such step;
* what a step leaves to be done is done after it, or left: the call of a locator or of a
  dispatch that an owner panics in comes back to its caller, and a search is still sent.
  When all is done, devices that a step leaves to be reported lost have been reported in
  order, unless their locator is disposed. -/
theorem owner_panics_invisible {c₀ c : ControlPoint ν} {tasks left : List (Task ν)}
    {steps : List (Step ν)} (h : Traced c₀ tasks steps c left) :
    let calm := CallerKind.isOwner
    let steps' := steps.map (·.calm calm)
    (Traced (c₀.calm calm) (tasks.map (·.calm calm)) steps' (c.calm calm)
        (left.map (·.calm calm)) ∧
      ∀ c₁ tasks₁, c₁.calm calm = c₀.calm calm →
        tasks₁.map (·.calm calm) = tasks.map (·.calm calm) →
        ∃ steps₁ c₂ left₁, Traced c₁ tasks₁ steps₁ c₂ left₁ ∧
          steps₁.map (·.calm calm) = steps' ∧ c₂.calm calm = c.calm calm ∧
          left₁.map (·.calm calm) = left.map (·.calm calm)) ∧
      steps'.map (·.state.outline) = steps.map (·.state.outline) ∧
      (c.calm calm).outline = c.outline ∧
      steps'.map Step.answer? = steps.map Step.answer? ∧
      (∀ {α : Type} (f : Entry → Option α), f (.logged .ownerPanicked) = none →
        (shownBy steps').filterMap f = (shownBy steps).filterMap f) ∧
      (∀ step ∈ steps, step.task.isSoothed calm = true → ∃ id reason,
        step.task = .script (.owner id) (.panic reason) ∧
        step.outcome = ⟨step.state, [], [.logged .ownerPanicked], none⟩ ∧
        LogRecord.ownerPanicked.level = .error) ∧
      (∀ step ∈ steps', step.task.isSoothed calm = false) ∧
      ∀ before step after, steps = before ++ step :: after →
        step.outcome.todo.Sublist (after.map (·.task) ++ left) ∧
        (left = [] → ∀ id cause (ds : List Device) more l l',
          step.outcome.todo = ds.map (.lose id cause ·) ++ more →
          step.state.locator? id = some l → c.locator? id = some l' → l'.disposed = false →
          (ds.map fun d => (id, Event.lost d)).Sublist
            ((shownBy after).filterMap Entry.event?)) := by
  intro calm steps'
  refine ⟨⟨h.calm, fun c₁ tasks₁ hstate htasks => ?_⟩, ?_, outline_calm c, ?_, fun f hf => ?_,
    fun step _ hpanics => ?_, ?_, fun before step after hsteps => ?_⟩
  · have hcalm : Traced (c₀.calm calm) (tasks.map (·.calm calm)) steps' _ _ := h.calm
    rw [← hstate, ← htasks] at hcalm
    obtain ⟨steps₁, c₂, left₁, h₁, hsteps₁, hc₂, hleft₁⟩ := hcalm.of_calm
    exact ⟨steps₁, c₂, left₁, h₁, hsteps₁.symm, hc₂.symm, hleft₁.symm⟩
  · rw [List.map_map]
    exact List.map_congr_left fun step _ => outline_calm step.state
  · rw [List.map_map]
    exact List.map_congr_left fun step _ => answer?_calm step.state step.task
  · refine filterMap_shownBy_calm_of fun step _ hpanics => ?_
    obtain ⟨_, _, -, houtcome⟩ := perform_of_soothed_owner (c := step.state) hpanics
    rw [Step.outcome, houtcome, List.filterMap_cons_none hf, List.filterMap_nil]
  · obtain ⟨id, reason, htask, houtcome⟩ := perform_of_soothed_owner (c := step.state) hpanics
    exact ⟨id, reason, htask, houtcome, rfl⟩
  · exact List.forall_mem_map.2 fun step _ => isSoothed_calm calm step.task
  · rw [hsteps] at h
    obtain ⟨rest, hafter⟩ := h.of_append_cons
    refine ⟨(List.sublist_append_left _ rest).trans hafter.sublist, ?_⟩
    rintro rfl id cause ds more l l' htodo hl hl' hd
    obtain ⟨s, hs, rfl⟩ := Option.map_eq_some_iff.1 hl
    obtain ⟨s', hs', rfl⟩ := Option.map_eq_some_iff.1 hl'
    rw [htodo, List.append_assoc] at hafter
    obtain ⟨c₁, first, second, hlosses, hsecond, rfl⟩ := hafter.done_append
    obtain ⟨s₁, hs₁⟩ := hlosses.exists_slot (ControlPoint.slots_perform hs step.task)
    have htold := hlosses.losses_reported (ControlPoint.slots_perform hs step.task) hs₁
      (hsecond.not_disposed hs₁ hs' hd)
    rw [shownBy_append, List.filterMap_append]
    exact htold.trans (List.sublist_append_left _ _)

theorem traced_after (r : Run ν) (n : Nat) :
    Traced r.state r.agenda (r.state.steps n r.agenda) (r.after n).state (r.after n).agenda :=
  traced_run r.state n r.agenda

end

/-- An owner that panics at every event, and searches before if a device is lost. -/
def touchyOwner : Event → Script Unit
  | .lost _ => .operate 0 .searchNow (.panic .wordless)
  | _ => .panic .wordless

/-- Two devices with one `USN` are announced and leave together. When the losses are told, the
owner searches, and the second device answers. -/
def tantrum : Run Unit :=
  { relapse with
    agenda := [.script .program <|
      .build .forAll touchyOwner fun _ =>
      .operate 0 .start <|
      .dispatch (messageOf notifyStartLine "NT".toList "a".toList "ssdp:alive".toList) fun _ =>
      .dispatch (messageOf notifyStartLine "NT".toList "b".toList "ssdp:alive".toList) fun _ =>
      .dispatch (messageOf notifyStartLine "NT".toList "a".toList "ssdp:byebye".toList) fun _ =>
      .done] }

attribute [local instance] UrlParser.verbatim

/-- The owner panics at six events, at two of them in the midst of a search of its own; both
losses are told, and both searches are sent. -/
theorem tantrum_invisible :
    let calm := CallerKind.isOwner
    let steps := tantrum.state.steps 45 tantrum.agenda
    (tantrum.after 45).agenda.length = 0 ∧
      steps.countP (·.task.isSoothed calm) = 6 ∧
      Traced (tantrum.state.calm calm) (tantrum.agenda.map (·.calm calm))
        (steps.map (·.calm calm)) ((tantrum.after 45).state.calm calm)
        ((tantrum.after 45).agenda.map (·.calm calm)) ∧
      ((tantrum.after 45).state.calm calm).outline = (tantrum.after 45).state.outline ∧
      ((shownBy (steps.map (·.calm calm))).filterMap Entry.event?).map (fun told =>
        (told.2.isNew, told.2.device.notificationType)) =
          [(true, "a".toList), (true, "b".toList), (false, "a".toList), (true, "b".toList),
            (false, "b".toList), (false, "b".toList)] ∧
      ((shownBy (steps.map (·.calm calm))).filterMap Entry.sent?).length = 2 := by
  intro calm steps
  obtain ⟨⟨hcalm, -⟩, -, houtline, -, hshown, -⟩ :=
    owner_panics_invisible (traced_after tantrum 45)
  refine ⟨by decide +kernel, by decide +kernel, hcalm, houtline, ?_, ?_⟩
  · rw [hshown Entry.event? rfl]
    decide +kernel
  · rw [hshown Entry.sent? rfl]
    decide +kernel

end Ssdp
