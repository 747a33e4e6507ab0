import Ssdp.Proofs.ControlPoint.Balance
import Ssdp.Proofs.ControlPoint.Dispatch
import Ssdp.Proofs.ControlPoint.Mute
import Ssdp.Proofs.Locator.Retelling

/-!
# Locators that share a router

A program builds locators at one router, dispatches messages and operates the locators, one
thing after the other. What a locator learns and reports is what it would if it were the
only one: the others may be built, operated and dropped, and their owners may panic, without
a difference to it.

* `Request`, `Occasion`, `Session`: what a program asks for, and at which time each locator
  meets with it;
* `alone`: the occasions that are left where only one of the locators is built;
* `Outlook`, `Session.foretold`: what becomes of one locator can be told from the
  occasions;
* `outlook_alone`: it is the same for the occasions that are left;
* `outlook_sameTold`: it is the same at the same times, but for the order of losses;
* `locators_independent`: a locator with others and by itself.
-/

namespace Ssdp

variable {ν : Type}

section

/-! ## Sessions -/

/-- What a program asks for: a locator with an owner, a message to be dispatched, an
operation of a locator, or something of other code. -/
inductive Request (ν : Type) where
  | build (config : LocatorConfig) (owner : Event → Script ν)
  | deliver (e : Received)
  | operate (id : LocatorId) (op : Operation)
  | aside (body : Script ν)

/-- The task that a request amounts to. -/
def Request.task : Request ν → Task ν
  | build config owner => .script .program (.build config owner fun _ => .done)
  | deliver e => .deliver e
  | operate id op => .operate id op
  | aside body => .script .program body

/-- Whether the code of a request does not call back. -/
def Request.Mute : Request ν → Prop
  | build _ owner => ∀ event, (owner event).Mute
  | aside body => body.Mute
  | _ => True

/-- A request, and what the moment is like at which each locator meets with it: the time, and
the order in which the locator goes through its cache. -/
structure Occasion (ν : Type) where
  request : Request ν
  time : LocatorId → Conditions

variable [UrlParser]

/-- From a control point without locators and subscribers, requests are worked off one
after the other. The clock and the link may change at any moment, but a locator finds the
time of the occasion when it looks at the clock, and goes through its cache in the order of
the occasion; no search gets a reply. -/
inductive Session : List (Occasion ν) → ControlPoint ν → List Entry → Prop
  | fresh (notes : ν) (clock : Conditions) (link : Link) (attempts : Nat) :
    Session [] { notes, clock, link, attempts } []
  | next {occasions : List (Occasion ν)} {c c' : ControlPoint ν} {shown : List Entry}
    {o : Occasion ν} {steps : List (Step ν)} (h : Session occasions c shown)
    (hsteps : Traced c [o.request.task] steps c' [])
    (htime : ∀ step ∈ steps, step.OnTime o.time) :
    Session (occasions ++ [o]) c' (shown ++ shownBy steps)

namespace Occasion

/-- How many locators are built: one, unless its options are refused. -/
def builds (o : Occasion ν) : Nat :=
  match o.request with
  | .build config _ => if config.fault? = none then 1 else 0
  | _ => 0

/-- What is left of the request where only the locator in a place is built, if anything is,
when so many are built before: that it is built, any message, and what is asked of it,
which is the first locator then. -/
def alone? (p built : LocatorId) (o : Occasion ν) : Option (Request ν) :=
  match o.request with
  | .build config owner =>
    if config.fault? = none ∧ built = p then some (.build config owner) else none
  | .deliver e => some (.deliver e)
  | .operate id op => if id = p then some (.operate 0 op) else none
  | .aside _ => none

end Occasion

/-- The occasions that are left where only the locator in a place is built, when so many
are built before. The locator meets with each of them in the same conditions. -/
def alone (p : LocatorId) : Nat → List (Occasion ν) → List (Occasion ν)
  | _, [] => []
  | built, o :: rest =>
    match o.alone? p built with
    | some request => ⟨request, fun _ => o.time p⟩ :: alone p (built + o.builds) rest
    | none => alone p (built + o.builds) rest

/-! ## What can be foretold -/

/-- What can be foretold of a locator: how many are built, itself once it is, and what its
owner has been told. -/
structure Outlook where
  built : Nat := 0
  locator? : Option Locator := none
  events : List Event := []

/-- What can be foretold once a locator is built, unless its options are refused. -/
def Outlook.build (id : LocatorId) (v : Outlook) (config : LocatorConfig) : Outlook :=
  match config.fault? with
  | some _ => v
  | none =>
    { v with
      built := v.built + 1
      locator? := if v.built = id then some { config } else v.locator? }

/-- What can be foretold once a task and all that it leads to are done. -/
def Outlook.work (id : LocatorId) (clock : Conditions) (v : Outlook) (task : Task ν) : Outlook :=
  match v.locator? with
  | none => v
  | some l =>
    { v with
      locator? := some (task.fate id clock l).1
      events := v.events ++ (task.fate id clock l).2 }

/-- What can be foretold after one more occasion. -/
def Outlook.after (id : LocatorId) (v : Outlook) (o : Occasion ν) : Outlook :=
  match o.request with
  | .build config _ => v.build id config
  | request => v.work id (o.time id) request.task

/-- What can be foretold of the locator in a place. -/
def outlook (id : LocatorId) (occasions : List (Occasion ν)) : Outlook :=
  occasions.foldl (·.after id ·) {}

theorem outlook_append (id : LocatorId) (occasions : List (Occasion ν)) (o : Occasion ν) :
    outlook id (occasions ++ [o]) = (outlook id occasions).after id o := by
  simp [outlook]

theorem Task.fate_bare (id : LocatorId) (clock : Conditions) (l : Locator) (task : Task ν) :
    task.fate id clock l.bare = ((task.fate id clock l).1.bare, (task.fate id clock l).2) := by
  cases task with
  | deliver e => exact l.hear_bare clock e
  | invoke s e =>
    obtain ⟨hid, handler⟩ := s
    cases handler with
    | code handler => rfl
    | _ =>
      simp only [fate, Locator.meet_bare]
      split <;> rfl
  | operate id' op =>
    simp only [fate, Locator.meet_bare]
    split <;> rfl
  | search id' =>
    simp only [fate, Locator.search_bare]
    split <;> rfl
  | lose id' cause d =>
    simp only [fate]
    split <;> rfl
  | emit id' event =>
    simp only [fate]
    split <;> rfl
  | _ => rfl

/-- Where nothing is to be done, only the clock and the link change. -/
theorem Works.state_of_nil {c c' : ControlPoint ν} {shown : List Entry} {left : List (Task ν)}
    (h : Works c [] c' shown left) : ∃ clock link, c' = { c with clock, link } := by
  induction h with
  | start => exact ⟨c.clock, c.link, rfl⟩
  | perform h _ => nomatch h.shown_of_nil.2
  | turn clock link _ ih =>
    obtain ⟨_, _, rfl⟩ := ih
    exact ⟨clock, link, rfl⟩

/-- A task that leaves nothing is worked off in one step. -/
theorem Works.of_done {c c' : ControlPoint ν} {shown : List Entry} {caller : Caller}
    (h : Works c [.script caller .done] c' shown []) :
    shown = [] ∧ ∃ clock link, c' = { c with clock, link } := by
  obtain ⟨clock, link, later, hlater, rfl⟩ := h.performed
  obtain ⟨hnil, -⟩ := hlater.shown_of_nil
  obtain ⟨clock', link', rfl⟩ := hlater.state_of_nil
  exact ⟨by rw [hnil], clock', link', rfl⟩

/-- What a program builds is there at once, and nothing is shown. -/
theorem Works.of_build {c c' : ControlPoint ν} {shown : List Entry} {config : LocatorConfig}
    {owner : Event → Script ν}
    (h : Works c [.script .program (.build config owner fun _ => .done)] c' shown []) :
    shown = [] ∧ ∃ clock link, c' = { (c.build config owner).1 with clock, link } := by
  obtain ⟨clock, link, later, hlater, rfl⟩ := h.performed
  obtain ⟨rfl, clock', link', rfl⟩ := Works.of_done hlater
  refine ⟨rfl, clock', link', ?_⟩
  simp only [ControlPoint.perform, ControlPoint.performScript, ControlPoint.build]
  cases config.fault? <;> rfl

omit [UrlParser] in
/-- What is in place stays there, and nothing else comes into being. -/
theorem length_slots_eq {c c' : ControlPoint ν}
    (h : ∀ id : LocatorId, c'.slots[id]? = none ↔ c.slots[id]? = none) :
    c'.slots.length = c.slots.length := by
  refine Nat.le_antisymm ?_ ?_
  · exact List.getElem?_eq_none_iff.1 ((h _).2 (List.getElem?_eq_none_iff.2 (Nat.le_refl _)))
  · exact List.getElem?_eq_none_iff.1 ((h _).1 (List.getElem?_eq_none_iff.2 (Nat.le_refl _)))

/-- The state of a control point, and what it has shown of the locator in a place, are as
foretold. -/
structure Outlook.Fits (v : Outlook) (id : LocatorId) (c : ControlPoint ν) (shown : List Entry) :
    Prop where
  built : c.slots.length = v.built
  locator? : (c.locator? id).map Locator.bare = v.locator?
  events : eventsOf id shown = v.events

namespace Outlook.Fits

variable {v : Outlook} {id : LocatorId} {c c' : ControlPoint ν} {shown : List Entry}

omit [UrlParser] in
theorem turn (h : v.Fits id c shown) (clock : Conditions) (link : Link) :
    v.Fits id { c with clock, link } shown :=
  ⟨h.built, h.locator?, h.events⟩

omit [UrlParser] in
theorem build (h : v.Fits id c shown) (config : LocatorConfig) (owner : Event → Script ν) :
    (v.build id config).Fits id (c.build config owner).1 shown := by
  rw [Outlook.build, ControlPoint.build]
  cases config.fault? with
  | some error => exact h
  | none =>
    refine ⟨by simp [h.built], ?_, h.events⟩
    have hlocator := h.locator?
    simp only [ControlPoint.locator?, ← h.built] at hlocator ⊢
    rcases Nat.lt_trichotomy id c.slots.length with hlt | rfl | hgt
    · rw [List.getElem?_append_left hlt, hlocator, if_neg (Nat.ne_of_gt hlt)]
    · rw [List.getElem?_concat_length, if_pos rfl]
      rfl
    · rw [List.getElem?_eq_none_iff.2 (Nat.le_of_lt hgt)] at hlocator
      rw [List.getElem?_eq_none_iff.2 (by simpa using Nat.succ_le_of_lt hgt),
        if_neg (Nat.ne_of_lt hgt), ← hlocator]

/-- What a task has in store for a locator is what comes to pass. -/
theorem work (h : v.Fits id c shown) {task : Task ν} {steps : List (Step ν)}
    {time : LocatorId → Conditions} (hc : c.Mute) (ht : task.Mute)
    (hsteps : Traced c [task] steps c' []) (htime : ∀ step ∈ steps, step.OnTime time) :
    c'.Mute ∧ (v.work id (time id) task).Fits id c' (shown ++ shownBy steps) := by
  obtain ⟨hc', -, hplaces⟩ := hsteps.fate hc (List.forall_mem_singleton.2 ht) htime
  have hlength : c'.slots.length = c.slots.length := by
    refine length_slots_eq fun place => ?_
    have hplace := hplaces place
    revert hplace
    split
    · rename_i hn
      exact fun hnone => ⟨fun _ => hn, fun _ => hnone.1⟩
    · rename_i s hs
      rintro ⟨l, hl, -⟩
      simp [hs, hl]
  have hplace := hplaces id
  have hlocator := h.locator?
  cases hs : c.slots[id]? with
  | none =>
    rw [hs] at hplace
    rw [ControlPoint.locator?, hs] at hlocator
    have hwork : v.work id (time id) task = v := by
      rw [Outlook.work, ← hlocator]
      rfl
    rw [hwork]
    refine ⟨hc', hlength.trans h.built, ?_, ?_⟩
    · rw [ControlPoint.locator?, hplace.1]
      exact hlocator
    · rw [eventsOf_append, hplace.2, List.append_nil, h.events]
  | some s =>
    rw [hs] at hplace
    obtain ⟨l, hl, hfate⟩ := hplace
    have hmade : task.fate id (time id) s.locator = (l, eventsOf id (shownBy steps)) := by
      simpa [fateOf] using hfate
    rw [ControlPoint.locator?_eq hs, Option.map_some] at hlocator
    rw [Outlook.work, ← hlocator]
    refine ⟨hc', hlength.trans h.built, ?_, ?_⟩
    · rw [ControlPoint.locator?_eq hl, Option.map_some]
      simp only [Task.fate_bare, hmade]
    · rw [eventsOf_append, h.events]
      simp only [Task.fate_bare, hmade]

end Outlook.Fits

/-- What becomes of a locator in a session is what can be foretold from the occasions. -/
theorem Session.foretold {occasions : List (Occasion ν)} {c : ControlPoint ν}
    {shown : List Entry} (h : Session occasions c shown)
    (hmute : ∀ o ∈ occasions, o.request.Mute) (id : LocatorId) :
    c.Mute ∧ (outlook id occasions).Fits id c shown := by
  induction h with
  | fresh notes clock link attempts =>
    exact ⟨.fresh notes clock link attempts, rfl, by simp [ControlPoint.locator?, outlook], rfl⟩
  | @next occasions c c' shown o steps h hsteps htime ih =>
    obtain ⟨hbefore, hlast⟩ := List.forall_mem_append.1 hmute
    obtain ⟨hc, hfits⟩ := ih hbefore
    have ho := List.forall_mem_singleton.1 hlast
    rw [outlook_append, Outlook.after]
    cases hrequest : o.request with
    | build config owner =>
      rw [hrequest] at hsteps ho
      obtain ⟨hnil, clock, link, rfl⟩ := Works.of_build hsteps.works
      rw [hnil, List.append_nil]
      have hbuilt : (c.perform (.script .program
          (.build config owner fun _ => .done))).state.Mute := by
        refine hc.perform_of_code (fun _ => trivial) ?_ ?_
        · rintro _ _ _ _ ⟨⟩
        · rintro _ _ _ _ ⟨⟩
          exact ho
      exact ⟨hbuilt.turn clock link, (hfits.build config owner).turn clock link⟩
    | deliver e =>
      rw [hrequest] at hsteps
      exact hfits.work hc trivial hsteps htime
    | operate id op =>
      rw [hrequest] at hsteps
      exact hfits.work hc trivial hsteps htime
    | aside body =>
      rw [hrequest] at hsteps ho
      exact hfits.work hc ho hsteps htime

/-! ## With others and alone -/

section

variable {p : LocatorId} {clock : Conditions} {v w : Outlook}

theorem Outlook.built_work (id : LocatorId) (task : Task ν) :
    (v.work id clock task).built = v.built := by
  rw [work]
  split <;> rfl

/-- A task that has nothing in store for a locator makes no difference. -/
theorem Outlook.work_of_idle {task : Task ν} (h : ∀ l, task.fate p clock l = (l, [])) :
    v.work p clock task = v := by
  rw [work]
  cases hl : v.locator? with
  | none => rfl
  | some l => simp only [h, List.append_nil, ← hl]

theorem Outlook.built_after (id : LocatorId) (o : Occasion ν) :
    (v.after id o).built = v.built + o.builds := by
  obtain ⟨request, time⟩ := o
  cases request with
  | build config owner =>
    simp only [after, build, Occasion.builds]
    cases config.fault? <;> rfl
  | _ => exact built_work id _

/-- Two outlooks for the same locator, the second one for it alone. -/
structure Outlook.Alike (p : LocatorId) (v w : Outlook) : Prop where
  locator? : w.locator? = v.locator?
  events : w.events = v.events
  built : w.built = if p < v.built then 1 else 0

namespace Outlook.Alike

theorem work (h : v.Alike p w) {task task' : Task ν}
    (hfate : ∀ l, task'.fate 0 clock l = task.fate p clock l) :
    (v.work p clock task).Alike p (w.work 0 clock task') := by
  refine ⟨?_, ?_, by rw [built_work, built_work, h.built]⟩
  · rw [Outlook.work, Outlook.work, h.locator?]
    split
    · rename_i hnone
      rw [hnone, h.locator?, hnone]
    · simp only [hfate]
  · rw [Outlook.work, Outlook.work, h.locator?]
    split
    · exact h.events
    · simp only [hfate, h.events]

omit [UrlParser] in
/-- The locator itself is built. -/
theorem build (h : v.Alike p w) (hp : v.built = p) {config : LocatorConfig}
    (hfault : config.fault? = none) : (v.build p config).Alike p (w.build 0 config) := by
  have hw : w.built = 0 := by rw [h.built, hp, if_neg (Nat.lt_irrefl p)]
  simp only [Outlook.build, hfault]
  exact ⟨by simp [hp, hw], h.events, by simp [hp, hw]⟩

omit [UrlParser] in
/-- Another locator is built, or none. -/
theorem build_other (h : v.Alike p w) {config : LocatorConfig}
    (hp : ¬ (config.fault? = none ∧ v.built = p)) : (v.build p config).Alike p w := by
  rw [Outlook.build]
  cases hfault : config.fault? with
  | some error => exact h
  | none =>
    have hne : v.built ≠ p := fun heq => hp ⟨hfault, heq⟩
    have hlt : p < v.built + 1 ↔ p < v.built :=
      ⟨fun hlt => Nat.lt_of_le_of_ne (Nat.le_of_lt_succ hlt) hne.symm, Nat.lt_succ_of_lt⟩
    exact ⟨by rw [if_neg hne, h.locator?], h.events, by simp only [hlt, h.built]⟩

/-- They stay alike over an occasion, where the second one has what is left of it. -/
theorem after (h : v.Alike p w) (o : Occasion ν) :
    match o.alone? p v.built with
    | some request => (v.after p o).Alike p (w.after 0 ⟨request, fun _ => o.time p⟩)
    | none => (v.after p o).Alike p w := by
  obtain ⟨request, time⟩ := o
  cases request with
  | build config owner =>
    by_cases hp : config.fault? = none ∧ v.built = p
    · simp only [Occasion.alone?, if_pos hp]
      exact h.build hp.2 hp.1
    · simp only [Occasion.alone?, if_neg hp]
      exact h.build_other hp
  | deliver e => exact h.work fun l => rfl
  | operate id op =>
    by_cases hid : id = p
    · simp only [Occasion.alone?, if_pos hid]
      exact h.work fun l => by simp [Request.task, Task.fate, hid]
    · simp only [Occasion.alone?, if_neg hid, Outlook.after]
      rw [work_of_idle fun l => by simp [Request.task, Task.fate, hid]]
      exact h
  | aside body =>
    simp only [Occasion.alone?, Outlook.after]
    rw [work_of_idle fun l => rfl]
    exact h

/-- They stay alike over all occasions, where the second one has those that are left. -/
theorem foldl (h : v.Alike p w) (occasions : List (Occasion ν)) :
    (occasions.foldl (·.after p ·) v).Alike p
      ((alone p v.built occasions).foldl (·.after 0 ·) w) := by
  induction occasions generalizing v w with
  | nil => exact h
  | cons o rest ih =>
    have hafter := h.after o
    rw [List.foldl_cons, alone, ← built_after p o]
    revert hafter
    split
    · exact fun hafter => ih hafter
    · exact fun hafter => ih hafter

end Outlook.Alike

end

/-- What can be foretold of a locator with others can be foretold of it alone. -/
theorem outlook_alone (p : LocatorId) (occasions : List (Occasion ν)) :
    (outlook p occasions).Alike p (outlook 0 (alone p 0 occasions)) :=
  Outlook.Alike.foldl ⟨rfl, rfl, rfl⟩ occasions

/-! ## In another order -/

/-- The same request, with which each locator meets at the same time. In which order it goes
through its cache is another matter. -/
structure Occasion.SameTime (o o' : Occasion ν) : Prop where
  request : o.request = o'.request
  time : ∀ id, (o.time id).toClock = (o'.time id).toClock

section

variable {id : LocatorId} {clock clock' : Conditions} {v w : Outlook}

/-- A task has the same in store at the same time, but for the order of losses. -/
theorem Task.sameTold_fate (h : clock.toClock = clock'.toClock) (l : Locator) (task : Task ν) :
    Locator.SameTold (task.fate id clock l) (task.fate id clock' l) := by
  have addressed {made made' : Locator × List Event} (hmade : Locator.SameTold made made')
      (id' : LocatorId) : Locator.SameTold (if id' = id then made else (l, []))
        (if id' = id then made' else (l, [])) := by
    split
    · exact hmade
    · exact .refl _
  cases task with
  | deliver e => exact Locator.sameTold_hear h l e
  | invoke s e =>
    obtain ⟨hid, handler⟩ := s
    cases handler with
    | code handler => exact .refl _
    | _ => exact addressed (Locator.sameTold_meet h l _) _
  | operate id' op => exact addressed (Locator.sameTold_meet h l op) id'
  | search id' => exact addressed (Locator.sameTold_search h l) id'
  | _ => exact .refl _

/-- The same can be foretold, but for the order of losses. -/
structure Outlook.SameTold (v w : Outlook) : Prop where
  built : v.built = w.built
  locator? : v.locator? = w.locator?
  events : Retold v.events w.events

namespace Outlook.SameTold

omit [UrlParser] in
theorem build (h : v.SameTold w) (id : LocatorId) (config : LocatorConfig) :
    (v.build id config).SameTold (w.build id config) := by
  simp only [Outlook.build, ← h.built, ← h.locator?]
  split
  · exact h
  · exact ⟨rfl, rfl, h.events⟩

theorem work (h : v.SameTold w) (hclock : clock.toClock = clock'.toClock) (task : Task ν) :
    (v.work id clock task).SameTold (w.work id clock' task) := by
  simp only [Outlook.work, ← h.locator?]
  split
  · exact h
  · rename_i l _
    have hfate : Locator.SameTold (task.fate id clock l) (task.fate id clock' l) :=
      task.sameTold_fate hclock l
    exact ⟨h.built, congrArg some hfate.locator, h.events.append hfate.events⟩

theorem after (h : v.SameTold w) (id : LocatorId) {o o' : Occasion ν} (ho : o.SameTime o') :
    (v.after id o).SameTold (w.after id o') := by
  obtain ⟨request, time⟩ := o
  obtain ⟨request', time'⟩ := o'
  obtain ⟨hrequest, htime⟩ := ho
  obtain rfl : request = request' := hrequest
  cases request with
  | build config owner => exact h.build id config
  | _ => exact h.work (htime id) _

end Outlook.SameTold

/-- At the same times the same can be foretold, but for the order of losses. -/
theorem outlook_sameTold {occasions occasions' : List (Occasion ν)}
    (h : List.Forall₂ Occasion.SameTime occasions occasions') (id : LocatorId) :
    (outlook id occasions).SameTold (outlook id occasions') := by
  suffices hfold : ∀ v w : Outlook, v.SameTold w →
      (occasions.foldl (·.after id ·) v).SameTold (occasions'.foldl (·.after id ·) w) from
    hfold _ _ ⟨rfl, rfl, .nil⟩
  induction h with
  | nil => exact fun _ _ hv => hv
  | cons ho _ ih => exact fun v w hv => ih _ _ (hv.after id ho)

omit [UrlParser] in
/-- Code that does not call back does not at another moment. -/
theorem forall_mute_of_sameTime {occasions occasions' : List (Occasion ν)}
    (h : List.Forall₂ Occasion.SameTime occasions occasions')
    (hmute : ∀ o ∈ occasions, o.request.Mute) : ∀ o ∈ occasions', o.request.Mute := by
  induction h with
  | nil => exact hmute
  | cons ho _ ih =>
    obtain ⟨hfirst, hrest⟩ := List.forall_mem_cons.1 hmute
    exact List.forall_mem_cons.2 ⟨ho.request ▸ hfirst, ih hrest⟩

end

/-! ## Sessions come about -/

omit [UrlParser] in
/-- What is left of a request is code that does not call back, if the request was. -/
theorem Occasion.mute_alone? {p built : LocatorId} {o : Occasion ν} {request : Request ν}
    (h : o.request.Mute) (hrequest : o.alone? p built = some request) : request.Mute := by
  obtain ⟨request', time⟩ := o
  cases request' with
  | build config owner =>
    obtain ⟨-, ⟨⟩⟩ := Option.ite_none_right_eq_some.1 hrequest
    exact h
  | deliver e =>
    obtain rfl := Option.some.inj hrequest
    trivial
  | operate id op =>
    obtain ⟨-, ⟨⟩⟩ := Option.ite_none_right_eq_some.1 hrequest
    trivial
  | aside body => cases hrequest

omit [UrlParser] in
/-- Each occasion that is left has one time, and its code does not call back. -/
theorem forall_alone {p built : LocatorId} {occasions : List (Occasion ν)}
    (h : ∀ o ∈ occasions, o.request.Mute) :
    ∀ o ∈ alone p built occasions, o.request.Mute ∧ ∃ clock, o.time = fun _ => clock := by
  induction occasions generalizing built with
  | nil => exact fun o ho => nomatch ho
  | cons o rest ih =>
    obtain ⟨ho, hrest⟩ := List.forall_mem_cons.1 h
    rw [alone]
    split
    · rename_i request hrequest
      exact List.forall_mem_cons.2 ⟨⟨Occasion.mute_alone? ho hrequest, _, rfl⟩, ih hrest⟩
    · exact ih hrest

omit [UrlParser] in
theorem Request.Mute.quiet {request : Request ν} (h : request.Mute) : request.task.Quiet := by
  cases request with
  | build config owner => exact ⟨fun event => (h event).quiet _, fun _ => trivial⟩
  | aside body => exact Script.Mute.quiet h _
  | _ => trivial

/-- Where each occasion has one time, and no code calls back, the requests can be worked
off one after the other. -/
theorem Session.exists (notes : ν) (occasions : List (Occasion ν))
    (h : ∀ o ∈ occasions, o.request.Mute ∧ ∃ clock, o.time = fun _ => clock) :
    ∃ c shown, Session occasions c shown := by
  induction occasions using List.reverseRecOn with
  | nil => exact ⟨_, _, .fresh notes {} {} 0⟩
  | append_singleton occasions o ih =>
    obtain ⟨hbefore, hlast⟩ := List.forall_mem_append.1 h
    obtain ⟨c, shown, hsession⟩ := ih hbefore
    obtain ⟨ho, clock, htime⟩ := List.forall_mem_singleton.1 hlast
    obtain ⟨hmute, -⟩ := hsession.foretold (fun o ho => (hbefore o ho).1) 0
    have hquiet : ({ c with clock, link := {} } : ControlPoint ν).Quiet := (hmute.turn _ _).quiet
    obtain ⟨n, hn, -⟩ := Task.Passes.of_quiet ho.quiet _ hquiet []
    refine ⟨_, _, hsession.next ((Traced.turn clock {} .start).trans
      (hn ▸ traced_run { c with clock, link := {} } n [o.request.task])) fun step hstep => ?_⟩
    obtain ⟨hclock, hlink⟩ := ControlPoint.surroundings_steps _ _ _ step hstep
    rw [htime]
    exact ⟨fun _ _ _ => by rw [hclock], fun _ _ => by rw [hclock], fun _ _ => by rw [hclock],
      by rw [hlink]⟩

/-! ## Independence -/

/-- Locators that share a router do not come in each other's way. In a session of a program
that builds, operates and drops locators and has messages dispatched, let no code call back
and no search get a reply; owners may panic. Whatever else the program asks for, a locator
knows, listens for and reports what it would by itself: the occasions that are left for it
alone can be worked off, and every session of them at the same times ends with the same
options, cache and flags of the locator, after the same events were told to its owner. They
were told in the same order if the locator goes through its cache in the same order each
time; if it goes through it in another, only losses that follow each other may have changed
places. -/
theorem locators_independent {occasions : List (Occasion ν)} {c : ControlPoint ν}
    {shown : List Entry} (h : Session occasions c shown)
    (hmute : ∀ o ∈ occasions, o.request.Mute) (p : LocatorId) :
    (∃ c' shown', Session (alone p 0 occasions) c' shown') ∧
      ∀ left c' shown', List.Forall₂ Occasion.SameTime (alone p 0 occasions) left →
        Session left c' shown' →
        (c.locator? p).map Locator.bare = (c'.locator? 0).map Locator.bare ∧
          Retold (eventsOf p shown) (eventsOf 0 shown') ∧
          (left = alone p 0 occasions → eventsOf p shown = eventsOf 0 shown') := by
  have halone : ∀ o ∈ alone p 0 occasions, o.request.Mute ∧ ∃ clock, o.time = fun _ => clock :=
    forall_alone hmute
  have hmute' : ∀ o ∈ alone p 0 occasions, o.request.Mute := fun o ho => (halone o ho).1
  refine ⟨Session.exists c.notes _ halone, fun left c' shown' hleft h' => ?_⟩
  obtain ⟨-, hfits⟩ := h.foretold hmute p
  obtain ⟨-, hfits'⟩ := h'.foretold (forall_mute_of_sameTime hleft hmute') 0
  have halike := outlook_alone p occasions
  have hsame := outlook_sameTold hleft 0
  refine ⟨?_, ?_, ?_⟩
  · rw [hfits.locator?, hfits'.locator?, ← hsame.locator?, halike.locator?]
  · rw [hfits.events, hfits'.events, ← halike.events]
    exact hsame.events
  · rintro rfl
    rw [hfits.events, hfits'.events, halike.events]

end

/-- Two locators hear of a device that comes as two types and leaves. The owner of the first
one panics at once, and it is disposed of before the device leaves; other code panics, too. -/
def neighbours : List (Occasion Unit) :=
  [.build .forAll fun _ => .panic .wordless,
    .build .forAll fun _ => .done,
    .operate 0 .start,
    .deliver (messageOf notifyStartLine "NT".toList "a".toList "ssdp:alive".toList),
    .deliver (messageOf notifyStartLine "NT".toList "b".toList "ssdp:alive".toList),
    .aside (.subscribe notifyKey (fun _ => .panic .wordless) fun _ => .done),
    .operate 0 .dispose,
    .deliver (messageOf notifyStartLine "NT".toList "a".toList "ssdp:byebye".toList)].map
      fun request => ⟨request, fun _ => {}⟩

/-- The second one is by itself, and goes through its cache the other way round. -/
def otherWayRound : List (Occasion Unit) :=
  (alone 1 0 neighbours).map fun o => { o with time := fun _ => { order := ⟨[1]⟩ } }

attribute [local instance] UrlParser.verbatim

/-- The second locator reports that the device comes and leaves as both types, as it does by
itself, where it reports the losses the other way round. -/
theorem neighbours_independent : ∃ c shown, Session neighbours c shown ∧
    (c.locator? 0).map (fun l => l.bare.disposed) = some true ∧
    (eventsOf 0 shown).map Event.isNew = [true, true] ∧
    (eventsOf 1 shown).map (fun event => (event.isNew, event.device.notificationType)) =
      [(true, "a".toList), (true, "b".toList), (false, "a".toList), (false, "b".toList)] ∧
    ∃ c' shown', Session otherWayRound c' shown' ∧
      (c.locator? 1).map Locator.bare = (c'.locator? 0).map Locator.bare ∧
      Retold (eventsOf 1 shown) (eventsOf 0 shown') ∧
      (eventsOf 0 shown').map (fun event => (event.isNew, event.device.notificationType)) =
        [(true, "a".toList), (true, "b".toList), (false, "b".toList), (false, "a".toList)] := by
  have hmute : ∀ o ∈ neighbours, o.request.Mute := by
    simp [neighbours, Request.Mute, Script.Mute]
  have hleft : List.Forall₂ Occasion.SameTime (alone 1 0 neighbours) otherWayRound :=
    .cons ⟨rfl, fun _ => rfl⟩ (.cons ⟨rfl, fun _ => rfl⟩ (.cons ⟨rfl, fun _ => rfl⟩
      (.cons ⟨rfl, fun _ => rfl⟩ .nil)))
  have hmute' : ∀ o ∈ otherWayRound, o.request.Mute :=
    forall_mute_of_sameTime hleft fun o ho => (forall_alone hmute o ho).1
  obtain ⟨c, shown, h⟩ := Session.exists () neighbours fun o ho => ⟨hmute o ho, by
    obtain ⟨request, -, rfl⟩ := List.mem_map.1 ho
    exact ⟨{}, rfl⟩⟩
  obtain ⟨c', shown', h'⟩ := Session.exists () otherWayRound fun o ho => ⟨hmute' o ho, by
    obtain ⟨request, -, rfl⟩ := List.mem_map.1 ho
    exact ⟨{ order := ⟨[1]⟩ }, rfl⟩⟩
  obtain ⟨-, hsame⟩ := locators_independent h hmute 1
  obtain ⟨hlocator, hretold, -⟩ := hsame _ c' shown' hleft h'
  obtain ⟨-, hfirst⟩ := h.foretold hmute 0
  obtain ⟨-, hsecond⟩ := h.foretold hmute 1
  obtain ⟨-, hother⟩ := h'.foretold hmute' 0
  refine ⟨c, shown, h, ?_, ?_, ?_, c', shown', h', hlocator, hretold, ?_⟩
  · have hdisposed : (outlook 0 neighbours).locator?.map (·.disposed) = some true := by
      decide +kernel
    rw [← hdisposed, ← hfirst.locator?, Option.map_map]
    rfl
  · rw [hfirst.events]
    decide +kernel
  · rw [hsecond.events]
    decide +kernel
  · rw [hother.events]
    decide +kernel

end Ssdp
