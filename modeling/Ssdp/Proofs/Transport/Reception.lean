import Ssdp.Proofs.ControlPoint.Calm
import Ssdp.Proofs.Transport.Background

/-!
# Receive loops, a dispatcher and a shutdown

In the background there is a loop for each socket, which reads a datagram, parses it and
queues its message before it waits for the next one, and a dispatcher, which takes the
messages from the queue one at a time. A loop whose socket fails to be read puts that on
record, pauses and goes on. A shutdown gives up each loop where it waits or pauses, and
returns when the dispatcher has found the queue empty after that.

* `Reception`, `Reception.step`: loops, dispatcher and shutdown, in any order;
* `Reception.Leads`, `Reception.step_eq_some_iff`: all that an action can do;
* `Reception.Sound`: no loop is given up while it holds a datagram;
* `Reception.Sound.run_background`: what can be seen of them from outside is a background
  run;
* `Reception.traced_of_run`: the dispatcher works off one dispatch after the other;
* `Reception.run_calm`: where code returns instead of panicking, the same happens;
* `Reception.run_untroubled`: had no socket failed to be read, the same would have happened;
* `ControlPoint.todo_take_datagram`: a datagram that is received at once;
* `background_keeps_every_message`: what becomes of the datagrams.
-/

namespace Ssdp

variable {ν : Type}

section

/-- A receive loop: its socket, with the datagrams that wait there, and the datagram that it
has read and not yet dealt with, unless it waits for one; whether it was given up; and
whether it pauses, because its socket could not be read. -/
structure ReceiveLoop where
  localAddress : Address
  waiting : List Arrival
  held : Option Arrival := none
  ended : Bool := false
  pausing : Bool := false

/-- The same loop, when it does not pause. -/
def ReceiveLoop.awake (l : ReceiveLoop) : ReceiveLoop :=
  { l with pausing := false }

/-- How far a shutdown has got: nobody asked for it, loops are being given up, the dispatcher
is waited for, or it has returned. -/
inductive Stage where
  | running
  | stopping
  | draining
  | over
deriving DecidableEq

/-- The loops, the queue, the dispatcher with what is left to do of a dispatch, and what has
happened so far: the datagrams that loops have dealt with, what they have put on record, the
messages that the dispatcher has taken, and the steps that it has performed. -/
structure Reception (ν : Type) where
  loops : List ReceiveLoop
  queue : List Received := []
  stage : Stage := .running
  state : ControlPoint ν
  agenda : List (Task ν) := []
  passed : List (Nat × Arrival) := []
  records : List LogRecord := []
  taken : List Received := []
  performed : List (Step ν) := []

/-- What may happen: a loop reads a datagram, or passes on what it brings; it fails to read
its socket, or has paused long enough; the shutdown is asked for, gives up a loop, or sees
that all have ended; the dispatcher takes a message, or performs a step of its dispatch; the
clock and the link change; or the shutdown returns. -/
inductive ReceptionAction where
  | read (loop : Nat)
  | pass (loop : Nat)
  | fail (loop : Nat) (error : IoError)
  | wake (loop : Nat)
  | stop
  | abort (loop : Nat)
  | join
  | take
  | work
  | turn (clock : Conditions) (link : Link)
  | finish

/-- Whether an action is that a socket fails to be read, or that a loop has paused after it. -/
def ReceptionAction.isTrouble : ReceptionAction → Bool
  | .fail .. | .wake _ => true
  | _ => false

/-- Whether a record says that a socket failed to be read. -/
def LogRecord.isReceiveFailure : LogRecord → Bool
  | .receiveFailed .. => true
  | _ => false

/-- Both are receiving until the loops are gone. -/
def Stage.phase : Stage → Phase
  | .running | .stopping => .receiving
  | .draining => .draining
  | .over => .over

variable [UrlParser]

namespace Reception

/-- Loops for these sockets, before anything has happened. -/
def start (sockets : List WaitingSocket) (c : ControlPoint ν) : Reception ν where
  loops := sockets.map fun w => { localAddress := w.localAddress, waiting := w.waiting }
  state := c

/-- What an action leads to, if it may happen. A loop reads only when it has dealt with the
datagram before, and can be given up only then, also while it pauses. -/
def step (s : Reception ν) : ReceptionAction → Option (Reception ν)
  | .read i =>
    match s.loops[i]? with
    | some ⟨localAddress, a :: waiting, none, false, false⟩ =>
      some { s with loops := s.loops.set i ⟨localAddress, waiting, some a, false, false⟩ }
    | _ => none
  | .pass i =>
    match s.loops[i]? with
    | some ⟨localAddress, waiting, some a, ended, pausing⟩ =>
      some { s with
        loops := s.loops.set i ⟨localAddress, waiting, none, ended, pausing⟩
        queue := s.queue ++ (a.received? localAddress).toList
        passed := s.passed ++ [(i, a)]
        records := s.records ++ a.records localAddress }
    | _ => none
  | .fail i error =>
    match s.loops[i]? with
    | some ⟨localAddress, waiting, none, false, false⟩ =>
      some { s with
        loops := s.loops.set i ⟨localAddress, waiting, none, false, true⟩
        records := s.records ++ [.receiveFailed localAddress error] }
    | _ => none
  | .wake i =>
    match s.loops[i]? with
    | some ⟨localAddress, waiting, none, false, true⟩ =>
      some { s with loops := s.loops.set i ⟨localAddress, waiting, none, false, false⟩ }
    | _ => none
  | .stop => if s.stage = .running then some { s with stage := .stopping } else none
  | .abort i =>
    match s.loops[i]? with
    | some ⟨localAddress, waiting, none, _, pausing⟩ =>
      if s.stage = .stopping then
        some { s with loops := s.loops.set i ⟨localAddress, waiting, none, true, pausing⟩ }
      else none
    | _ => none
  | .join =>
    if s.stage = .stopping ∧ ∀ l ∈ s.loops, l.ended = true then
      some { s with stage := .draining }
    else none
  | .take =>
    match s.queue, s.agenda with
    | e :: queue, [] =>
      if s.stage = .over then none
      else some { s with queue, agenda := [.deliver e], taken := s.taken ++ [e] }
    | _, _ => none
  | .work =>
    match s.agenda with
    | task :: rest =>
      let o := s.state.perform task
      some { s with
        state := o.state
        agenda := o.todo ++ rest
        performed := s.performed ++ [⟨s.state, task⟩] }
    | [] => none
  | .turn clock link => some { s with state := { s.state with clock, link } }
  | .finish =>
    match s.queue, s.agenda with
    | [], [] => if s.stage = .draining then some { s with stage := .over } else none
    | _, _ => none

/-- The result of actions one after the other, if each may happen. -/
def run (s : Reception ν) : List ReceptionAction → Option (Reception ν)
  | [] => some s
  | action :: rest => (s.step action).bind (·.run rest)

/-- What each action may lead to. -/
inductive Leads (s : Reception ν) : ReceptionAction → Reception ν → Prop
  | read {i : Nat} {localAddress : Address} {a : Arrival} {waiting : List Arrival}
    (hloop : s.loops[i]? = some ⟨localAddress, a :: waiting, none, false, false⟩) :
    Leads s (.read i) { s with
      loops := s.loops.set i ⟨localAddress, waiting, some a, false, false⟩ }
  | pass {i : Nat} {localAddress : Address} {a : Arrival} {waiting : List Arrival}
    {ended pausing : Bool}
    (hloop : s.loops[i]? = some ⟨localAddress, waiting, some a, ended, pausing⟩) :
    Leads s (.pass i) { s with
      loops := s.loops.set i ⟨localAddress, waiting, none, ended, pausing⟩
      queue := s.queue ++ (a.received? localAddress).toList
      passed := s.passed ++ [(i, a)]
      records := s.records ++ a.records localAddress }
  | fail {i : Nat} {error : IoError} {localAddress : Address} {waiting : List Arrival}
    (hloop : s.loops[i]? = some ⟨localAddress, waiting, none, false, false⟩) :
    Leads s (.fail i error) { s with
      loops := s.loops.set i ⟨localAddress, waiting, none, false, true⟩
      records := s.records ++ [.receiveFailed localAddress error] }
  | wake {i : Nat} {localAddress : Address} {waiting : List Arrival}
    (hloop : s.loops[i]? = some ⟨localAddress, waiting, none, false, true⟩) :
    Leads s (.wake i) { s with
      loops := s.loops.set i ⟨localAddress, waiting, none, false, false⟩ }
  | stop (hstage : s.stage = .running) : Leads s .stop { s with stage := .stopping }
  | abort {i : Nat} {localAddress : Address} {waiting : List Arrival} {ended pausing : Bool}
    (hloop : s.loops[i]? = some ⟨localAddress, waiting, none, ended, pausing⟩)
    (hstage : s.stage = .stopping) :
    Leads s (.abort i) { s with
      loops := s.loops.set i ⟨localAddress, waiting, none, true, pausing⟩ }
  | join (hstage : s.stage = .stopping) (hended : ∀ l ∈ s.loops, l.ended = true) :
    Leads s .join { s with stage := .draining }
  | take {e : Received} {queue : List Received} (hqueue : s.queue = e :: queue)
    (hagenda : s.agenda = []) (hstage : s.stage ≠ .over) :
    Leads s .take { s with queue, agenda := [.deliver e], taken := s.taken ++ [e] }
  | work {task : Task ν} {rest : List (Task ν)} (hagenda : s.agenda = task :: rest) :
    Leads s .work { s with
      state := (s.state.perform task).state
      agenda := (s.state.perform task).todo ++ rest
      performed := s.performed ++ [⟨s.state, task⟩] }
  | turn (clock : Conditions) (link : Link) :
    Leads s (.turn clock link) { s with state := { s.state with clock, link } }
  | finish (hqueue : s.queue = []) (hagenda : s.agenda = []) (hstage : s.stage = .draining) :
    Leads s .finish { s with stage := .over }

variable {s s' : Reception ν} {action : ReceptionAction}

theorem leads_of_step (h : s.step action = some s') : s.Leads action s' := by
  cases action with
  | read i =>
    simp only [step] at h
    split at h
    · rename_i hloop
      obtain rfl := Option.some.inj h
      exact .read hloop
    · cases h
  | pass i =>
    simp only [step] at h
    split at h
    · rename_i hloop
      obtain rfl := Option.some.inj h
      exact .pass hloop
    · cases h
  | fail i error =>
    simp only [step] at h
    split at h
    · rename_i hloop
      obtain rfl := Option.some.inj h
      exact .fail hloop
    · cases h
  | wake i =>
    simp only [step] at h
    split at h
    · rename_i hloop
      obtain rfl := Option.some.inj h
      exact .wake hloop
    · cases h
  | stop =>
    obtain ⟨hstage, h⟩ := Option.ite_none_right_eq_some.1 h
    obtain rfl := Option.some.inj h
    exact .stop hstage
  | abort i =>
    simp only [step] at h
    split at h
    · rename_i hloop
      obtain ⟨hstage, h⟩ := Option.ite_none_right_eq_some.1 h
      obtain rfl := Option.some.inj h
      exact .abort hloop hstage
    · cases h
  | join =>
    obtain ⟨⟨hstage, hended⟩, h⟩ := Option.ite_none_right_eq_some.1 h
    obtain rfl := Option.some.inj h
    exact .join hstage hended
  | take =>
    simp only [step] at h
    split at h
    · rename_i hqueue hagenda
      obtain ⟨hstage, h⟩ := Option.ite_none_left_eq_some.1 h
      obtain rfl := Option.some.inj h
      exact .take hqueue hagenda hstage
    · cases h
  | work =>
    simp only [step] at h
    split at h
    · rename_i hagenda
      obtain rfl := Option.some.inj h
      exact .work hagenda
    · cases h
  | turn clock link =>
    obtain rfl := Option.some.inj h
    exact .turn clock link
  | finish =>
    simp only [step] at h
    split at h
    · rename_i hqueue hagenda
      obtain ⟨hstage, h⟩ := Option.ite_none_right_eq_some.1 h
      obtain rfl := Option.some.inj h
      exact .finish hqueue hagenda hstage
    · cases h

theorem step_eq_some_iff : s.step action = some s' ↔ s.Leads action s' := by
  refine ⟨leads_of_step, fun h => ?_⟩
  cases h with
  | read hloop | pass hloop | fail hloop | wake hloop => simp only [step, hloop]
  | stop hstage => exact if_pos hstage
  | abort hloop hstage => simp only [step, hloop, if_pos hstage]
  | join hstage hended => exact if_pos ⟨hstage, hended⟩
  | take hqueue hagenda hstage => simp only [step, hqueue, hagenda, if_neg hstage]
  | work hagenda => simp only [step, hagenda]
  | turn clock link => rfl
  | finish hqueue hagenda hstage => simp only [step, hqueue, hagenda, if_pos hstage]

/-- What every action keeps is kept by any number of them. -/
theorem run_induction {P : Reception ν → Prop}
    (hstep : ∀ s action s', P s → Leads s action s' → P s') {actions : List ReceptionAction}
    (hs : P s) (h : s.run actions = some s') : P s' := by
  induction actions generalizing s with
  | nil =>
    obtain rfl := Option.some.inj h
    exact hs
  | cons action rest ih =>
    obtain ⟨s₁, hfirst, hrest⟩ := Option.bind_eq_some_iff.1 h
    exact ih (hstep s action s₁ hs (leads_of_step hfirst)) hrest

/-! ## No loop is given up with a datagram in its hands -/

/-- A loop that has ended holds nothing, and the loops have ended before the dispatcher is
waited for, which has nothing to do when the shutdown returns. -/
structure Sound (s : Reception ν) : Prop where
  held : ∀ l ∈ s.loops, l.ended = true → l.held = none
  ended : s.stage = .draining ∨ s.stage = .over → ∀ l ∈ s.loops, l.ended = true
  idle : s.stage = .over → s.queue = [] ∧ s.agenda = []

omit [UrlParser] in
theorem sound_start (sockets : List WaitingSocket) (c : ControlPoint ν) :
    (start sockets c).Sound := by
  refine ⟨List.forall_mem_map.2 fun w _ => nofun, fun h => ?_, nofun⟩
  rcases h with h | h <;> cases h

/-- After the loops have ended, none of them reads or passes anything on. -/
theorem Sound.loops_eq (hs : s.Sound) (hstage : s.stage = .draining ∨ s.stage = .over)
    (h : s.Leads action s') : s'.loops = s.loops := by
  cases h with
  | read hloop | fail hloop | wake hloop =>
    have hended := hs.ended hstage _ (List.mem_of_getElem? hloop)
    cases hended
  | pass hloop =>
    have hmem := List.mem_of_getElem? hloop
    have hheld := hs.held _ hmem (hs.ended hstage _ hmem)
    cases hheld
  | abort hloop hstopping => rcases hstage with h | h <;> rw [h] at hstopping <;> cases hstopping
  | _ => rfl

theorem Sound.leads (hs : s.Sound) (h : s.Leads action s') : s'.Sound := by
  -- Where the loops have ended, the action is none of theirs.
  have hended (hstage : s.stage = .draining ∨ s.stage = .over) :
      ∀ l ∈ s'.loops, l.ended = true := by
    rw [hs.loops_eq hstage h]
    exact hs.ended hstage
  cases h with
  | read hloop | fail hloop | wake hloop =>
    refine ⟨fun l hl => ?_, hended, hs.idle⟩
    obtain hl | rfl := List.mem_or_eq_of_mem_set hl
    · exact hs.held l hl
    · exact nofun
  | pass hloop =>
    refine ⟨fun l hl => ?_, hended, fun hover => ?_⟩
    · obtain hl | rfl := List.mem_or_eq_of_mem_set hl
      · exact hs.held l hl
      · exact fun _ => rfl
    · have hmem := List.mem_of_getElem? hloop
      have hheld := hs.held _ hmem (hs.ended (.inr hover) _ hmem)
      cases hheld
  | stop hstage => exact ⟨hs.held, nofun, nofun⟩
  | abort hloop hstage =>
    refine ⟨fun l hl => ?_, hended, hs.idle⟩
    obtain hl | rfl := List.mem_or_eq_of_mem_set hl
    · exact hs.held l hl
    · exact fun _ => rfl
  | join hstage hall => exact ⟨hs.held, fun _ => hall, nofun⟩
  | take hqueue hagenda hstage => exact ⟨hs.held, hs.ended, fun hover => absurd hover hstage⟩
  | work hagenda =>
    refine ⟨hs.held, hs.ended, fun hover => ?_⟩
    rw [(hs.idle hover).2] at hagenda
    cases hagenda
  | turn clock link => exact ⟨hs.held, hs.ended, hs.idle⟩
  | finish hqueue hagenda hstage =>
    exact ⟨hs.held, fun _ => hs.ended (.inl hstage), fun _ => ⟨hqueue, hagenda⟩⟩

/-- When the shutdown has returned, nothing happens but that the clock and the link change. -/
theorem Sound.over (hs : s.Sound) (hover : s.stage = .over) (h : s.Leads action s') :
    ∃ clock link, s' = { s with state := { s.state with clock, link } } := by
  have hloops := hs.ended (.inr hover)
  obtain ⟨hqueue, hagenda⟩ := hs.idle hover
  cases h with
  | read hloop | fail hloop | wake hloop => cases hloops _ (List.mem_of_getElem? hloop)
  | pass hloop =>
    have hmem := List.mem_of_getElem? hloop
    have hheld := hs.held _ hmem (hloops _ hmem)
    cases hheld
  | turn clock link => exact ⟨clock, link, rfl⟩
  | _ => simp_all

/-! ## What can be seen from outside -/

/-- The loops with all that they have not passed on, and the messages that are queued or were
taken. -/
def background (s : Reception ν) : Background where
  sockets := s.loops.map fun l => ⟨l.localAddress, l.held.toList ++ l.waiting⟩
  queue := s.queue
  dispatched := s.taken
  phase := s.stage.phase

omit [UrlParser] in
theorem background_start (sockets : List WaitingSocket) (c : ControlPoint ν) :
    (start sockets c).background = { sockets } := by
  have hsockets : ((start sockets c).loops.map fun l =>
      (⟨l.localAddress, l.held.toList ++ l.waiting⟩ : WaitingSocket)) = sockets := by
    rw [start, List.map_map]
    exact List.map_id sockets
  rw [background, hsockets]
  rfl

omit [UrlParser] in
/-- Changing a loop is no change from outside if it holds and waits for the same. -/
theorem background_set {i : Nat} {l l' : ReceiveLoop} (hloop : s.loops[i]? = some l)
    (haddress : l'.localAddress = l.localAddress)
    (hwaiting : l'.held.toList ++ l'.waiting = l.held.toList ++ l.waiting) :
    ({ s with loops := s.loops.set i l' } : Reception ν).background = s.background := by
  have hsockets : (s.loops.set i l').map (fun l =>
      (⟨l.localAddress, l.held.toList ++ l.waiting⟩ : WaitingSocket)) =
        s.loops.map fun l => ⟨l.localAddress, l.held.toList ++ l.waiting⟩ := by
    obtain ⟨hi, rfl⟩ := List.getElem?_eq_some_iff.1 hloop
    rw [List.map_set, haddress, hwaiting, ← List.map_set, List.set_getElem_self]
  simp only [background, hsockets]

/-- Each action is at most one action of the background: reading is, when a datagram is
passed on. -/
theorem Sound.background (hs : s.Sound) (h : s.Leads action s') :
    ∃ actions, s.background.steps actions = some s'.background ∧
      s'.passed = s.passed ++ s.background.reads actions := by
  have unseen (hbackground : s'.background = s.background) (hpassed : s'.passed = s.passed) :
      ∃ actions, s.background.steps actions = some s'.background ∧
        s'.passed = s.passed ++ s.background.reads actions :=
    ⟨[], congrArg some hbackground.symm, hpassed.trans (List.append_nil _).symm⟩
  have seen (act : BackgroundAction) (hleads : s.background.Leads act s'.background)
      (hpassed : s'.passed = s.passed ++ (s.background.read? act).toList) :
      ∃ actions, s.background.steps actions = some s'.background ∧
        s'.passed = s.passed ++ s.background.reads actions := by
    have hstep := Background.step_eq_some_iff.2 hleads
    refine ⟨[act], ?_, ?_⟩
    · rw [Background.steps, hstep]
      rfl
    · rw [hpassed, Background.reads, hstep]
      exact congrArg _ (List.append_nil _).symm
  cases h with
  | read hloop | fail hloop | wake hloop => exact unseen (background_set hloop rfl rfl) rfl
  | @pass i localAddress a waiting ended pausing hloop =>
    have hphase : s.background.phase = .receiving := by
      have hmem := List.mem_of_getElem? hloop
      have hopen : ¬(s.stage = .draining ∨ s.stage = .over) := by
        intro hstage
        have hheld := hs.held _ hmem (hs.ended hstage _ hmem)
        cases hheld
      show s.stage.phase = _
      cases hstage : s.stage <;> simp_all [Stage.phase]
    have hsocket : s.background.sockets[i]? = some ⟨localAddress, a :: waiting⟩ := by
      simp [Reception.background, hloop]
    have hread := Background.Leads.read hphase hsocket
    refine seen (.read i) ?_ ?_
    · simpa [Reception.background, List.map_set] using hread
    · have htake : s.background.takeFirst? i = some (⟨localAddress, waiting⟩, a) :=
        Background.takeFirst?_eq_some_iff.2 hsocket
      rw [Background.read?, htake]
      rfl
  | stop hstage =>
    refine unseen ?_ rfl
    simp only [Reception.background, hstage]
    rfl
  | abort hloop hstage => exact unseen (background_set hloop rfl rfl) rfl
  | join hstage hall =>
    have hphase : s.background.phase = .receiving := congrArg Stage.phase hstage
    exact seen .shutdown (.shutdown hphase) (List.append_nil _).symm
  | take hqueue hagenda hstage =>
    have hphase : s.background.phase ≠ .over := by
      show s.stage.phase ≠ _
      cases hs' : s.stage <;> simp_all [Stage.phase]
    exact seen .dispatch (.dispatch hqueue hphase) (List.append_nil _).symm
  | work hagenda => exact unseen rfl rfl
  | turn clock link => exact unseen rfl rfl
  | finish hqueue hagenda hstage =>
    have hphase : s.background.phase = .draining := congrArg Stage.phase hstage
    exact seen .finish (.finish hphase hqueue) (List.append_nil _).symm

/-- What can be seen of the loops, the dispatcher and the shutdown is a background run, in
which a datagram is read when a loop passes it on. -/
theorem Sound.run_background (hs : s.Sound) {actions : List ReceptionAction}
    (h : s.run actions = some s') :
    ∃ seen, s.background.steps seen = some s'.background ∧
      s'.passed = s.passed ++ s.background.reads seen := by
  induction actions generalizing s with
  | nil =>
    obtain rfl := Option.some.inj h
    exact ⟨[], rfl, (List.append_nil _).symm⟩
  | cons action rest ih =>
    obtain ⟨s₁, hfirst, hrest⟩ := Option.bind_eq_some_iff.1 h
    have hleads := leads_of_step hfirst
    obtain ⟨first, hsteps, hpassed⟩ := hs.background hleads
    obtain ⟨later, hsteps', hpassed'⟩ := ih (hs.leads hleads) hrest
    refine ⟨first ++ later, ?_, ?_⟩
    · rw [Background.steps_append, hsteps]
      exact hsteps'
    · rw [hpassed', hpassed, Background.reads_append hsteps, List.append_assoc]

/-! ## The dispatcher -/

/-- The dispatcher does what it does for one message after the other. -/
theorem traced_of_run {sockets : List WaitingSocket} {c : ControlPoint ν}
    {actions : List ReceptionAction} (h : (start sockets c).run actions = some s) :
    Traced c (s.taken.map .deliver) s.performed s.state s.agenda := by
  refine run_induction (P := fun s => Traced c (s.taken.map .deliver) s.performed s.state s.agenda)
    (fun s action s' hs hleads => ?_) .start h
  cases hleads with
  | take hqueue hagenda hstage =>
    rw [hagenda] at hs
    rw [List.map_append]
    exact hs.append [.deliver _]
  | work hagenda =>
    rw [hagenda] at hs
    exact hs.perform
  | turn clock link => exact hs.turn clock link
  | _ => exact hs

/-! ## Panics -/

/-- The same, with code that returns where it would panic. -/
def calm (soothed : CallerKind → Bool) (s : Reception ν) : Reception ν :=
  { s with
    state := s.state.calm soothed
    agenda := s.agenda.map (·.calm soothed)
    performed := s.performed.map (·.calm soothed) }

theorem step_calm (soothed : CallerKind → Bool) (s : Reception ν) (action : ReceptionAction) :
    (s.calm soothed).step action = (s.step action).map (·.calm soothed) := by
  obtain ⟨loops, queue, stage, state, agenda, passed, records, taken, performed⟩ := s
  cases action with
  | read i | pass i | fail i error | wake i =>
    simp only [step, calm]
    split <;> rfl
  | abort i =>
    simp only [step, calm]
    split
    · cases stage <;> rfl
    · rfl
  | stop => cases stage <;> rfl
  | join =>
    simp only [step, apply_ite (Option.map _)]
    rfl
  | take =>
    cases queue with
    | nil => rfl
    | cons e queue =>
      cases agenda with
      | nil => cases stage <;> rfl
      | cons task rest => rfl
  | work =>
    cases agenda with
    | nil => rfl
    | cons task rest =>
      simp only [step, calm, List.map_cons, Option.map_some, List.map_append,
        state.state_perform_calm, state.todo_perform_calm]
      rfl
  | turn clock link => rfl
  | finish =>
    cases queue with
    | nil =>
      cases agenda with
      | nil => cases stage <;> rfl
      | cons task rest => rfl
    | cons e queue => rfl

/-- Where code returns instead of panicking, the same may happen, with the same messages. -/
theorem run_calm (soothed : CallerKind → Bool) (s : Reception ν) (actions : List ReceptionAction) :
    (s.calm soothed).run actions = (s.run actions).map (·.calm soothed) := by
  induction actions generalizing s with
  | nil => rfl
  | cons action rest ih =>
    rw [run, step_calm, run, Option.bind_map, Option.map_bind]
    exact Option.bind_congr fun s' _ => ih s'

omit [UrlParser] in
theorem calm_start (soothed : CallerKind → Bool) (sockets : List WaitingSocket)
    (c : ControlPoint ν) : (start sockets c).calm soothed = start sockets (c.calm soothed) := rfl

/-! ## Sockets that fail to be read -/

/-- The same, with no trace of a socket that failed to be read. -/
def untroubled (s : Reception ν) : Reception ν :=
  { s with
    loops := s.loops.map ReceiveLoop.awake
    records := s.records.filter fun r => !r.isReceiveFailure }

omit [UrlParser] in
/-- A datagram that is dealt with is put on record as what it is. -/
theorem filter_records (a : Arrival) (localAddress : Address) :
    (a.records localAddress).filter (fun r => !r.isReceiveFailure) = a.records localAddress := by
  refine List.filter_eq_self.2 fun r hr => ?_
  unfold Arrival.records accept at hr
  split at hr
  · cases hr
  · split at hr
    · obtain ⟨line, -, rfl⟩ := List.mem_map.1 hr
      rfl
    · obtain rfl := List.mem_singleton.1 hr
      rfl

omit [UrlParser] in
/-- Changing a loop leaves no other trace than that it pauses, if it is the same when awake. -/
theorem untroubled_set {i : Nat} {l : ReceiveLoop} (l' : ReceiveLoop)
    (hloop : s.loops[i]? = some l) (hl : l'.awake = l.awake) :
    ({ s with loops := s.loops.set i l' } : Reception ν).untroubled = s.untroubled := by
  have hloops : (s.loops.set i l').map ReceiveLoop.awake = s.loops.map ReceiveLoop.awake := by
    obtain ⟨hi, rfl⟩ := List.getElem?_eq_some_iff.1 hloop
    rw [List.map_set, hl, ← List.map_set, List.set_getElem_self]
  simp only [untroubled, hloops]

/-- A socket that fails to be read leaves a trace, and nothing else. -/
theorem Leads.untroubled_eq (h : s.Leads action s') (htrouble : action.isTrouble = true) :
    s'.untroubled = s.untroubled := by
  cases h with
  | @fail i error localAddress waiting hloop =>
    have hrecords : (s.records ++ [LogRecord.receiveFailed localAddress error]).filter
        (fun r => !r.isReceiveFailure) = s.records.filter fun r => !r.isReceiveFailure := by
      rw [List.filter_append, List.filter_cons_of_neg Bool.false_ne_true,
        List.filter_nil, List.append_nil]
    rw [← untroubled_set ⟨localAddress, waiting, none, false, true⟩ hloop rfl]
    simp only [untroubled, hrecords]
  | wake hloop => exact untroubled_set _ hloop rfl
  | _ => cases htrouble

/-- Every other action may happen without the trace, with the same result. -/
theorem Leads.step_untroubled (h : s.Leads action s') (hplain : action.isTrouble = false) :
    s.untroubled.step action = some s'.untroubled := by
  cases h with
  | fail hloop | wake hloop => cases hplain
  | read hloop => simp [step, untroubled, ReceiveLoop.awake, hloop, List.map_set]
  | pass hloop =>
    simp [step, untroubled, ReceiveLoop.awake, hloop, List.map_set, filter_records]
  | abort hloop hstage => simp [step, untroubled, ReceiveLoop.awake, hloop, hstage, List.map_set]
  | join hstage hended =>
    exact step_eq_some_iff.2 (.join hstage (List.forall_mem_map.2 hended))
  | stop hstage => exact step_eq_some_iff.2 (.stop hstage)
  | take hqueue hagenda hstage => exact step_eq_some_iff.2 (.take hqueue hagenda hstage)
  | work hagenda => exact step_eq_some_iff.2 (.work hagenda)
  | turn clock link => rfl
  | finish hqueue hagenda hstage => exact step_eq_some_iff.2 (.finish hqueue hagenda hstage)

/-- Had no socket failed to be read, all else would have happened just the same. -/
theorem run_untroubled {actions : List ReceptionAction} (h : s.run actions = some s') :
    s.untroubled.run (actions.filter fun action => !action.isTrouble) =
      some s'.untroubled := by
  induction actions generalizing s with
  | nil =>
    obtain rfl := Option.some.inj h
    rfl
  | cons action rest ih =>
    obtain ⟨s₁, hfirst, hrest⟩ := Option.bind_eq_some_iff.1 h
    have hleads := leads_of_step hfirst
    have hih := ih hrest
    cases hact : action.isTrouble with
    | false =>
      rw [List.filter_cons_of_pos (by rw [hact]; rfl), run, hleads.step_untroubled hact]
      exact hih
    | true =>
      rw [List.filter_cons_of_neg (by rw [hact]; decide), ← hleads.untroubled_eq hact]
      exact hih

omit [UrlParser] in
theorem untroubled_start (sockets : List WaitingSocket) (c : ControlPoint ν) :
    (start sockets c).untroubled = start sockets c := by
  simp [start, untroubled, ReceiveLoop.awake]

end Reception

/-! ## Nothing gets lost -/

/-- What room there is in the buffer of a datagram is received at once as the message that
is queued for it, if there is one. -/
theorem ControlPoint.todo_take_datagram (c : ControlPoint ν) (a : Arrival)
    (localAddress : Address) :
    (c.perform (.take (.datagram (a.datagram.extract 0 bufferSize) a.sender localAddress))).todo =
      (a.received? localAddress).toList.map .deliver := by
  have htake (datagram : ByteArray) :
      (c.take (.datagram datagram a.sender localAddress)).todo =
        (accept datagram a.sender localAddress).1.toList.map .deliver := by
    simp only [take, Reply.read?, accept]
    cases Message.read? datagram <;> rfl
  rw [perform, htake, Arrival.received?_eq_accept]

/-- What becomes of datagrams that sockets are read for in the background, whatever happens
when. What can be seen is a background run. What a socket had waiting at first has been
passed on by its loop, the one after the other, except for what the loop holds and what
waits still. The messages that were taken or are queued are those of the datagrams that
were passed on, in the same order; the message of a datagram is the one that is delivered
when as much of it as the buffer has room for is received at once. The messages taken are
delivered one after the other. All this does not depend on whether code panics, nor on
whether and when sockets fail to be read in between. When the shutdown has returned, no loop
holds anything, no message is queued or being delivered, and none will ever be. -/
theorem background_keeps_every_message {sockets : List WaitingSocket} {c : ControlPoint ν}
    {actions : List ReceptionAction} {s : Reception ν}
    (h : (Reception.start sockets c).run actions = some s) :
    (∃ seen, ({ sockets } : Background).steps seen = some s.background ∧
      ({ sockets } : Background).reads seen = s.passed) ∧
    (∀ (i : Nat) w, sockets[i]? = some w → ∃ l, s.loops[i]? = some l ∧
      l.localAddress = w.localAddress ∧
      w.waiting = onSocket i s.passed ++ l.held.toList ++ l.waiting) ∧
    (s.taken ++ s.queue = s.passed.filterMap fun (i, a) =>
      sockets[i]?.bind fun w => a.received? w.localAddress) ∧
    (∀ (c' : ControlPoint ν) (a : Arrival) (localAddress : Address),
      (c'.perform (.take (.datagram (a.datagram.extract 0 8192) a.sender localAddress))).todo =
        (a.received? localAddress).toList.map .deliver) ∧
    Traced c (s.taken.map .deliver) s.performed s.state s.agenda ∧
    (∀ soothed, (Reception.start sockets (c.calm soothed)).run actions =
      some (s.calm soothed)) ∧
    (Reception.start sockets c).run (actions.filter fun action => !action.isTrouble) =
      some s.untroubled ∧
    (s.stage = .over → (∀ l ∈ s.loops, l.held = none) ∧ s.queue = [] ∧ s.agenda = [] ∧
      ∀ more s', s.run more = some s' → s'.stage = .over ∧ s'.loops = s.loops ∧
        s'.passed = s.passed ∧ s'.taken = s.taken ∧ s'.performed = s.performed) := by
  have hstart := Reception.sound_start sockets c
  have hsound : s.Sound := Reception.run_induction (fun _ _ _ hs => hs.leads) hstart h
  obtain ⟨seen, hsteps, hpassed⟩ := hstart.run_background h
  rw [Reception.background_start] at hsteps hpassed
  have hreads : ({ sockets } : Background).reads seen = s.passed := hpassed.symm
  have hfollows := Background.follows_steps hsteps
  rw [hreads] at hfollows
  refine ⟨⟨seen, hsteps, hreads⟩, fun i w hw => ?_, hfollows.messages,
    fun c' a localAddress => c'.todo_take_datagram a localAddress, Reception.traced_of_run h,
    fun soothed => ?_, ?_, fun hover => ?_⟩
  · obtain ⟨waiting, hw', hwaiting⟩ := hfollows.sockets i w hw
    rw [Reception.background, List.getElem?_map] at hw'
    obtain ⟨l, hl, hsocket⟩ := Option.map_eq_some_iff.1 hw'
    obtain ⟨haddress, rfl⟩ := WaitingSocket.mk.inj hsocket
    exact ⟨l, hl, haddress, hwaiting.trans (List.append_assoc _ _ _).symm⟩
  · rw [← Reception.calm_start, Reception.run_calm, h]
    rfl
  · rw [← Reception.run_untroubled h, Reception.untroubled_start]
  · obtain ⟨hqueue, hagenda⟩ := hsound.idle hover
    refine ⟨fun l hl => hsound.held l hl (hsound.ended (.inr hover) l hl), hqueue, hagenda,
      fun more s' hmore => ?_⟩
    refine (Reception.run_induction (P := fun s' => s'.Sound ∧ s'.stage = .over ∧
      s'.loops = s.loops ∧ s'.passed = s.passed ∧ s'.taken = s.taken ∧
      s'.performed = s.performed) ?_ ⟨hsound, hover, rfl, rfl, rfl, rfl⟩ hmore).2
    rintro s₁ action s₂ ⟨hs₁, hover₁, hkept⟩ hleads
    obtain ⟨clock, link, rfl⟩ := hs₁.over hover₁ hleads
    exact ⟨hs₁.leads hleads, hover₁, hkept⟩

end

/-- An announcement of a type, as it arrives. -/
def Arrival.announcing (type : String) : Arrival where
  datagram := ("NOTIFY * HTTP/1.1\r\nNT: " ++ type ++ "\r\n\r\n").toUTF8
  sender := .v4 ⟨5⟩ 1900

/-- Two sockets. Of the datagrams that wait on them one is empty and one is no message. -/
def twoSockets : List WaitingSocket :=
  [⟨.v4 ⟨1⟩, [.announcing "a", ⟨.empty, .v4 ⟨5⟩ 1900⟩, .announcing "c"]⟩,
    ⟨.v4 ⟨2⟩, [⟨"\r\n\r\n".toUTF8, .v4 ⟨5⟩ 1900⟩, .announcing "b", .announcing "d"]⟩]

/-- A handler that notes which type is announced, and panics. -/
def startled : ControlPoint (List Text) where
  notes := []
  router := (({} : Router _).subscribe notifyKey (.code fun e =>
    .note (· ++ (e.message.headers.get? "NT".toList).toList) fun _ => .panic .wordless)).1

/-- The second socket is quicker than the first. It fails twice to be read, and its loop is
given up before it reads the last datagram; the shutdown is asked for while the first
message is being delivered. -/
def hurried : List ReceptionAction :=
  [.read 0, .fail 1 .networkUnreachable, .wake 1, .read 1, .pass 1, .read 1, .pass 1, .pass 0,
    .take, .work, .stop, .read 0, .work, .pass 0, .fail 1 .networkUnreachable, .abort 1, .read 0,
    .work, .pass 0, .work, .abort 0, .join,
    .take, .work, .work, .work, .work, .take, .work, .work, .work, .work, .finish]

attribute [local instance] UrlParser.verbatim

/-- All messages that were read are delivered in the order in which they were queued, to a
handler that panics every time, and they would have been, had no socket failed. -/
theorem hurried_keeps_every_message :
    ∃ s, (Reception.start twoSockets startled).run hurried = some s ∧ s.stage = .over ∧
      s.passed.map (·.1) = [1, 1, 0, 0, 0] ∧
      s.records.map (·.isReceiveFailure) = [true, false, true] ∧
      s.taken = (s.passed.filterMap fun (i, a) =>
        twoSockets[i]?.bind fun w => a.received? w.localAddress) ∧
      s.state.notes = ["b".toList, "a".toList, "c".toList] ∧
      (∃ s', (Reception.start twoSockets (startled.calm fun _ => true)).run hurried = some s' ∧
        s'.taken = s.taken) ∧
      (∃ s', (Reception.start twoSockets startled).run (hurried.filter (!·.isTrouble)) = some s' ∧
        s'.taken = s.taken) ∧
      ∀ more s', s.run more = some s' → s'.taken = s.taken := by
  have hrun : ((Reception.start twoSockets startled).run hurried).map (fun s =>
      (s.stage, s.passed.map (·.1), s.records.map (·.isReceiveFailure), s.state.notes)) =
        some (.over, [1, 1, 0, 0, 0], [true, false, true],
          ["b".toList, "a".toList, "c".toList]) := by
    decide +kernel
  obtain ⟨s, hs, hseen⟩ := Option.map_eq_some_iff.1 hrun
  obtain ⟨hover, hseen⟩ := Prod.mk.inj hseen
  obtain ⟨hpassed, hseen⟩ := Prod.mk.inj hseen
  obtain ⟨hrecords, hnotes⟩ := Prod.mk.inj hseen
  obtain ⟨-, -, hmessages, -, -, hcalm, huntroubled, hend⟩ := background_keeps_every_message hs
  obtain ⟨-, hqueue, -, hlater⟩ := hend hover
  rw [hqueue, List.append_nil] at hmessages
  exact ⟨s, hs, hover, hpassed, hrecords, hmessages, hnotes, ⟨_, hcalm _, rfl⟩,
    ⟨_, huntroubled, rfl⟩,
    fun more s' hmore => (hlater more s' hmore).2.2.2.1⟩

end Ssdp
