import Ssdp.Transport.Receive

/-!
# Messages on their way through the background

Between the sockets and the handlers there is one queue. In whichever order sockets are read
and messages are dispatched, those that are dispatched or queued are the ones that were read,
in the order in which they were.

* `Background.Leads`, `Background.step_eq_some_iff`: all that an action can do;
* `Background.reads`: the datagrams that were read, and from which socket;
* `Background.Follows`, `Background.follows_steps`: nothing that is read gets lost, is
  doubled or overtakes another.
-/

namespace Ssdp

/-- The datagrams of one socket among those that were read. -/
def onSocket (socket : Nat) (reads : List (Nat × Arrival)) : List Arrival :=
  reads.filterMap fun r => if r.1 = socket then some r.2 else none

/-- What is queued for an arrival is what the room in the buffer takes of it: no bytes are
no message either way. -/
theorem Arrival.received?_eq_accept (a : Arrival) (localAddress : Address) :
    a.received? localAddress =
      (accept (a.datagram.extract 0 bufferSize) a.sender localAddress).1 := by
  rw [received?]
  split
  · rename_i hempty
    have hnone : a.datagram = ByteArray.empty :=
      ByteArray.size_eq_zero_iff.1 (beq_iff_eq.1 hempty)
    rw [hnone]
    rfl
  · rfl

@[simp] theorem onSocket_append (socket : Nat) (reads more : List (Nat × Arrival)) :
    onSocket socket (reads ++ more) = onSocket socket reads ++ onSocket socket more :=
  List.filterMap_append

namespace Background

/-- What each action may lead to. -/
inductive Leads (b : Background) : BackgroundAction → Background → Prop
  | read {socket : Nat} {localAddress : Address} {a : Arrival} {waiting : List Arrival}
    (hphase : b.phase = .receiving)
    (hsocket : b.sockets[socket]? = some ⟨localAddress, a :: waiting⟩) :
    Leads b (.read socket) { b with
      sockets := b.sockets.set socket ⟨localAddress, waiting⟩
      queue := b.queue ++ (a.received? localAddress).toList }
  | dispatch {e : Received} {queue : List Received} (hqueue : b.queue = e :: queue)
    (hphase : b.phase ≠ .over) :
    Leads b .dispatch { b with queue, dispatched := b.dispatched ++ [e] }
  | shutdown (hphase : b.phase = .receiving) : Leads b .shutdown { b with phase := .draining }
  | finish (hphase : b.phase = .draining) (hqueue : b.queue = []) :
    Leads b .finish { b with phase := .over }

theorem takeFirst?_eq_some_iff {b : Background} {socket : Nat} {rest : WaitingSocket}
    {a : Arrival} : b.takeFirst? socket = some (rest, a) ↔
      b.sockets[socket]? = some ⟨rest.localAddress, a :: rest.waiting⟩ := by
  unfold takeFirst?
  split
  · rename_i localAddress a' waiting hsocket
    rw [hsocket, Option.some.injEq, Prod.mk.injEq, Option.some.injEq]
    constructor
    · rintro ⟨rfl, rfl⟩
      rfl
    · intro h
      obtain ⟨rfl, hwaiting⟩ := WaitingSocket.mk.inj h
      obtain ⟨rfl, rfl⟩ := List.cons.inj hwaiting
      exact ⟨rfl, rfl⟩
  · rename_i hnone
    exact iff_of_false nofun fun h => hnone _ _ _ h

theorem step_eq_some_iff {b b' : Background} {action : BackgroundAction} :
    b.step action = some b' ↔ b.Leads action b' := by
  constructor
  · intro h
    cases action with
    | read socket =>
      obtain ⟨hphase, h⟩ := Option.ite_none_right_eq_some.1 h
      obtain ⟨⟨rest, a⟩, htake, rfl⟩ := Option.map_eq_some_iff.1 h
      exact .read hphase (takeFirst?_eq_some_iff.1 htake)
    | dispatch =>
      simp only [step] at h
      split at h
      · rename_i e queue hqueue
        obtain ⟨hphase, h⟩ := Option.ite_none_left_eq_some.1 h
        obtain rfl := Option.some.inj h
        exact .dispatch hqueue hphase
      · cases h
    | shutdown =>
      obtain ⟨hphase, h⟩ := Option.ite_none_right_eq_some.1 h
      obtain rfl := Option.some.inj h
      exact .shutdown hphase
    | finish =>
      obtain ⟨⟨hphase, hqueue⟩, h⟩ := Option.ite_none_right_eq_some.1 h
      obtain rfl := Option.some.inj h
      exact .finish hphase hqueue
  · intro h
    cases h with
    | @read socket localAddress a waiting hphase hsocket =>
      have htake : b.takeFirst? socket = some (⟨localAddress, waiting⟩, a) :=
        takeFirst?_eq_some_iff.2 hsocket
      rw [step, if_pos hphase, htake]
      rfl
    | dispatch hqueue hphase =>
      rw [step, hqueue]
      exact if_neg hphase
    | shutdown hphase => exact if_pos hphase
    | finish hphase hqueue => exact if_pos ⟨hphase, hqueue⟩

/-- The datagram that an action reads, if it reads one. -/
def read? (b : Background) : BackgroundAction → Option (Nat × Arrival)
  | .read socket => (b.takeFirst? socket).map fun x => (socket, x.2)
  | _ => none

/-- The datagrams that are read in the course of some actions, in order, each with its
socket. -/
def reads (b : Background) : List BackgroundAction → List (Nat × Arrival)
  | [] => []
  | action :: rest =>
    match b.step action with
    | some b' => (b.read? action).toList ++ b'.reads rest
    | none => []

theorem steps_append (b : Background) (actions more : List BackgroundAction) :
    b.steps (actions ++ more) = (b.steps actions).bind (·.steps more) := by
  induction actions generalizing b with
  | nil => rfl
  | cons action rest ih =>
    rw [List.cons_append, steps, steps, Option.bind_assoc]
    exact Option.bind_congr fun b' _ => ih b'

theorem reads_append {b b' : Background} {actions : List BackgroundAction}
    (h : b.steps actions = some b') (more : List BackgroundAction) :
    b.reads (actions ++ more) = b.reads actions ++ b'.reads more := by
  induction actions generalizing b with
  | nil =>
    obtain rfl := Option.some.inj h
    rfl
  | cons action rest ih =>
    obtain ⟨b₁, hstep, hrest⟩ := Option.bind_eq_some_iff.1 h
    rw [List.cons_append, reads, reads, hstep]
    simp only [ih hrest, List.append_assoc]

/-- The message of a datagram that was read from a socket, if it brings one. -/
def message? (b : Background) (r : Nat × Arrival) : Option Received :=
  b.sockets[r.1]?.bind fun w => r.2.received? w.localAddress

/-- Some time after the first state comes the second one: certain datagrams were read
meanwhile, from each socket those that had waited longest, and their messages were queued
and perhaps dispatched, in the same order. -/
structure Follows (b : Background) (reads : List (Nat × Arrival)) (b' : Background) : Prop where
  length : b'.sockets.length = b.sockets.length
  sockets : ∀ (i : Nat) w, b.sockets[i]? = some w → ∃ waiting,
    b'.sockets[i]? = some { w with waiting } ∧ w.waiting = onSocket i reads ++ waiting
  messages : b'.dispatched ++ b'.queue =
    (b.dispatched ++ b.queue) ++ reads.filterMap b.message?

variable {b b' b'' : Background} {reads more : List (Nat × Arrival)} {action : BackgroundAction}

/-- What is read from no socket leaves them all as they are. -/
theorem Follows.of_sockets (hs : b'.sockets = b.sockets)
    (hm : b'.dispatched ++ b'.queue = b.dispatched ++ b.queue) : b.Follows [] b' := by
  refine ⟨by rw [hs], fun i w hw => ⟨w.waiting, ?_, rfl⟩, ?_⟩
  · rw [hs, hw]
  · rw [hm, List.filterMap_nil, List.append_nil]

/-- Sockets keep their addresses, so a datagram brings the same message at any time. -/
theorem Follows.message? (h : b.Follows reads b') : b'.message? = b.message? := by
  funext r
  unfold Background.message?
  cases hw : b.sockets[r.1]? with
  | none =>
    have hlength := List.getElem?_eq_none_iff.1 hw
    rw [← h.length] at hlength
    rw [List.getElem?_eq_none hlength]
  | some w =>
    obtain ⟨waiting, hw', -⟩ := h.sockets r.1 w hw
    rw [hw']
    rfl

theorem Follows.trans (h : b.Follows reads b') (h' : b'.Follows more b'') :
    b.Follows (reads ++ more) b'' := by
  refine ⟨h'.length.trans h.length, fun i w hw => ?_, ?_⟩
  · obtain ⟨waiting, hw', hwaiting⟩ := h.sockets i w hw
    obtain ⟨waiting', hw'', hwaiting'⟩ := h'.sockets i _ hw'
    refine ⟨waiting', hw'', ?_⟩
    rw [hwaiting, onSocket_append, List.append_assoc]
    exact congrArg _ hwaiting'
  · rw [h'.messages, h.messages, h.message?, List.filterMap_append, List.append_assoc]

/-- An action reads one datagram, which has waited longest on its socket, or none. -/
theorem Leads.follows (h : b.Leads action b') : b.Follows (b.read? action).toList b' := by
  cases h with
  | @read socket localAddress a waiting hphase hsocket =>
    have htake : b.takeFirst? socket = some (⟨localAddress, waiting⟩, a) :=
      takeFirst?_eq_some_iff.2 hsocket
    have hmessage : b.message? (socket, a) = a.received? localAddress := by
      rw [Background.message?, hsocket]
      rfl
    rw [read?, htake]
    refine ⟨List.length_set, fun i w hw => ?_, ?_⟩
    · by_cases hi : socket = i
      · subst hi
        obtain rfl := Option.some.inj (hsocket.symm.trans hw)
        refine ⟨waiting, ?_, by simp [onSocket]⟩
        rw [List.getElem?_set_self (List.getElem?_eq_some_iff.1 hsocket).1]
      · refine ⟨w.waiting, ?_, by simp [onSocket, hi]⟩
        rw [List.getElem?_set_ne hi]
        exact hw
    · simp only [Option.map_some, Option.toList_some, List.filterMap_cons, hmessage]
      cases a.received? localAddress <;> simp
  | dispatch hqueue hphase => exact .of_sockets rfl (by simp [hqueue])
  | shutdown hphase => exact .of_sockets rfl rfl
  | finish hphase hqueue => exact .of_sockets rfl rfl

/-- Whatever happens, nothing that is read gets lost, is doubled or overtakes another. -/
theorem follows_steps {actions : List BackgroundAction} (h : b.steps actions = some b') :
    b.Follows (b.reads actions) b' := by
  induction actions generalizing b with
  | nil =>
    obtain rfl := Option.some.inj h
    exact .of_sockets rfl rfl
  | cons action rest ih =>
    obtain ⟨b₁, hstep, hrest⟩ := Option.bind_eq_some_iff.1 h
    rw [reads, hstep]
    exact (step_eq_some_iff.1 hstep).follows.trans (ih hrest)

end Background

end Ssdp
