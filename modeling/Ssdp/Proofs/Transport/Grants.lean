import Ssdp.Transport.Build

/-!
# What the operating system has granted

Calls are made up to the first that is refused. What they have come to is what was granted: a
new socket, its options, its memberships of groups and its local address.

* `Pursues`: calls up to the first that is refused;
* `Grants`, `grants`: what was granted, sorted by what it is;
* `Grants.senderV4`, `Grants.senderV6`, `Grants.listenerV4`, `Grants.listenerV6`: what it
  takes to send and to listen;
* `SenderPlan.ofCalls_ofV4`, `ListenerPlan.unjoined_ofV4` and the like: the plans ask for that.
-/

namespace Ssdp

/-! ## Calls and answers -/

/-- A call with the answer to it. -/
abbrev Answered := SocketCall × Except IoError Unit

/-- Calls made one after the other, with the answers. -/
def Sockets.answered (os : Sockets) (calls : List SocketCall) : List Answered :=
  calls.mapIdx fun i call => (call, os (calls.take i) call)

theorem Sockets.answered_concat (os : Sockets) (calls : List SocketCall) (call : SocketCall) :
    os.answered (calls ++ [call]) = os.answered calls ++ [(call, os calls call)] := by
  have hbefore : calls.mapIdx (fun i c => (c, os ((calls ++ [call]).take i) c)) =
      os.answered calls := by
    refine List.mapIdx_eq_mapIdx_iff.2 fun i hi => ?_
    rw [List.take_append_of_le_length (Nat.le_of_lt hi)]
  rw [answered, List.mapIdx_concat, hbefore, List.take_left]

/-- No call was refused. -/
def granted (heard : List Answered) : Bool :=
  heard.all (·.2.isOk)

/-- The calls are made one after the other, up to the first that is refused. -/
inductive Pursues : List SocketCall → List Answered → Prop where
  | done : Pursues [] []
  | refused {call : SocketCall} {rest : List SocketCall} (error : IoError) :
    Pursues (call :: rest) [(call, .error error)]
  | granted {call : SocketCall} {rest : List SocketCall} {heard : List Answered} :
    Pursues rest heard → Pursues (call :: rest) ((call, .ok ()) :: heard)

/-- If none is refused, all of them were made. -/
theorem Pursues.map_fst {calls : List SocketCall} {heard : List Answered}
    (h : Pursues calls heard) (hgranted : Ssdp.granted heard = true) :
    heard.map Prod.fst = calls := by
  induction h with
  | done => rfl
  | refused error => contradiction
  | granted _ ih => exact congrArg _ (ih hgranted)

theorem eq_ok_of_isOk {answer : Except IoError Unit} (h : answer.isOk = true) : answer = .ok () :=
  match answer, h with
  | .ok (), _ => rfl

theorem eq_ok_of_granted {heard : List Answered} (h : granted heard = true) {entry : Answered}
    (hentry : entry ∈ heard) : entry.2 = .ok () :=
  eq_ok_of_isOk (List.all_eq_true.1 h entry hentry)

theorem mem_of_granted {heard : List Answered} {call : SocketCall} (h : granted heard = true)
    (hcall : call ∈ heard.map Prod.fst) : (call, .ok ()) ∈ heard := by
  obtain ⟨entry, hentry, rfl⟩ := List.mem_map.1 hcall
  exact eq_ok_of_granted h hentry ▸ hentry

/-! ## Grants -/

/-- What was granted, sorted by what it is: new sockets, each with whether it is one of
version 4, options, memberships of groups, and local addresses. -/
structure Grants where
  sockets : List Bool := []
  options : List SocketOption := []
  memberships : List (Address × JoinPoint) := []
  addresses : List SocketAddress := []

namespace Grants

instance : Append Grants :=
  ⟨fun g h => ⟨g.sockets ++ h.sockets, g.options ++ h.options, g.memberships ++ h.memberships,
    g.addresses ++ h.addresses⟩⟩

/-- What calls ask for. -/
def ofCalls (calls : List SocketCall) : Grants where
  sockets := calls.filterMap fun
    | .create v4 => some v4
    | _ => none
  options := calls.filterMap fun
    | .set option => some option
    | _ => none
  memberships := calls.filterMap fun
    | .join group point => some (group, point)
    | _ => none
  addresses := calls.filterMap fun
    | .bind localAddress => some localAddress
    | _ => none

/-- All but the memberships. -/
def unjoined (g : Grants) : Grants :=
  { g with memberships := [] }

theorem ofCalls_append (calls more : List SocketCall) :
    ofCalls (calls ++ more) = ofCalls calls ++ ofCalls more := by
  simp only [ofCalls, List.filterMap_append]
  rfl

theorem unjoined_append (g h : Grants) : (g ++ h).unjoined = g.unjoined ++ h.unjoined := rfl

/-- Joining groups is nothing but memberships. -/
theorem unjoined_joins {calls : List SocketCall}
    (h : ∀ call ∈ calls, ∃ group point, .join group point = call) :
    (ofCalls calls).unjoined = {} := by
  induction calls with
  | nil => rfl
  | cons call rest ih =>
    obtain ⟨group, point, rfl⟩ := h _ List.mem_cons_self
    exact ih fun call hcall => h call (List.mem_cons_of_mem _ hcall)

/-- A sender on an address of version 4: it shares its address, hears what it sends to a
group if it is told to, and never waits; the interface for a group is that of its address, if
there is one; and its port is for the operating system to choose. -/
def senderV4 (loopback : Bool) (ip : V4) : Grants where
  sockets := [true]
  options :=
    [.reuseAddress, .multicastLoop true loopback] ++
      (if ip = .unspecified then [] else [.multicastInterface (.address ip)]) ++ [.nonblocking]
  addresses := [.v4 ip 0]

/-- A sender on an address of version 6. It is for that version only, the interface for a
group is named by its index, and so is that of a link-local address. -/
def senderV6 (loopback : Bool) (ip : V6) (index : Nat) : Grants where
  sockets := [false]
  options :=
    [.reuseAddress, .onlyV6, .multicastLoop false loopback, .multicastInterface (.index index),
      .nonblocking]
  addresses := [.v6 ip 0 (if ip.isLinkLocal then UInt32.ofNat index else 0)]

/-- A listener of version 4, apart from its memberships: it shares the port of the protocol
on all addresses. -/
def listenerV4 (loopback : Bool) : Grants where
  sockets := [true]
  options := [.reuseAddress, .multicastLoop true loopback, .reusePort, .nonblocking]
  addresses := [.v4 .unspecified 1900]

/-- A listener of version 6, apart from its memberships. -/
def listenerV6 (loopback : Bool) : Grants where
  sockets := [false]
  options := [.reuseAddress, .onlyV6, .multicastLoop false loopback, .reusePort, .nonblocking]
  addresses := [.v6 .unspecified 1900 0]

end Grants

/-- What was granted of the calls that were made. -/
def grants (heard : List Answered) : Grants :=
  .ofCalls ((heard.filter (·.2.isOk)).map Prod.fst)

theorem grants_append (heard more : List Answered) :
    grants (heard ++ more) = grants heard ++ grants more := by
  rw [grants, List.filter_append, List.map_append, Grants.ofCalls_append]
  rfl

/-- Where no call was refused, all that was asked for was granted. -/
theorem grants_of_granted {heard : List Answered} (h : granted heard = true) :
    grants heard = .ofCalls (heard.map Prod.fst) := by
  rw [grants, List.filter_eq_self.2 (List.all_eq_true.1 h)]

/-! ## What the plans ask for -/

theorem SenderPlan.ofCalls_ofV4 (loopback : Bool) (ip : V4) :
    Grants.ofCalls (ofV4 loopback ip).calls = .senderV4 loopback ip := by
  have hunspecified : ip.isUnspecified = decide (ip = .unspecified) := rfl
  rw [ofV4, Grants.senderV4, hunspecified]
  by_cases h : ip = .unspecified
  · simp [h]; rfl
  · simp [h]; rfl

theorem SenderPlan.ofCalls_ofV6 (loopback : Bool) (ip : V6) (index : Nat) :
    Grants.ofCalls (ofV6 loopback (ip, index)).calls = .senderV6 loopback ip index := rfl

theorem ListenerPlan.unjoined_ofV4 (loopback : Bool) (ips : List V4) :
    (Grants.ofCalls ((ofV4 loopback ips).opening ++ (ofV4 loopback ips).closing)).unjoined =
      .listenerV4 loopback := rfl

theorem ListenerPlan.unjoined_ofV6 (loopback : Bool) (ips : List (V6 × Nat)) :
    (Grants.ofCalls ((ofV6 loopback ips).opening ++ (ofV6 loopback ips).closing)).unjoined =
      .listenerV6 loopback := rfl

end Ssdp
