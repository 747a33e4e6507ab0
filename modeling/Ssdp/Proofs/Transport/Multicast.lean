import Ssdp.Message.Search
import Ssdp.Proofs.Message.Editing
import Ssdp.Transport.Send

/-!
# Sending to everybody

A message for everybody is encoded at most once for either version, when the first sender of
that version has its turn, and goes out from each sender whatever becomes of the others. What
a sender gets is the message as it would be encoded for this sender alone.

* `Message.hosted`: the message as a sender should send it;
* `Message.withHost_eq`: putting the header of the group first never fails;
* `HostedPackets.Fresh`: what is kept for later senders is what would be encoded afresh;
* `Wire.answers`, `Sending.foldl_attempt`: what comes of packets that are tried one after the
  other;
* `Message.canonical_hosted`: what is sent can be read again;
* `sendMulticast_eq`: which packets are tried, and what is answered.
-/

namespace Ssdp

/-! ## What is sent -/

/-- The group of a sender's version, as a `HOST` header names it. -/
def hostText : Address → Text
  | .v4 _ => "239.255.255.250:1900".toList
  | .v6 _ => "[ff02::c]:1900".toList

/-- The message as it goes out from a local address: as it is if it has a `HOST` header, or
else with the one of the group put first. -/
def Message.hosted (m : Message) (via : Address) : Message :=
  if m.headers.contains "HOST".toList then m
  else { m with headers := ⟨⟨"HOST".toList, hostText via⟩ :: m.headers.entries⟩ }

/-- The packet that goes out from a local address. -/
def Message.packetFrom (m : Message) (via : Address) : Packet :=
  ⟨via, groupOf via, (m.hosted via).toBytes⟩

theorem text_groupOf (via : Address) : (groupOf via).text = hostText via := by
  have hv4 : (SocketAddress.v4 groupV4 ssdpPort).text = "239.255.255.250:1900".toList := by
    decide +kernel
  have hv6 : (SocketAddress.v6 groupV6 ssdpPort 0).text = "[ff02::c]:1900".toList := by
    decide +kernel
  cases via with
  | v4 ip => exact hv4
  | v6 ip => exact hv6

/-- What is true of the names of both groups. -/
theorem hostText_cases {P : Text → Prop} (via : Address) (hv4 : P "239.255.255.250:1900".toList)
    (hv6 : P "[ff02::c]:1900".toList) : P (hostText via) := by
  cases via with
  | v4 ip => exact hv4
  | v6 ip => exact hv6

theorem hostText_congr {via via' : Address} (h : via.isV4 = via'.isV4) :
    hostText via = hostText via' := by
  cases via <;> cases via' <;> first | rfl | cases h

namespace Message

variable {m : Message}

theorem hosted_of_contains (h : m.headers.contains "HOST".toList = true) (via : Address) :
    m.hosted via = m :=
  if_pos h

theorem hosted_of_not_contains (h : ¬m.headers.contains "HOST".toList = true) (via : Address) :
    m.hosted via = { m with headers := ⟨⟨"HOST".toList, hostText via⟩ :: m.headers.entries⟩ } :=
  if_neg h

/-- The message as it goes out has a `HOST` header. -/
theorem contains_hosted (m : Message) (via : Address) :
    (m.hosted via).headers.contains "HOST".toList = true := by
  by_cases h : m.headers.contains "HOST".toList = true
  · rw [hosted_of_contains h, h]
  · rw [hosted_of_not_contains h, Headers.contains_iff_mem_keys]
    exact List.mem_cons_self

/-- A `HOST` header that is new can be written, and no name is there twice with it. -/
theorem sound_hosted (hs : m.headers.Sound) (via : Address) : (m.hosted via).headers.Sound := by
  by_cases h : m.headers.contains "HOST".toList = true
  · rwa [hosted_of_contains h]
  · rw [hosted_of_not_contains h]
    rw [Headers.contains_iff_mem_keys] at h
    refine ⟨List.forall_mem_cons.2 ⟨?_, hs.valid⟩, List.nodup_cons.2 ⟨h, hs.distinct⟩⟩
    exact hostText_cases (P := fun t => Headers.fault? "HOST".toList t = none) via (by decide)
      (by decide)

/-- Putting the header of the group first never fails. -/
theorem withHost_eq (hs : m.headers.Sound) (via : Address) :
    m.withHost (groupOf via).text = .ok (m.hosted via) := by
  by_cases h : m.headers.contains "HOST".toList = true
  · rw [withHost, if_pos h, hosted_of_contains h]
  · have hinserted := (sound_hosted hs via).insertAll_entries
    rw [hosted_of_not_contains h] at hinserted ⊢
    rw [withHost, if_neg h, build, text_groupOf]
    rw [List.map_cons] at hinserted
    rw [hinserted]

theorem hostedBytes_eq (hs : m.headers.Sound) (via : Address) :
    hostedBytes m (groupOf via) = .ok (m.hosted via).toBytes := by
  rw [hostedBytes, withHost_eq hs]
  rfl

/-- What goes out has a header to be sent by, so it is not changed when it is sent again. -/
theorem hostedBytes_hosted (m : Message) (via via' : Address) :
    hostedBytes (m.hosted via) (groupOf via') = .ok (m.hosted via).toBytes := by
  rw [hostedBytes, withHost, if_pos (m.contains_hosted via)]
  rfl

/-! ## What is read again -/

/-- The header of the group has nothing to trim, so where the message has nothing to trim,
what goes out is read again as it is. -/
theorem canonical_hosted (hs : m.headers.Sound) (htrim : m.IsTrim) (via : Address) :
    (m.hosted via).Canonical := by
  refine ⟨?_, sound_hosted hs via⟩
  by_cases h : m.headers.contains "HOST".toList = true
  · rwa [hosted_of_contains h]
  · rw [hosted_of_not_contains h]
    have hname : Text.trim "HOST".toList = "HOST".toList := by decide
    refine ⟨htrim.nonempty, htrim.lf_not_mem, htrim.startLine,
      List.forall_mem_cons.2 ⟨⟨hname, ?_⟩, htrim.headers⟩⟩
    exact hostText_cases (P := fun t => Text.trim t = t) via (by decide) (by decide)

/-- What goes out says the same as the message under every name but `HOST`. -/
theorem get?_hosted (h : ¬m.headers.contains "HOST".toList = true) (via : Address) (name : Text) :
    (m.hosted via).headers.get? name =
      if Text.sameName name "HOST".toList then some (hostText via) else m.headers.get? name := by
  rw [hosted_of_not_contains h, Text.sameName_comm, Headers.get?, List.find?_cons]
  by_cases hname : Text.sameName "HOST".toList name = true
  · rw [hname]
    rfl
  · rw [Bool.eq_false_of_not_eq_true hname]
    rfl

end Message

/-! ## Encoding once for either version -/

/-- The bytes that are kept are those that would be encoded afresh. -/
structure HostedPackets.Fresh (h : HostedPackets) (m : Message) : Prop where
  v4 : ∀ bytes, h.v4 = some bytes → ∀ ip, bytes = (m.hosted (.v4 ip)).toBytes
  v6 : ∀ bytes, h.v6 = some bytes → ∀ ip, bytes = (m.hosted (.v6 ip)).toBytes

theorem HostedPackets.fresh_none (m : Message) : HostedPackets.Fresh {} m :=
  ⟨nofun, nofun⟩

/-- Whether the bytes are kept already or made now, they are those that would be encoded
afresh, and so are those that are kept then. -/
theorem HostedPackets.Fresh.get {h : HostedPackets} {m : Message} (hfresh : h.Fresh m)
    (hs : m.headers.Sound) (via : Address) : ∃ h' : HostedPackets,
      h.get m via = .ok (h', (m.hosted via).toBytes) ∧ h'.Fresh m := by
  obtain ⟨v4, v6⟩ := h
  cases via with
  | v4 ip =>
    cases v4 with
    | some bytes =>
      obtain rfl := hfresh.v4 bytes rfl ip
      exact ⟨_, rfl, hfresh⟩
    | none =>
      refine ⟨⟨some (m.hosted (.v4 ip)).toBytes, v6⟩, ?_, ?_, hfresh.v6⟩
      · show (hostedBytes m (groupOf (.v4 ip))).map _ = _
        rw [Message.hostedBytes_eq hs]
        rfl
      · rintro bytes ⟨⟩ ip'
        rfl
  | v6 ip =>
    cases v6 with
    | some bytes =>
      obtain rfl := hfresh.v6 bytes rfl ip
      exact ⟨_, by cases v4 <;> rfl, hfresh⟩
    | none =>
      refine ⟨⟨v4, some (m.hosted (.v6 ip)).toBytes⟩, ?_, hfresh.v4, ?_⟩
      · have hget : HostedPackets.get ⟨v4, none⟩ m (.v6 ip) =
            (hostedBytes m (groupOf (.v6 ip))).map fun bytes => (⟨v4, some bytes⟩, bytes) := by
          cases v4 <;> rfl
        rw [hget, Message.hostedBytes_eq hs]
        rfl
      · rintro bytes ⟨⟩ ip'
        rfl

/-! ## Packets one after the other -/

/-- The answers to packets that are tried one after the other, after those before. -/
def Wire.answers (wire : Wire) (before packets : List Packet) : List (Except IoError Unit) :=
  packets.mapIdx fun i packet => wire (before ++ packets.take i) packet

theorem Wire.answers_cons (wire : Wire) (before : List Packet) (packet : Packet)
    (rest : List Packet) : wire.answers before (packet :: rest) =
      wire before packet :: wire.answers (before ++ [packet]) rest := by
  simp [answers, List.mapIdx_cons]

/-- The packet, if it got through. -/
def Packet.through? : Packet × Except IoError Unit → Option Packet
  | (packet, .ok ()) => some packet
  | (_, .error _) => none

/-- What is put on record of the packet, if it did not get through. -/
def Packet.failure? (m : Message) : Packet × Except IoError Unit → Option LogRecord
  | (_, .ok ()) => none
  | (packet, .error error) =>
    some (.sendFailed m.startLine packet.destination packet.via error)

namespace Sending

variable {wire : Wire} {m : Message}

/-- One more packet is tried. -/
def attempt (wire : Wire) (m : Message) (s : Sending) (packet : Packet) : Sending :=
  let answer := wire s.tried packet
  { tried := s.tried ++ [packet]
    delivered := s.delivered ++ (Packet.through? (packet, answer)).toList
    log := s.log ++ (Packet.failure? m (packet, answer)).toList }

/-- Every sender has its turn, with the packet that it would send by itself. -/
theorem fromEach_eq (hs : m.headers.Sound) {h : HostedPackets} (hfresh : h.Fresh m)
    (s : Sending) (senders : List Address) :
    s.fromEach wire m h senders = .ok ((senders.map m.packetFrom).foldl (attempt wire m) s) := by
  induction senders generalizing s h with
  | nil => rfl
  | cons via rest ih =>
    obtain ⟨h', hget, hfresh'⟩ := hfresh.get hs via
    rw [fromEach, hget, List.map_cons, List.foldl_cons]
    cases hanswer : wire s.tried (m.packetFrom via) with
    | ok _ =>
      have hanswer' : wire s.tried ⟨via, groupOf via, (m.hosted via).toBytes⟩ = .ok () := hanswer
      simp only [hanswer', ih hfresh', attempt, hanswer, Packet.through?, Packet.failure?,
        Option.toList_some, Option.toList_none, List.append_nil]
      rfl
    | error error =>
      have hanswer' : wire s.tried ⟨via, groupOf via, (m.hosted via).toBytes⟩ = .error error :=
        hanswer
      simp only [hanswer', ih hfresh', attempt, hanswer, Packet.through?, Packet.failure?,
        Option.toList_some, Option.toList_none, List.append_nil]
      rfl

/-- What comes of packets that are tried one after the other. -/
theorem foldl_attempt (s : Sending) (packets : List Packet) :
    packets.foldl (attempt wire m) s =
      let answered := packets.zip (wire.answers s.tried packets)
      { tried := s.tried ++ packets
        delivered := s.delivered ++ answered.filterMap Packet.through?
        log := s.log ++ answered.filterMap (Packet.failure? m) } := by
  induction packets generalizing s with
  | nil => simp
  | cons packet rest ih =>
    rw [List.foldl_cons, ih, Wire.answers_cons]
    cases hanswer : wire s.tried packet <;>
      simp [attempt, hanswer, List.filterMap_cons, Packet.through?, Packet.failure?]

end Sending

/-- A send counts if the wire took the packet. -/
theorem Packet.length_through (packets : List Packet) (answers : List (Except IoError Unit))
    (h : answers.length = packets.length) :
    ((packets.zip answers).filterMap Packet.through?).length = answers.countP (·.isOk) := by
  induction packets generalizing answers with
  | nil => simp [List.length_eq_zero_iff.1 h]
  | cons packet rest ih =>
    obtain ⟨answer, answers, rfl⟩ := List.exists_cons_of_length_eq_add_one h
    have hrest := ih answers (Nat.succ.inj h)
    rw [List.zip_cons_cons, List.filterMap_cons]
    cases answer with
    | ok _ => rw [List.countP_cons_of_pos rfl, ← hrest, Packet.through?, List.length_cons]
    | error error => rw [List.countP_cons_of_neg Bool.false_ne_true, ← hrest, Packet.through?]

/-- The result is the number of packets that got through, unless there is none. -/
theorem Sending.result_eq {s : Sending} {k : Nat} (h : s.delivered.length = k) :
    (k = 0 → s.result = .error .noInterfaceSent) ∧ (0 < k → s.result = .ok k) := by
  subst h
  have hempty : s.delivered.isEmpty = true ↔ s.delivered.length = 0 := by
    rw [List.isEmpty_iff, List.length_eq_zero_iff]
  constructor
  · exact fun hnone => if_pos (hempty.2 hnone)
  · exact fun hsome => if_neg (mt hempty.1 (Nat.ne_of_gt hsome))

/-! ## Sending to everybody -/

/-- Sending a message to everybody. Let a message have been read or put together in any way,
and let senders of either version, in any order, be told by the wire which packets get
through.

* Sending never panics. Each sender has its turn, in order, and once; what it tries to send
  goes to the group of its version. A packet has been delivered if the wire took it, and a
  failure is put on record otherwise. The result is the number of packets that were delivered
  if there are any, and an error if there are none.
* What a sender sends is the encoding of the message if this has a `HOST` header in any
  spelling, or else of the message with the `HOST` header for the group put first, and
  nothing else changed. It depends on the version of the sender only, and is what encoding
  the message for this sender by itself comes to.
* If the message has no `HOST` header and nothing to trim, what is sent is read again without
  loss: as a message with this start line, with the group under `HOST`, and under every other
  name with what the message has. Sending that message again would be sending the same
  bytes. -/
theorem sendMulticast_eq {m : Message} (hm : m.Made) (t : Transport) (wire : Wire) :
    (let packets := t.senders.map m.packetFrom
      let answers := wire.answers [] packets
      let sent := answers.countP (·.isOk)
      ∃ s, t.sendMulticast wire m = .ok s ∧ s.tried = packets ∧
        s.delivered = (packets.zip answers).filterMap Packet.through? ∧
        s.log = (packets.zip answers).filterMap (Packet.failure? m) ∧
        (sent = 0 → s.result = .error .noInterfaceSent) ∧ (0 < sent → s.result = .ok sent)) ∧
    (∀ via, hostedBytes m (groupOf via) = .ok (m.packetFrom via).payload ∧
      ∀ via', via.isV4 = via'.isV4 → (m.packetFrom via').payload = (m.packetFrom via).payload) ∧
    (m.IsTrim → ¬m.headers.contains "HOST".toList = true → ∀ via,
      ∃ m' : Message, Message.read? (m.packetFrom via).payload = .ok ⟨m', []⟩ ∧
        m'.startLine = m.startLine ∧
        (∀ name, m'.headers.get? name =
          if Text.sameName name "HOST".toList then some (hostText via)
          else m.headers.get? name) ∧
        ∀ via', hostedBytes m' (groupOf via') = .ok (m.packetFrom via).payload) := by
  have hs : m.headers.Sound := hm.sound
  refine ⟨?_, fun via => ⟨Message.hostedBytes_eq hs via, fun via' hversion => ?_⟩,
    fun htrim hhost via => ?_⟩
  · intro packets answers sent
    have hsend : t.sendMulticast wire m = .ok (packets.foldl (Sending.attempt wire m) {}) :=
      Sending.fromEach_eq hs (HostedPackets.fresh_none m) {} t.senders
    rw [Sending.foldl_attempt] at hsend
    have hsent : ((packets.zip answers).filterMap Packet.through?).length = sent :=
      Packet.length_through packets answers (List.length_mapIdx)
    obtain ⟨hnone, hsome⟩ := Sending.result_eq
      (s := ⟨packets, (packets.zip answers).filterMap Packet.through?, _⟩) hsent
    exact ⟨_, hsend, rfl, rfl, rfl, hnone, hsome⟩
  · simp only [Message.packetFrom, Message.hosted, hostText_congr hversion]
  · have hcanonical := Message.canonical_hosted hs htrim via
    refine ⟨m.hosted via, hcanonical.read_back, ?_, Message.get?_hosted hhost via,
      Message.hostedBytes_hosted m via⟩
    rw [Message.hosted_of_not_contains hhost]

/-- A transport with senders of both versions. -/
def mixedSenders : Transport where
  senders := [.v4 .unspecified, .v6 .loopback, .v4 (.ofOctets 127 0 0 1)]
  listeners := []
  network := .ofList []
  tracing := .off

/-- The first packet does not get through. -/
def slowWire : Wire := fun before _ =>
  if before.isEmpty then .error .networkUnreachable else .ok ()

/-- A search gets through from two of the senders, and is read with the group it was sent
to. -/
theorem mixed_senders_search :
    (∃ s, mixedSenders.sendMulticast slowWire (searchRequest (.ofSecs 4)) = .ok s ∧
      s.tried.map (·.via) = mixedSenders.senders ∧ s.result = .ok 2 ∧
      s.log = [.sendFailed searchStartLine (.v4 groupV4 ssdpPort) (.v4 .unspecified)
        .networkUnreachable]) ∧
    ∃ m', Message.read? ((searchRequest (.ofSecs 4)).packetFrom (.v6 .loopback)).payload =
        .ok ⟨m', []⟩ ∧
      m'.headers.get? "host".toList = some "[ff02::c]:1900".toList ∧
      m'.headers.get? "st".toList = some "ssdp:all".toList := by
  have hread : Message.read? (searchRequest (.ofSecs 4)).toBytes =
      .ok ⟨searchRequest (.ofSecs 4), []⟩ := by
    rw [Message.toBytes, Message.read?_toUTF8]
    decide +kernel
  have hmade : (searchRequest (.ofSecs 4)).Made := .read hread
  have htrim : (searchRequest (.ofSecs 4)).IsTrim :=
    ⟨by decide, by decide, by decide, by decide⟩
  obtain ⟨⟨s, hsend, htried, -, hlog, -, hsome⟩, -, hback⟩ :=
    sendMulticast_eq hmade mixedSenders slowWire
  refine ⟨⟨s, hsend, by rw [htried]; rfl, hsome (by decide +kernel), hlog⟩, ?_⟩
  obtain ⟨m', hread', -, hget, -⟩ := hback htrim (by decide) (.v6 .loopback)
  exact ⟨m', hread', hget "host".toList, hget "st".toList⟩

end Ssdp
