import Ssdp.Proofs.ControlPoint.Dispatch
import Ssdp.Proofs.ControlPoint.Roster
import Ssdp.Proofs.ControlPoint.Shelter
import Ssdp.Proofs.Message.RouteKey

/-!
# Where a datagram goes

A datagram that is a message is dispatched under the key of its start line, and the handlers
under this key are invoked. So it is the first line alone that decides whether a datagram
reaches the handlers of answers, those of announcements, or others.

* `Router.Tidy.key_unique`: a subscription stands under one key;
* `Addressed`, `Interleaved.addressed`: those of locators stand under their own, whatever
  any code does;
* `Works.of_datagram`: a datagram that is worked off has the handlers under its key invoked;
* `datagrams_routed`: which handlers a datagram reaches.
-/

namespace Ssdp

variable {ν : Type}

section

/-! ## Addresses of handlers -/

variable [UrlParser]

namespace Router

variable {H : Type}

omit [UrlParser] in
theorem id_mem_idsOf {key : Text} {s : Subscription H} {topics : List (Topic H)}
    (h : s ∈ lookUp key topics) : s.id ∈ idsOf topics := by
  induction topics with
  | nil => exact (List.not_mem_nil h).elim
  | cons topic rest ih =>
    rw [lookUp] at h
    rw [idsOf_cons, List.mem_append]
    split at h
    · exact .inl (List.mem_map_of_mem h)
    · exact .inr (ih h)

omit [UrlParser] in
/-- Where no number is in use twice, a subscription is found under one key only. -/
theorem lookUp_unique {key key' : Text} {s : Subscription H} {topics : List (Topic H)}
    (hids : (idsOf topics).Nodup) (h : s ∈ lookUp key topics) (h' : s ∈ lookUp key' topics) :
    key = key' := by
  induction topics with
  | nil => exact (List.not_mem_nil h).elim
  | cons topic rest ih =>
    rw [idsOf_cons] at hids
    obtain ⟨-, hrest, hapart⟩ := List.nodup_append.1 hids
    rw [lookUp] at h h'
    split at h <;> split at h'
    · rename_i hkey hkey'
      exact hkey.symm.trans hkey'
    · exact (hapart _ (List.mem_map_of_mem h) _ (id_mem_idsOf h') rfl).elim
    · exact (hapart _ (List.mem_map_of_mem h') _ (id_mem_idsOf h) rfl).elim
    · exact ih hrest h h'

omit [UrlParser] in
theorem Tidy.key_unique {r : Router H} (h : r.Tidy) {key key' : Text} {s : Subscription H}
    (hs : s ∈ r.subscriptions key) (hs' : s ∈ r.subscriptions key') : key = key' :=
  lookUp_unique h.unique hs hs'

end Router

/-- Every subscription stands under one key, and those of locators under the key they
belong to. -/
structure Addressed (c : ControlPoint ν) : Prop where
  wired : Wired c.router c.kept
  tidy : c.router.Tidy
  placed : ∀ key s, s ∈ c.router.subscriptions key → ∀ k, s.handler.key? = some k → k = key

theorem Addressed.perform {c : ControlPoint ν} (h : Addressed c) (task : Task ν) :
    Addressed (c.perform task).state where
  wired := h.wired.rewire (c.rewires_perform task)
  tidy := (c.rewires_perform task).tidy h.tidy
  placed := h.wired.forall_subscriptions_perform
    (P := fun key handler => ∀ k, handler.key? = some k → k = key)
    (fun _ _ hk => (Option.some.inj hk).symm) (fun _ _ hk => (Option.some.inj hk).symm)
    (fun _ _ _ _ _ => nofun) h.placed

theorem Interleaved.addressed {id : LocatorId} {made : List Change} {t : Threads ν}
    (h : Interleaved id made t) : Addressed t.state := by
  induction h with
  | fresh notes clock link attempts =>
    have hfresh := InOrder.fresh notes clock link attempts
    exact ⟨hfresh.wired, Router.tidy_empty, hfresh.placed⟩
  | perform _ ih => exact ih.perform _
  | turn clock link _ ih => exact ⟨ih.wired, ih.tidy, ih.placed⟩
  | ask _ _ ih => exact ih

/-! ## Datagrams -/

/-- A datagram that is a message is dispatched: when that is over, the handlers that were
under its key have been invoked with it in turn, and no others. -/
theorem Works.of_datagram {datagram : ByteArray} {reading : Reading}
    (hread : Message.read? datagram = .ok reading) {sender : SocketAddress}
    {localAddress : Address} {c c' : ControlPoint ν} {shown : List Entry}
    (h : Works c [.take (.datagram datagram sender localAddress)] c' shown []) :
    let e : Received := ⟨reading.message, sender, localAddress⟩
    ∃ later, shown = reading.skipped.map (fun line => .logged (.skippedLine line)) ++ later ∧
      InvokedInTurn e c (c.router.subscriptions e.routeKey) later c' := by
  intro e
  have htake (c : ControlPoint ν) : c.perform (.take (.datagram datagram sender localAddress)) =
      ⟨c, [.deliver e], reading.skipped.map fun line => .logged (.skippedLine line), none⟩ := by
    simp only [ControlPoint.perform, ControlPoint.take, Reply.read?, hread]
    rfl
  obtain ⟨clock, link, later, hdelivery, rfl⟩ := h.performed
  simp only [htake] at hdelivery
  obtain ⟨clock', link', calls, hcalls, hlater⟩ := hdelivery.performed
  obtain rfl : later = calls := hlater
  refine ⟨later, by rw [htake], Works.invokedInTurn ?_⟩
  exact (Works.turn clock' link' .start).trans hcalls

/-- Which handlers a datagram reaches, if it is a message. Its key is not empty, and is the
key of the key. It is the key of answers if the first line of the datagram, trimmed, is
their start line, and that of announcements if this line is their method, alone or before an
ASCII blank; no line is both. When the datagram has been dispatched, the handlers that were
under its key have been invoked with it one after the other. To invoke one of a locator is to
have the locator take the message as an answer or as an announcement, according to the
handler. Whatever code does, every
subscription stands under one key, and those of locators under their own, so each is among
them just if the line is one for its key. Where other code leaves the numbers of locators
alone, a locator that is not disposed has one handler among them for an answer, one for an
announcement, and none for anything else. Nothing but the first line matters: any datagram
with this one is a message with the same key. -/
theorem datagrams_routed {datagram : ByteArray} {reading : Reading}
    (h : Message.read? datagram = .ok reading) (sender : SocketAddress)
    (localAddress : Address) :
    let e : Received := ⟨reading.message, sender, localAddress⟩
    let invoked (c : ControlPoint ν) := c.router.subscriptions e.routeKey
    ∃ line, Message.firstLine? datagram = some line ∧
      (e.routeKey ≠ [] ∧ routeKey e.routeKey = e.routeKey) ∧
      ((e.routeKey = responseStartLine ↔ line = responseStartLine) ∧
        (e.routeKey = notifyKey ↔ IsNotifyLine line) ∧
        ¬(line = responseStartLine ∧ IsNotifyLine line)) ∧
      (∀ c c' shown, Works c [.take (.datagram datagram sender localAddress)] c' shown [] →
        ∃ later, shown = reading.skipped.map (fun line => .logged (.skippedLine line)) ++ later ∧
          InvokedInTurn e c (invoked c) later c' ∧
          ∀ s ∈ invoked c, ∃ (c₁ c₂ : ControlPoint ν) (inner : List Entry),
            .invoked s.id e :: inner <:+: later ∧
            ∀ id, (s.handler = .answers id → Works c₁ [.operate id (.answer e)] c₂ inner []) ∧
              (s.handler = .announcements id →
                Works c₁ [.operate id (.announcement e)] c₂ inner [])) ∧
      (∀ place made (t : Threads ν), Interleaved place made t →
        ∀ key s, s ∈ t.state.router.subscriptions key →
          (s ∈ invoked t.state ↔ key = e.routeKey) ∧
          ∀ id, (s.handler = .answers id → (s ∈ invoked t.state ↔ line = responseStartLine)) ∧
            (s.handler = .announcements id → (s ∈ invoked t.state ↔ IsNotifyLine line))) ∧
      (∀ notes clock link attempts threads (r : Logged ν),
        CivilLeads (.fresh notes clock link attempts threads) r →
        ∀ (id : LocatorId) s, r.threads.state.slots[id]? = some s →
          ((invoked r.threads.state).filter (·.handler.locator? = some id)).map (·.handler) =
            if s.locator.disposed then []
            else if line = responseStartLine then [.answers id]
            else if IsNotifyLine line then [.announcements id] else []) ∧
      ∀ other, Message.firstLine? other = some line →
        ∃ reading', Message.read? other = .ok reading' ∧
          reading'.message.routeKey = reading.message.routeKey := by
  intro e invoked
  obtain ⟨hline, hne⟩ := Message.read?_eq_ok_iff.1 ⟨reading, h, rfl⟩
  have htrim := Message.trim_firstLine? hline
  have hanswer : e.routeKey = responseStartLine ↔ e.message.startLine = responseStartLine :=
    routeKey_eq_responseStartLine_iff htrim hne
  have hnotify : e.routeKey = notifyKey ↔ IsNotifyLine e.message.startLine :=
    routeKey_eq_notifyKey_iff htrim hne
  refine ⟨e.message.startLine, hline, ⟨routeKey_ne_nil htrim hne, routeKey_routeKey htrim hne⟩,
    ⟨hanswer, hnotify, fun hboth => hboth.2.ne_responseStartLine hboth.1⟩,
    fun c c' shown hworks => ?_, fun place made t ht key s hs => ?_,
    fun notes clock link attempts threads r hr id s hs => ?_, fun other hother => ?_⟩
  · obtain ⟨later, hshown, hturns⟩ := hworks.of_datagram h
    refine ⟨later, hshown, hturns, fun s hs => ?_⟩
    obtain ⟨c₁, c₂, inner, hinfix, hinvoked⟩ := hturns.of_mem hs
    refine ⟨c₁, c₂, inner, hinfix, fun id => ⟨fun hhandler => ?_, fun hhandler => ?_⟩⟩ <;>
      rwa [hhandler] at hinvoked
  · have haddressed := ht.addressed
    have hkey : s ∈ invoked t.state ↔ key = e.routeKey := by
      refine ⟨haddressed.tidy.key_unique hs, ?_⟩
      rintro rfl
      exact hs
    refine ⟨hkey, fun id => ⟨fun hhandler => ?_, fun hhandler => ?_⟩⟩
    · have hplaced := haddressed.placed key s hs responseStartLine (by rw [hhandler]; rfl)
      rw [hkey, ← hplaced, eq_comm, hanswer]
    · have hplaced := haddressed.placed key s hs notifyKey (by rw [hhandler]; rfl)
      rw [hkey, ← hplaced, eq_comm, hnotify]
  · rw [hr.inOrder.handlers_eq hs]
    simp only [hanswer, hnotify]
  · obtain ⟨reading', hread', hstart⟩ := Message.read?_eq_ok_iff.2 ⟨hother, hne⟩
    exact ⟨reading', hread', by rw [Message.routeKey, hstart]; rfl⟩

end

/-- A text whose first line begins with a Unicode blank and has a tab after the method, and
the start line of answers behind it, with any text after that line. -/
def tabbedNotify (rest : Text) : Text :=
  "\u00a0NOTIFY\tHTTP/1.1 200 OK\r".toList ++ '\n' :: rest

theorem firstLine?_tabbedNotify (rest : Text) :
    Message.firstLine? (tabbedNotify rest).utf8Encode =
      some (notifyKey ++ '\t' :: responseStartLine) :=
  (Message.firstLine?_utf8Encode (by decide) rest).trans (congrArg some (by decide))

attribute [local instance] UrlParser.verbatim

/-- It is an announcement, and so it is with another text after its first line; a locator
hears it as one. -/
theorem tabbedNotify_routed : ∃ (r : Logged Unit) (reading : Reading),
    CivilLeads (.fresh () {} {} 0 1) r ∧
    Message.read? (tabbedNotify "HTTP/1.1 200 OK\r\n\r\nM-SEARCH".toList).utf8Encode =
      .ok reading ∧
    reading.message.routeKey = notifyKey ∧
    ((r.threads.state.router.subscriptions reading.message.routeKey).filter
      (·.handler.locator? = some 0)).map (·.handler) = [.announcements 0] ∧
    ∃ reading', Message.read? (tabbedNotify []).utf8Encode = .ok reading' ∧
      reading'.message.routeKey = notifyKey := by
  have hline := firstLine?_tabbedNotify "HTTP/1.1 200 OK\r\n\r\nM-SEARCH".toList
  obtain ⟨reading, hread, -⟩ := Message.read?_eq_ok_iff.2 ⟨hline, List.cons_ne_nil _ _⟩
  obtain ⟨line, hline', -, ⟨-, hnotify, -⟩, -, -, hlocators, hothers⟩ :=
    datagrams_routed hread (.v4 .unspecified 1900) (.v4 .unspecified)
  obtain rfl := Option.some.inj (hline.symm.trans hline')
  have hkey : reading.message.routeKey = notifyKey := hnotify.2 (by decide)
  have hbuilt : CivilLeads (.fresh () {} {} 0 1) _ :=
    (Relation.ReflTransGen.single (@CivilMove.ask _ _ _ _ _ [] [] _ (.script tenancy))).tail
      (@CivilMove.perform _ _ _ _ _ [] [] _ _ trivial)
  obtain ⟨reading', hread', hkey'⟩ := hothers _ (firstLine?_tabbedNotify [])
  refine ⟨_, reading, hbuilt, hread, hkey, ?_, reading', hread', hkey'.trans hkey⟩
  refine (hlocators () {} {} 0 1 _ hbuilt 0 _ rfl).trans ?_
  rw [if_neg (by decide), if_neg (by decide), if_pos (by decide)]

end Ssdp
