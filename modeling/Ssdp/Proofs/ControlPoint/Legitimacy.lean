import Ssdp.Proofs.ControlPoint.Threads
import Ssdp.Proofs.Device

/-!
# Where cached devices come from

A locator takes in a device only from a message, after it has read the headers, trimmed
them and held the type against its filters; so it does whether the message was
dispatched, answers a search or is handed to it as it stands. What it takes in is
announced, and the account of its cache says that nothing else is ever cached or
reported gone.

* `Locator.legitimate_of_announced`: what one operation announces is legitimate;
* `Interleaved.mem_made`: every event told or pending is that of a change;
* `cached_legitimate`: all that is cached is legitimate, whichever threads are at work.
-/

namespace Ssdp

variable {ν : Type}

section

variable {id : LocatorId}

theorem mem_announced {d : Device} {events : List Event} :
    d ∈ announced events ↔ ∃ event ∈ events, d ∈ event.announced := by
  induction events with
  | nil => simp
  | cons event rest ih => simp [ih]

theorem mem_gone {d : Device} {events : List Event} :
    d ∈ gone events ↔ ∃ event ∈ events, d ∈ event.gone := by
  induction events with
  | nil => simp
  | cons event rest ih => simp [ih]

variable [UrlParser]

omit [UrlParser] in
/-- The device of an event is announced or reported gone. -/
theorem Event.device_mem (event : Event) :
    event.device ∈ event.announced ∨ event.device ∈ event.gone := by
  cases event with
  | lost d => exact .inr (Multiset.mem_singleton_self d)
  | found d => exact .inl (Multiset.mem_singleton_self d)
  | updated old new => exact .inl (Multiset.mem_singleton_self new)

namespace Locator

/-- The options of a locator never change. -/
theorem config_undergo (l : Locator) (id : LocatorId) (clock : Conditions) (task : Task ν) :
    (l.undergo id clock task).1.config = l.config := by
  refine undergo_cases (motive := fun p => p.1.config = l.config) rfl (fun op => ?_) rfl id task
  cases op with
  | start =>
    simp only [react]
    split <;> rfl
  | answer e => exact l.config_heed _ _
  | announcement e => exact l.config_heed _ _
  | _ => rfl

omit [UrlParser] in
/-- A verdict announces a device only if it is the one to be cached. -/
theorem eq_refresh_of_announced {l : Locator} {order : VisitOrder} {v : Verdict} {d : Device}
    (h : d ∈ announced (l.heed order v).2) : v = .refresh d := by
  cases v with
  | ignore => simp [heed] at h
  | farewell usn => simp [heed, lose, announced_losses] at h
  | refresh d' =>
    have hevent : (l.refresh d').2.announced = {d'} := by
      unfold refresh
      split <;> rfl
    simp only [heed, announced_cons, announced_nil, add_zero, hevent,
      Multiset.mem_singleton] at h
    rw [h]

theorem legitimate_of_judgeDevice {l : Locator} {typeHeader : Text}
    {traces : Device → List LogRecord} {now : Instant} {e : Received} {d : Device}
    (hheader : typeHeader ∈ ["NT".toList, "ST".toList])
    (h : (l.judgeDevice typeHeader traces now e).1 = .refresh d) : d.Legitimate l.config := by
  unfold judgeDevice at h
  split at h
  · cases h
  · rename_i hreceived
    split at h
    · rename_i hwanted
      cases h
      exact Device.legitimate_of_received hheader hreceived hwanted
    · cases h

theorem legitimate_of_judgeAnswer {l : Locator} {now : Instant} {e : Received} {d : Device}
    (h : (l.judgeAnswer now e).1 = .refresh d) : d.Legitimate l.config := by
  unfold judgeAnswer at h
  split at h
  · cases h
  · exact legitimate_of_judgeDevice (by simp) h

theorem legitimate_of_judgeAnnouncement {l : Locator} {tracing : Bool} {now : Instant}
    {e : Received} {d : Device} (h : (l.judgeAnnouncement tracing now e).1 = .refresh d) :
    d.Legitimate l.config := by
  unfold judgeAnnouncement at h
  split at h
  · cases h
  · split at h
    · cases h
    · split at h
      · cases h
      · exact absurd h (l.judgeFarewell_ne_refresh tracing e d)
      · exact legitimate_of_judgeDevice (by simp) h

/-- What a task announces comes from a message, and passed the filters. -/
theorem legitimate_of_announced {l : Locator} {clock : Conditions} {task : Task ν} {d : Device} :
    d ∈ announced (l.undergo id clock task).2 → d.Legitimate l.config := by
  refine undergo_cases (motive := fun p => d ∈ announced p.2 → d.Legitimate l.config)
    (fun h => ?_) (fun op h => ?_) (fun h => ?_) id task
  · simp at h
  · cases op with
    | answer e => exact legitimate_of_judgeAnswer (eq_refresh_of_announced h)
    | announcement e => exact legitimate_of_judgeAnnouncement (eq_refresh_of_announced h)
    | _ => simp [react] at h
  · simp [sweep, lose, announced_losses] at h

end Locator

namespace Interleaved

variable {made : List Change} {t : Threads ν} {s : Slot ν}

/-- What the changes to a cache announce is legitimate, and the options of the locator
are those of one that could be built. -/
theorem legitimate_of_announced (h : Interleaved id made t) (hs : t.state.slots[id]? = some s) :
    s.locator.config.fault? = none ∧
    ∀ d ∈ announced (made.map (·.event)), d.Legitimate s.locator.config := by
  induction h generalizing s with
  | fresh => simp at hs
  | @perform made c shown before after task rest h ih =>
    cases hs' : c.slots[id]? with
    | none =>
      obtain ⟨-, config, owner, -, -, hfault, rfl⟩ := ControlPoint.slots_perform_none hs' hs
      obtain ⟨rfl, -, -⟩ := h.accounted.unbuilt hs'
      refine ⟨hfault, fun d hd => ?_⟩
      simp [ControlPoint.changes, hs'] at hd
    | some s' =>
      rw [ControlPoint.slots_perform hs'] at hs
      obtain ⟨rfl⟩ := Option.some.inj hs
      obtain ⟨hfault, hmade⟩ := ih hs'
      simp only [Locator.config_undergo]
      refine ⟨hfault, fun d hd => ?_⟩
      rw [List.map_append, ControlPoint.map_event_changes hs', announced_append,
        Multiset.mem_add] at hd
      exact hd.elim (hmade d) Locator.legitimate_of_announced
  | turn clock link h ih => exact ih hs
  | ask hreq h ih => exact ih hs

/-- Every event of a locator that is told or pending is that of a change to its cache,
even if others were dropped when it was disposed of. -/
theorem mem_made (h : Interleaved id made t) :
    ∀ event ∈ eventsOf id t.journal ++ pendingIn id t.agendas, event ∈ made.map (·.event) := by
  induction h with
  | fresh notes clock link attempts threads => simp [eventsOf, pendingIn]
  | @perform made c shown before after task rest h ih =>
    intro event hevent
    cases hs : c.slots[id]? with
    | none =>
      have hafter := h.perform.accounted
      cases hs' : (c.perform task).state.slots[id]? with
      | none =>
        obtain ⟨-, hshown, hpending⟩ := hafter.unbuilt hs'
        rw [hshown, hpending] at hevent
        cases hevent
      | some s =>
        obtain ⟨-, config, owner, -, -, -, rfl⟩ := ControlPoint.slots_perform_none hs hs'
        exact (hafter.told _ hs' rfl).mem_iff.1 hevent
    | some s =>
      rw [List.map_append, ControlPoint.map_event_changes hs, List.mem_append]
      simp only [eventsOf_append, pendingIn_append_cons, pendingEvents_append,
        List.mem_append] at hevent
      have hstep := (ControlPoint.events_perform_sublist hs task).subset (a := event)
      have hbefore := ih event
      simp only [pendingIn_append_cons, pendingEvents_cons, List.mem_append] at hstep hbefore
      tauto
  | turn clock link h ih => exact ih
  | @ask made c shown before after task hreq h ih =>
    have htask : task.pending id = [] := by cases hreq <;> rfl
    simpa [pendingIn_append_cons, htask] using ih

end Interleaved

/-- Everything cached is legitimate, whatever was delivered, answered or handed to a
locator, whichever threads did so, and whatever its owner did meanwhile. The type and
the `USN` of a cached device are trimmed headers of its message and not blank; the type
passes the filters; the age limit is that of the message, or else the one in the options,
which is not zero; and no two devices have the same type and `USN`. So a locator without
filters caches nothing and never tells its owner of an event. -/
theorem cached_legitimate {made : List Change} {t : Threads ν} (h : Interleaved id made t)
    {s : Slot ν} (hs : t.state.slots[id]? = some s) :
    let config := s.locator.config
    (∀ d ∈ s.locator.cache.devices, d.Legitimate config) ∧
    config.defaultMaxAge.isZero = false ∧
    (s.locator.cache.devices.map Device.key).Nodup ∧
    (config.filters = [] → s.locator.cache.devices = [] ∧ eventsOf id t.journal = []) := by
  intro config
  obtain ⟨hfault, hannounced⟩ := h.legitimate_of_announced hs
  have haccounted := h.accounted
  have hbalance : announced (made.map (·.event)) =
      ↑s.locator.cache.devices + gone (made.map (·.event)) := by
    simpa [Balances, Cache.devices] using haccounted.balance s hs
  have hcached (d : Device) (hd : d ∈ s.locator.cache.devices) : d.Legitimate config :=
    hannounced d (by rw [hbalance]; exact Multiset.mem_add.2 (.inl hd))
  have hgone (d : Device) (hd : d ∈ gone (made.map (·.event))) : d.Legitimate config :=
    hannounced d (by rw [hbalance]; exact Multiset.mem_add.2 (.inr hd))
  have hmaxAge : config.defaultMaxAge.isZero = false := by
    unfold LocatorConfig.fault? at hfault
    split at hfault
    · cases hfault
    · split at hfault
      · cases hfault
      · exact Bool.eq_false_iff.2 ‹_›
  refine ⟨hcached, hmaxAge, (haccounted.sound s hs).nodup_keys, fun hnone => ⟨?_, ?_⟩⟩
  · exact List.eq_nil_iff_forall_not_mem.2 fun d hd =>
      Device.not_legitimate_of_nil hnone d (hcached d hd)
  · refine List.eq_nil_iff_forall_not_mem.2 fun event hevent => ?_
    have hmade := h.mem_made event (List.mem_append_left _ hevent)
    have hd : event.device.Legitimate config := event.device_mem.elim
      (fun hmem => hannounced _ (mem_announced.2 ⟨event, hmade, hmem⟩))
      (fun hmem => hgone _ (mem_gone.2 ⟨event, hmade, hmem⟩))
    exact Device.not_legitimate_of_nil hnone _ hd

end

/-- An announcement that no parser has seen: its type and `USN` are not trimmed. -/
def untidyAnnouncement : Received where
  message :=
    { startLine := notifyStartLine
      headers := ⟨[⟨"NT".toList, " a ".toList⟩, ⟨"NTS".toList, "ssdp:alive".toList⟩,
        ⟨"USN".toList, "uuid:1 ".toList⟩, ⟨"LOCATION".toList, "http://h/".toList⟩,
        ⟨"CACHE-CONTROL".toList, "Max-Age = 7".toList⟩]⟩ }
  sender := .v4 .unspecified 1900
  localAddress := .v4 .unspecified

/-- A locator with a filter and one without are handed the same announcement. -/
def handing : Run Unit where
  state := { notes := () }
  journal := []
  agenda := [.script .program <|
    .build { LocatorConfig.forAll with filters := ["A".toList] } (fun _ => .done) fun _ =>
    .build { LocatorConfig.forAll with filters := [] } (fun _ => .done) fun _ =>
    .operate 0 (.announcement untidyAnnouncement) <|
    .operate 1 (.announcement untidyAnnouncement) .done]

attribute [local instance] UrlParser.verbatim

theorem reached_handing (n : Nat) : Reached (fun _ => True) (handing.after n) := by
  have hreached : Reached (fun _ => True) handing :=
    .move (.fresh () {} {} 0) trivial (.ask _ _ (.script _))
  exact hreached.leads (leads_after handing n)

/-- The first locator caches the device, with a trimmed type and `USN`; the second one
does not, and its owner is told nothing. -/
theorem handing_legitimate :
    (∃ s, (handing.after 20).state.slots[0]? = some s ∧
      (s.locator.cache.devices.map fun d => (d.notificationType, d.usn, d.maxAge.secs)) =
        [("a".toList, "uuid:1".toList, 7)] ∧
      ∀ d ∈ s.locator.cache.devices, d.Legitimate s.locator.config) ∧
    ∃ s, (handing.after 20).state.slots[1]? = some s ∧ s.locator.config.filters = [] ∧
      s.locator.cache.devices = [] ∧ eventsOf 1 (handing.after 20).journal = [] := by
  have hfirst : ((handing.after 20).state.locator? 0).map (fun l =>
      l.cache.devices.map fun d => (d.notificationType, d.usn, d.maxAge.secs)) =
        some [("a".toList, "uuid:1".toList, 7)] := by
    decide +kernel
  have hsecond : ((handing.after 20).state.locator? 1).map (·.config.filters) = some [] := by
    decide +kernel
  constructor
  · obtain ⟨l, hl, hdevices⟩ := Option.map_eq_some_iff.1 hfirst
    obtain ⟨s, hs, rfl⟩ := Option.map_eq_some_iff.1 hl
    obtain ⟨made, hmade⟩ := (reached_handing 20).interleaved 0
    have hlegitimate := cached_legitimate hmade (by rw [Run.alone_state]; exact hs)
    exact ⟨s, hs, hdevices, hlegitimate.1⟩
  · obtain ⟨l, hl, hfilters⟩ := Option.map_eq_some_iff.1 hsecond
    obtain ⟨s, hs, rfl⟩ := Option.map_eq_some_iff.1 hl
    obtain ⟨made, hmade⟩ := (reached_handing 20).interleaved 1
    have hlegitimate := cached_legitimate hmade (by rw [Run.alone_state]; exact hs)
    rw [Run.alone_journal] at hlegitimate
    obtain ⟨-, -, -, hnone⟩ := hlegitimate
    exact ⟨s, hs, hfilters, hnone hfilters⟩

end Ssdp
