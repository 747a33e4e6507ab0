import Ssdp.Proofs.ControlPoint.Ledger
import Ssdp.Proofs.Locator.Balance
import Ssdp.Proofs.Locator.Belief

/-!
# Threads

Several threads may share a control point: timers that search, dispatchers that
deliver messages, programs. Each has an agenda of its own and performs its tasks in
order, and the steps of all of them interleave in any way. The cache of a locator
changes in one step, and the events that follow are told in later ones, so another
thread may change the cache in between.

* `Threads`, `Interleaved`: threads, and where steps of theirs lead, with the changes
  that were made to the cache of one locator;
* `Accounted`, `Interleaved.accounted`: the changes account for the cache, and each
  of them is told once, sooner or later;
* `Reached.interleaved`: a control point by itself is a single thread.
-/

namespace Ssdp

variable {ν : Type} {id : LocatorId}

/-! ## Interleavings -/

/-- A control point that threads share, each with an agenda. -/
structure Threads (ν : Type) where
  state : ControlPoint ν
  journal : List Entry
  agendas : List (List (Task ν))

/-- A change to the cache of a locator: the event that follows from it, and whether
no other event about its key was still to be told when the change was made. -/
structure Change where
  event : Event
  clear : Bool

/-- The events of a locator that threads are about to show. -/
def pendingIn (id : LocatorId) (agendas : List (List (Task ν))) : List Event :=
  agendas.flatMap (pendingEvents id)

variable [UrlParser]

/-- The changes that a task makes to the cache of a locator while events are pending. -/
def ControlPoint.changes (c : ControlPoint ν) (id : LocatorId) (pending : List Event)
    (task : Task ν) : List Change :=
  match c.slots[id]? with
  | some s =>
    (s.locator.undergo id c.clock task).2.map fun event =>
      ⟨event, (about event.device.key pending).isEmpty⟩
  | none => []

/-- Where threads get from a control point without locators and subscribers, with the
changes made to the cache of one locator. At any time some thread performs its next
task, the clock and the link change, and with them the order in which the cache is gone
through, or a thread that has nothing to do is asked for something. -/
inductive Interleaved (id : LocatorId) : List Change → Threads ν → Prop
  | fresh (notes : ν) (clock : Conditions) (link : Link) (attempts : Nat) (threads : Nat) :
    Interleaved id [] ⟨{ notes, clock, link, attempts }, [], List.replicate threads []⟩
  | perform {made : List Change} {c : ControlPoint ν} {shown : List Entry}
    {before after : List (List (Task ν))} {task : Task ν} {rest : List (Task ν)}
    (h : Interleaved id made ⟨c, shown, before ++ (task :: rest) :: after⟩) :
    Interleaved id
      (made ++ c.changes id (pendingIn id (before ++ (task :: rest) :: after)) task)
      ⟨(c.perform task).state, shown ++ (c.perform task).journal,
        before ++ ((c.perform task).todo ++ rest) :: after⟩
  | turn {made : List Change} {c : ControlPoint ν} {shown : List Entry}
    {agendas : List (List (Task ν))} (clock : Conditions) (link : Link)
    (h : Interleaved id made ⟨c, shown, agendas⟩) :
    Interleaved id made ⟨{ c with clock, link }, shown, agendas⟩
  | ask {made : List Change} {c : ControlPoint ν} {shown : List Entry}
    {before after : List (List (Task ν))} {task : Task ν} (hreq : task.IsRequest)
    (h : Interleaved id made ⟨c, shown, before ++ [] :: after⟩) :
    Interleaved id made ⟨c, shown, before ++ [task] :: after⟩

/-- A control point by itself, as a single thread. -/
def Run.alone (r : Run ν) : Threads ν :=
  ⟨r.state, r.journal, [r.agenda]⟩

omit [UrlParser] in
@[simp] theorem Run.alone_state (r : Run ν) : r.alone.state = r.state := rfl

omit [UrlParser] in
@[simp] theorem Run.alone_journal (r : Run ν) : r.alone.journal = r.journal := rfl

omit [UrlParser] in
@[simp] theorem Run.pendingIn_alone (r : Run ν) :
    pendingIn id r.alone.agendas = pendingEvents id r.agenda := by
  simp [alone, pendingIn]

theorem Reached.interleaved {ok : Run ν → Prop} {r : Run ν} (h : Reached ok r) (id : LocatorId) :
    ∃ made, Interleaved id made r.alone := by
  induction h with
  | fresh notes clock link attempts => exact ⟨[], .fresh notes clock link attempts 1⟩
  | move _ _ hm ih =>
    obtain ⟨made, hmade⟩ := ih
    cases hm with
    | perform c shown task rest => exact ⟨_, @Interleaved.perform _ _ _ _ _ _ [] [] _ _ hmade⟩
    | turn c shown agenda clock link => exact ⟨made, hmade.turn clock link⟩
    | ask c shown hreq => exact ⟨made, @Interleaved.ask _ _ _ _ _ _ [] [] _ hreq hmade⟩

/-! ## What a task does to one locator -/

namespace Locator

theorem balance_undergo (l : Locator) (id : LocatorId) (clock : Conditions) (task : Task ν) :
    Balances l.cache (l.undergo id clock task).1.cache (l.undergo id clock task).2 :=
  undergo_cases (balances_nil _) (l.balance_react clock) (l.balance_sweep clock) id task

/-- A task leads to at most one event about each key. -/
theorem keys_undergo {l : Locator} (h : l.cache.Sound) (id : LocatorId) (clock : Conditions)
    (task : Task ν) : ((l.undergo id clock task).2.map (·.device.key)).Nodup :=
  undergo_cases List.nodup_nil (keys_react h clock) (keys_sweep h clock) id task

end Locator

/-! ## Events in the order of the changes -/

/-- The last change to what is cached under a key. -/
def lastChange? (k : DeviceKey) (made : List Change) : Option Change :=
  (made.filter (·.event.device.key = k)).getLast?

omit [UrlParser] in
theorem getLast?_about_map (k : DeviceKey) (made : List Change) :
    (about k (made.map Change.event)).getLast? = (lastChange? k made).map Change.event := by
  rw [about, lastChange?, List.filter_map, List.getLast?_map]
  rfl

omit [UrlParser] in
theorem key_of_mem_about {k : DeviceKey} {event : Event} {events : List Event}
    (h : event ∈ about k events) : event.device.key = k := by
  simpa using (List.mem_filter.1 h).2

namespace ControlPoint

variable {c : ControlPoint ν} {s : Slot ν}

theorem map_event_changes (hs : c.slots[id]? = some s) (pending : List Event) (task : Task ν) :
    (c.changes id pending task).map Change.event = (s.locator.undergo id c.clock task).2 := by
  simp [changes, hs, Function.comp_def]

theorem filter_changes (hs : c.slots[id]? = some s) (pending : List Event) (task : Task ν)
    (k : DeviceKey) : (c.changes id pending task).filter (·.event.device.key = k) =
      (about k (s.locator.undergo id c.clock task).2).map fun event =>
        ⟨event, (about event.device.key pending).isEmpty⟩ := by
  rw [changes, hs, List.filter_map]
  rfl

end ControlPoint

/-- An event is the last one that was told about a key and no other is to be told, or
it is the only one about it that is to be told. -/
def UpToDate (k : DeviceKey) (told pending : List Event) (event : Event) : Prop :=
  (about k pending = [] ∧ (about k told).getLast? = some event) ∨ about k pending = [event]

section

variable {k : DeviceKey} {event : Event} {told fresh next front back : List Event}

omit [UrlParser] in
/-- The first of the pending events is told, or becomes another task. -/
theorem UpToDate.tell {first : List Event}
    (h : UpToDate k told (front ++ (first ++ back)) event)
    (hstep : about k fresh ++ about k next = about k first) :
    UpToDate k (told ++ fresh) (front ++ (next ++ back)) event := by
  simp only [UpToDate, about_append, ← hstep] at h ⊢
  cases hfresh : about k fresh with
  | nil =>
    rw [hfresh] at h
    simpa using h
  | cons x xs =>
    rw [hfresh] at h
    obtain ⟨hnil, -⟩ | hone := h
    · simp at hnil
    · -- What is told is the event that was pending, and no other is.
      have hlength := congrArg List.length hone
      simp only [List.length_append, List.length_cons, List.length_nil] at hlength
      have hfront : about k front = [] := List.length_eq_zero_iff.1 (by omega)
      have hxs : xs = [] := List.length_eq_zero_iff.1 (by omega)
      have hnext : about k next = [] := List.length_eq_zero_iff.1 (by omega)
      have hback : about k back = [] := List.length_eq_zero_iff.1 (by omega)
      subst hxs
      rw [hfront, hnext, hback] at hone
      obtain ⟨rfl⟩ : x = event := by simpa using hone
      refine .inl ⟨by rw [hfront, hnext, hback]; rfl, ?_⟩
      rw [List.getLast?_append, List.getLast?_singleton]
      rfl

end

/-! ## Accounts -/

/-- The changes made to the cache of a locator account for what is cached. As long as
the locator is not disposed each is told once, sooner or later, and the last one
about a key that was made when no other event about it was pending is told last. -/
structure Accounted (id : LocatorId) (made : List Change) (t : Threads ν) : Prop where
  unbuilt : t.state.slots[id]? = none →
    made = [] ∧ eventsOf id t.journal = [] ∧ pendingIn id t.agendas = []
  sound : ∀ s, t.state.slots[id]? = some s → s.locator.cache.Sound
  replay : ∀ s, t.state.slots[id]? = some s →
    Ledger.empty.replay (made.map (·.event)) = some s.locator.cache.device?
  balance : ∀ s, t.state.slots[id]? = some s →
    Balances {} s.locator.cache (made.map (·.event))
  told : ∀ s, t.state.slots[id]? = some s → s.locator.disposed = false →
    (eventsOf id t.journal ++ pendingIn id t.agendas).Perm (made.map (·.event))
  current : ∀ s, t.state.slots[id]? = some s → s.locator.disposed = false →
    ∀ k change, lastChange? k made = some change → change.clear = true →
      UpToDate k (eventsOf id t.journal) (pendingIn id t.agendas) change.event

omit [UrlParser] in
theorem pendingIn_append_cons (before : List (List (Task ν))) (agenda : List (Task ν))
    (after : List (List (Task ν))) : pendingIn id (before ++ agenda :: after) =
      pendingIn id before ++ (pendingEvents id agenda ++ pendingIn id after) := by
  simp [pendingIn]

namespace Accounted

variable {made : List Change} {c : ControlPoint ν} {shown : List Entry}
  {before after : List (List (Task ν))} {task : Task ν} {rest : List (Task ν)}

/-- A step before the locator is built, or the one that builds it. -/
theorem perform_none (h : Accounted id made ⟨c, shown, before ++ (task :: rest) :: after⟩)
    (hn : c.slots[id]? = none) :
    Accounted id (made ++ c.changes id (pendingIn id (before ++ (task :: rest) :: after)) task)
      ⟨(c.perform task).state, shown ++ (c.perform task).journal,
        before ++ ((c.perform task).todo ++ rest) :: after⟩ := by
  obtain ⟨rfl, hshown, hpending⟩ := h.unbuilt hn
  have hchanges : c.changes id (pendingIn id (before ++ (task :: rest) :: after)) task = [] := by
    rw [ControlPoint.changes, hn]
  simp only [pendingIn_append_cons, pendingEvents_cons, List.append_eq_nil_iff] at hpending
  obtain ⟨hbefore, ⟨htask, hrest⟩, hafter⟩ := hpending
  obtain ⟨hjournal, htodo⟩ := ControlPoint.events_perform_of_not_changes (c := c) htask fun _ => hn
  have hevents : eventsOf id (shown ++ (c.perform task).journal) = [] := by
    rw [eventsOf_append, hshown, hjournal, List.append_nil]
  have hagendas : pendingIn id (before ++ ((c.perform task).todo ++ rest) :: after) = [] := by
    rw [pendingIn_append_cons, pendingEvents_append, hbefore, htodo, hrest, hafter]
    rfl
  rw [hchanges, List.append_nil]
  have hcache {s : Slot ν} (hs : (c.perform task).state.slots[id]? = some s) :
      s.locator.cache = {} := by
    obtain ⟨-, config, owner, -, -, -, rfl⟩ := ControlPoint.slots_perform_none hn hs
    rfl
  refine ⟨fun _ => ⟨rfl, hevents, hagendas⟩, fun s hs => ?_, fun s hs => ?_, fun s hs => ?_,
    fun s hs _ => ?_, fun _ _ _ _ _ hnone => nomatch hnone⟩
  · rw [hcache hs]
    exact Cache.sound_empty
  · rw [hcache hs]
    rfl
  · rw [hcache hs]
    exact balances_nil _
  · rw [hevents, hagendas]
    exact .refl _

/-- With the events of its task still to be told, the last change to a key is up to
date: the task has made it, or it was so before. -/
theorem upToDate_undergo (h : Accounted id made ⟨c, shown, before ++ (task :: rest) :: after⟩)
    {s : Slot ν} (hs : c.slots[id]? = some s) (hd : s.locator.disposed = false) {k : DeviceKey}
    {change : Change}
    (hlast : lastChange? k
      (made ++ c.changes id (pendingIn id (before ++ (task :: rest) :: after)) task) = some change)
    (hclear : change.clear = true) :
    UpToDate k (eventsOf id shown)
      (pendingIn id before ++ ((task.pending id ++ (s.locator.undergo id c.clock task).2) ++
        (pendingEvents id rest ++ pendingIn id after))) change.event := by
  have hone : (about k (s.locator.undergo id c.clock task).2).length ≤ 1 :=
    length_about_le_one (Locator.keys_undergo (h.sound s hs) id c.clock task)
  have hcurrent := h.current s hs hd k
  rw [lastChange?, List.filter_append, ControlPoint.filter_changes hs] at hlast
  simp only [pendingIn_append_cons, pendingEvents_cons, UpToDate, about_append,
    List.append_assoc] at hlast hcurrent ⊢
  match hmade : about k (s.locator.undergo id c.clock task).2 with
  | [] =>
    rw [hmade, List.map_nil, List.append_nil] at hlast
    exact hcurrent change hlast hclear
  | [event] =>
    rw [hmade, List.map_singleton, List.getLast?_concat, Option.some_inj] at hlast
    subst hlast
    have hkey : event.device.key = k := key_of_mem_about (hmade ▸ List.mem_singleton_self event)
    simp only [hkey, List.isEmpty_iff, List.append_eq_nil_iff] at hclear
    obtain ⟨hbefore, htask, hrest, hafter⟩ := hclear
    exact .inr (by rw [hbefore, htask, hrest, hafter]; rfl)
  | _ :: _ :: _ => simp [hmade] at hone

/-- A step of a locator that is there. -/
theorem perform_some (h : Accounted id made ⟨c, shown, before ++ (task :: rest) :: after⟩)
    {s : Slot ν} (hs : c.slots[id]? = some s) :
    Accounted id (made ++ c.changes id (pendingIn id (before ++ (task :: rest) :: after)) task)
      ⟨(c.perform task).state, shown ++ (c.perform task).journal,
        before ++ ((c.perform task).todo ++ rest) :: after⟩ := by
  have hslot := ControlPoint.slots_perform hs task
  have hmade := ControlPoint.map_event_changes hs
    (pendingIn id (before ++ (task :: rest) :: after)) task
  -- Where the locator is not disposed after the step, it was not before, and the events
  -- of the step are shown or pending after it.
  have hstep (hd : (s.locator.undergo id c.clock task).1.disposed = false) :
      s.locator.disposed = false ∧
        eventsOf id (c.perform task).journal ++ pendingEvents id (c.perform task).todo =
          task.pending id ++ (s.locator.undergo id c.clock task).2 := by
    have hd' : s.locator.disposed = false := Bool.eq_false_iff.2 fun ht =>
      Bool.false_ne_true (hd.symm.trans (Locator.disposed_undergo ht id c.clock task))
    exact ⟨hd', ControlPoint.events_perform hs fun ht =>
      absurd (hd'.symm.trans ht) Bool.false_ne_true⟩
  refine ⟨fun hn => ?_, fun s' hs' => ?_, fun s' hs' => ?_, fun s' hs' => ?_,
    fun s' hs' hd => ?_, fun s' hs' hd k change hlast hclear => ?_⟩
  · exact absurd (hslot.symm.trans hn) nofun
  · obtain ⟨rfl⟩ := Option.some.inj (hslot.symm.trans hs')
    exact Locator.sound_undergo (h.sound s hs) id c.clock task
  · obtain ⟨rfl⟩ := Option.some.inj (hslot.symm.trans hs')
    rw [List.map_append, hmade, Ledger.replay_append, h.replay s hs]
    exact replay_undergo (h.sound s hs) c.clock task
  · obtain ⟨rfl⟩ := Option.some.inj (hslot.symm.trans hs')
    rw [List.map_append, hmade]
    exact (h.balance s hs).append (s.locator.balance_undergo id c.clock task)
  · obtain ⟨rfl⟩ := Option.some.inj (hslot.symm.trans hs')
    obtain ⟨hd', hevents⟩ := hstep hd
    refine List.perm_iff_count.2 fun event => ?_
    have htold := (h.told s hs hd').count_eq event
    have hcount := congrArg (List.count event) hevents
    simp only [List.map_append, ControlPoint.map_event_changes hs, eventsOf_append,
      pendingIn_append_cons, pendingEvents_cons, pendingEvents_append,
      List.count_append] at htold hcount ⊢
    omega
  · obtain ⟨rfl⟩ := Option.some.inj (hslot.symm.trans hs')
    obtain ⟨hd', hevents⟩ := hstep hd
    have habout := congrArg (about k) hevents
    rw [about_append] at habout
    rw [eventsOf_append, pendingIn_append_cons, pendingEvents_append, List.append_assoc]
    exact (h.upToDate_undergo hs hd' hlast hclear).tell habout

end Accounted

theorem Interleaved.accounted {made : List Change} {t : Threads ν} (h : Interleaved id made t) :
    Accounted id made t := by
  induction h with
  | fresh notes clock link attempts threads =>
    have hnone {s : Slot ν} (hs : ([] : List (Slot ν))[id]? = some s) : False := by
      simp at hs
    have hpending : pendingIn id (List.replicate threads ([] : List (Task ν))) = [] := by
      simp [pendingIn]
    exact ⟨fun _ => ⟨rfl, rfl, hpending⟩, fun s hs => (hnone hs).elim,
      fun s hs => (hnone hs).elim, fun s hs => (hnone hs).elim,
      fun s hs => (hnone hs).elim, fun s hs => (hnone hs).elim⟩
  | @perform made c shown before after task rest h ih =>
    cases hs : c.slots[id]? with
    | none => exact ih.perform_none hs
    | some s => exact ih.perform_some hs
  | turn clock link h ih => exact ⟨ih.unbuilt, ih.sound, ih.replay, ih.balance, ih.told, ih.current⟩
  | @ask made c shown before after task hreq h ih =>
    have hpending : pendingIn id (before ++ [task] :: after) =
        pendingIn id (before ++ [] :: after) := by
      rw [pendingIn_append_cons, pendingIn_append_cons]
      cases hreq <;> rfl
    refine ⟨?_, ih.sound, ih.replay, ih.balance, ?_, ?_⟩
    · simp only [hpending]
      exact ih.unbuilt
    · simp only [hpending]
      exact ih.told
    · simp only [hpending]
      exact ih.current

end Ssdp
