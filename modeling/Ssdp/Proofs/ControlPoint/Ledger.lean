import Ssdp.Proofs.ControlPoint.Quiet
import Ssdp.Proofs.Locator.Ledger

/-!
# The ledger of an owner

An owner that does not call its locator back can rely on what it is told: at any
point, the events shown so far and those that are still pending lead from the
empty ledger to the devices that are cached.

* `Told`, `Told.move`: the invariant, and that it is kept;
* `replay_events_eq_cache`: the events shown never fail to fit, and when none is
  pending they give what is cached.
-/

namespace Ssdp

variable {ν : Type}

section

variable {id : LocatorId}

/-- The events of a locator, shown and pending, account for its cache. One that is
not built yet has none, and one that is disposed has none pending. -/
structure Told (id : LocatorId) (r : Run ν) : Prop where
  unbuilt : r.state.slots[id]? = none →
    eventsOf id r.journal = [] ∧ pendingEvents id r.agenda = []
  sound : ∀ s, r.state.slots[id]? = some s → s.locator.cache.Sound
  replay : ∀ s, r.state.slots[id]? = some s →
    Ledger.empty.replay (eventsOf id r.journal ++ pendingEvents id r.agenda) =
      some s.locator.cache.device?
  silent : ∀ s, r.state.slots[id]? = some s → s.locator.disposed = true →
    pendingEvents id r.agenda = []

theorem changes_eq_false_of_guards {task : Task ν} (h : task.changes id = true) :
    task.guards id = false ∧ task.pending id = [] := by
  cases task with
  | operate id' op => exact ⟨rfl, rfl⟩
  | search id' => exact ⟨rfl, rfl⟩
  | _ => cases h

variable [UrlParser]

/-- The events of a task lead from the devices cached before it to those cached
after it. -/
theorem replay_undergo {l : Locator} (h : l.cache.Sound) (clock : Conditions) (task : Task ν) :
    Ledger.replay l.cache.device? (l.undergo id clock task).2 =
      some (l.undergo id clock task).1.cache.device? :=
  Locator.undergo_cases rfl (Ledger.replay_react h clock)
    (Ledger.replay_sweep h clock) id task

section

variable {c : ControlPoint ν} {shown : List Entry} {task : Task ν} {rest : List (Task ν)}

/-- A step before the locator is built, or the one that builds it. -/
theorem Told.perform_none (h : Told id ⟨c, shown, task :: rest⟩) (hn : c.slots[id]? = none) :
    Told id ⟨(c.perform task).state, shown ++ (c.perform task).journal,
      (c.perform task).todo ++ rest⟩ := by
  obtain ⟨hshown, hpending⟩ := h.unbuilt hn
  rw [pendingEvents_cons, List.append_eq_nil_iff] at hpending
  obtain ⟨htask, hrest⟩ := hpending
  obtain ⟨hj, ht⟩ := ControlPoint.events_perform_of_not_changes (c := c) htask fun _ => hn
  have hevents : eventsOf id (shown ++ (c.perform task).journal) = [] := by
    rw [eventsOf_append, hshown, hj, List.append_nil]
  have hagenda : pendingEvents id ((c.perform task).todo ++ rest) = [] := by
    rw [pendingEvents_append, ht, hrest, List.append_nil]
  refine ⟨fun _ => ⟨hevents, hagenda⟩, fun s' hs' => ?_, fun s' hs' => ?_, fun _ _ _ => hagenda⟩
  · obtain ⟨-, config, owner, -, -, -, rfl⟩ := ControlPoint.slots_perform_none hn hs'
    exact Cache.sound_empty
  · obtain ⟨-, config, owner, -, -, -, rfl⟩ := ControlPoint.slots_perform_none hn hs'
    simp only [hevents, hagenda]
    rfl

/-- The events shown and pending before a step lead, with those of its task, to what
is cached after it. -/
theorem Told.replay_perform (h : Told id ⟨c, shown, task :: rest⟩)
    (hrest : task.changes id = true → pendingEvents id rest = []) {s : Slot ν}
    (hs : c.slots[id]? = some s) :
    Ledger.empty.replay
      (eventsOf id shown ++ (task.pending id ++ (s.locator.undergo id c.clock task).2) ++
        pendingEvents id rest) = some (s.locator.undergo id c.clock task).1.cache.device? := by
  have hold := h.replay s hs
  simp only [pendingEvents_cons] at hold
  cases hc : task.changes id with
  | true =>
    have hpending := (changes_eq_false_of_guards hc).2
    rw [hpending, hrest hc, List.append_nil, List.append_nil] at hold
    rw [hpending, hrest hc, List.append_nil, List.nil_append, Ledger.replay_append, hold]
    exact replay_undergo (h.sound s hs) c.clock task
  | false =>
    rw [Locator.undergo_of_not_changes hc, List.append_nil, List.append_assoc]
    exact hold

/-- Where a locator is disposed after a step, no event of it is pending before it,
and its task leads to none. -/
theorem Told.silent_perform (h : Told id ⟨c, shown, task :: rest⟩)
    (hsearch : SearchFirst ⟨c, shown, task :: rest⟩)
    (hrest : task.changes id = true → pendingEvents id rest = []) {s : Slot ν}
    (hs : c.slots[id]? = some s)
    (hd : (s.locator.undergo id c.clock task).1.disposed = true) :
    task.pending id ++ (s.locator.undergo id c.clock task).2 = [] ∧ pendingEvents id rest = [] := by
  cases hd' : s.locator.disposed with
  | true =>
    have hne : task ≠ .search id := by
      rintro rfl
      have hhead := hsearch.head id rest s rfl hs
      rw [hd'] at hhead
      cases hhead
    obtain ⟨htask, hpending⟩ := List.append_eq_nil_iff.1 (h.silent s hs hd')
    rw [htask, (Locator.undergo_of_disposed hd' hne).2]
    exact ⟨rfl, hpending⟩
  | false =>
    -- The step has disposed of it, so the task operates it.
    have hc : task.changes id = true := by
      refine Bool.ne_false_iff.1 fun hc => ?_
      rw [Locator.undergo_of_not_changes hc] at hd
      exact Bool.false_ne_true (hd'.symm.trans hd)
    rw [(changes_eq_false_of_guards hc).2, Locator.undergo_snd_of_disposed hd' hd]
    exact ⟨rfl, hrest hc⟩

/-- A step of a locator that is there. -/
theorem Told.perform_some (h : Told id ⟨c, shown, task :: rest⟩)
    (hsearch : SearchFirst ⟨c, shown, task :: rest⟩) (hguarded : Guarded id (task :: rest))
    (hcalm : Run.WithoutCallback id ⟨c, shown, task :: rest⟩) {s : Slot ν}
    (hs : c.slots[id]? = some s) :
    Told id ⟨(c.perform task).state, shown ++ (c.perform task).journal,
      (c.perform task).todo ++ rest⟩ := by
  have hslot := ControlPoint.slots_perform hs task
  have hevents := ControlPoint.events_perform hs fun hd =>
    (List.append_eq_nil_iff.1 (h.silent s hs hd)).1
  -- What is pending in the rest stays where it is, and there is none if the task
  -- changes the locator.
  have hrest : task.changes id = true → pendingEvents id rest = [] := fun hc =>
    pendingEvents_eq_nil_of_guarded hguarded (changes_eq_false_of_guards hc).1
      (hcalm task rest rfl hc)
  refine ⟨fun hn => ?_, fun s' hs' => ?_, fun s' hs' => ?_, fun s' hs' hd' => ?_⟩
  · rw [hslot] at hn
    cases hn
  · obtain ⟨rfl⟩ := Option.some.inj (hslot.symm.trans hs')
    exact Locator.sound_undergo (h.sound s hs) id c.clock task
  · obtain ⟨rfl⟩ := Option.some.inj (hslot.symm.trans hs')
    have hreplay := h.replay_perform hrest hs
    rw [← hevents, ← List.append_assoc, ← eventsOf_append] at hreplay
    rw [pendingEvents_append, ← List.append_assoc]
    exact hreplay
  · obtain ⟨rfl⟩ := Option.some.inj (hslot.symm.trans hs')
    obtain ⟨hnone, hpending⟩ := h.silent_perform hsearch hrest hs hd'
    rw [hnone, List.append_eq_nil_iff] at hevents
    rw [pendingEvents_append, hevents.2, hpending, List.append_nil]

theorem Told.move {r r' : Run ν} (h : Told id r) (hsearch : SearchFirst r)
    (hguarded : Guarded id r.agenda) (hcalm : r.WithoutCallback id) (hm : Move r r') :
    Told id r' := by
  cases hm with
  | perform c shown task rest =>
    cases hs : c.slots[id]? with
    | none => exact h.perform_none hs
    | some s => exact h.perform_some hsearch hguarded hcalm hs
  | turn c shown agenda clock link => exact ⟨h.unbuilt, h.sound, h.replay, h.silent⟩
  | ask c shown hreq =>
    rename_i task
    have hpending : pendingEvents id [task] = [] := by
      cases hreq <;> rfl
    refine ⟨fun hn => ⟨(h.unbuilt hn).1, hpending⟩, h.sound, fun s hs => ?_, fun _ _ _ => hpending⟩
    rw [hpending]
    exact h.replay s hs

theorem Reached.told {r : Run ν} (h : Reached (Run.WithoutCallback id) r) : Told id r := by
  induction h with
  | fresh =>
    have hnone {s : Slot ν} (hs : ([] : List (Slot ν))[id]? = some s) : False := by
      simp at hs
    exact ⟨fun _ => ⟨rfl, rfl⟩, fun s hs => (hnone hs).elim, fun s hs => (hnone hs).elim,
      fun s hs => (hnone hs).elim⟩
  | move hr hok hm ih => exact ih.move hr.searchFirst hr.guarded hok hm

end

/-! ## What owners can rely on -/

/-- The events shown of a locator lead from an empty ledger to what it caches. -/
def Run.Balanced (id : LocatorId) (r : Run ν) : Prop :=
  ∀ s, r.state.slots[id]? = some s →
    ∃ ledger, Ledger.empty.replay (eventsOf id r.journal) = some ledger ∧
      ∀ k d, ledger k = some d ↔ d ∈ s.locator.cache.devices ∧ d.key = k

omit [UrlParser] in
/-- The events shown never fail to fit, whatever is still pending. -/
theorem Told.exists_replay {r : Run ν} (h : Told id r) :
    ∃ ledger, Ledger.empty.replay (eventsOf id r.journal) = some ledger := by
  cases hs : r.state.slots[id]? with
  | none =>
    rw [(h.unbuilt hs).1]
    exact ⟨_, rfl⟩
  | some s =>
    obtain ⟨ledger, hledger, -⟩ := Ledger.exists_replay_of_append (h.replay s hs)
    exact ⟨ledger, hledger⟩

omit [UrlParser] in
/-- When no event is pending, the events shown account for the cache. -/
theorem Told.balanced {r : Run ν} (h : Told id r) (hnone : pendingEvents id r.agenda = []) :
    r.Balanced id := by
  intro s hs
  have hreplay := h.replay s hs
  rw [hnone, List.append_nil] at hreplay
  refine ⟨_, hreplay, fun k d => ?_⟩
  rw [(h.sound s hs).mem_devices_iff]
  constructor
  · intro hd
    have hkey : d.key = k := (h.sound s hs).key_eq hd
    exact ⟨hkey ▸ hd, hkey⟩
  · rintro ⟨hd, rfl⟩
    exact hd

/-- Where all code that is called keeps to itself, no owner calls its locator
back. -/
theorem Reached.withoutCallback {r : Run ν} (h : Reached Run.QuietProgram r) (id : LocatorId) :
    Reached (Run.WithoutCallback id) r := by
  induction h with
  | fresh notes clock link attempts => exact .fresh notes clock link attempts
  | move hr hok hm ih => exact .move ih ((hr.quiet hok).withoutCallback id) hm

/-- Quiet steps call no locator back. -/
theorem Reached.after {r : Run ν} (h : Reached (Run.WithoutCallback id) r) (hr : r.Quiet)
    (n : Nat) : Reached (Run.WithoutCallback id) (r.after n) := by
  let P (r : Run ν) : Prop := Reached (Run.WithoutCallback id) r ∧ r.Quiet
  have hkept : P (r.after n) := by
    refine Run.after_induction (fun c shown task rest hc => ⟨?_, hc.2.perform⟩) ⟨h, hr⟩ n
    exact .move hc.1 (hc.2.withoutCallback id) (.perform c shown task rest)
  exact hkept.1

/-- The ledger of an owner. As long as the owner of a locator does not call it back,
no event that is shown fails to fit, and whenever no event is pending, as when nothing
is left to be done, the events shown account for the cache. Owners and subscribers
that neither dispatch nor operate a locator call none back, and with them everything
that is asked for comes to an end. -/
theorem replay_events_eq_cache (id : LocatorId) :
    (∀ r : Run ν, Reached (Run.WithoutCallback id) r →
      (∃ ledger, Ledger.empty.replay (eventsOf id r.journal) = some ledger) ∧
        (pendingEvents id r.agenda = [] → r.Balanced id)) ∧
    ∀ r : Run ν, Reached Run.QuietProgram r → r.QuietProgram →
      Reached (Run.WithoutCallback id) r ∧
        ∃ n, (r.after n).agenda = [] ∧ (r.after n).Balanced id := by
  refine ⟨fun r hr => ⟨hr.told.exists_replay, hr.told.balanced⟩, fun r hr hprogram => ?_⟩
  have hcalm : Reached (Run.WithoutCallback id) r := hr.withoutCallback id
  have hquiet : r.Quiet := hr.quiet hprogram
  obtain ⟨n, hn⟩ := hquiet.comes_to_rest
  have hnone : pendingEvents id (r.after n).agenda = [] := by rw [hn, pendingEvents_nil]
  exact ⟨hcalm, n, hn, (hcalm.after hquiet n).told.balanced hnone⟩

end

/-- An announcement of one device, with the given `NTS`. -/
def announcementWith (nts : Text) : Received where
  message :=
    { startLine := notifyStartLine
      headers := ⟨[⟨"NT".toList, "upnp:rootdevice".toList⟩, ⟨"NTS".toList, nts⟩,
        ⟨"USN".toList, "uuid:1".toList⟩, ⟨"LOCATION".toList, "http://h/".toList⟩]⟩ }
  sender := .v4 .unspecified 1900
  localAddress := .v4 .unspecified

/-- A device comes, is heard of again and leaves, while the owner of the only
locator panics at every event. -/
def visit : Run Unit where
  state := { notes := () }
  journal := []
  agenda := [.script .program <|
    .build .forAll (fun _ => .panic .wordless) fun _ =>
    .dispatch (announcementWith "ssdp:alive".toList) fun _ =>
    .dispatch (announcementWith "ssdp:alive".toList) fun _ =>
    .dispatch (announcementWith "ssdp:byebye".toList) fun _ => .done]

attribute [local instance] UrlParser.verbatim

theorem visit_balanced : (visit.after 60).agenda.length = 0 ∧
    (eventsOf 0 (visit.after 60).journal).map Event.isNew = [true, false, false] ∧
    (visit.after 60).Balanced 0 := by
  have hprogram : visit.QuietProgram := by
    intro body hm
    obtain ⟨-, rfl⟩ := Task.script.inj (List.mem_singleton.1 hm)
    exact ⟨fun _ => trivial, fun _ => ⟨rfl, fun _ => ⟨rfl, fun _ => ⟨rfl, fun _ => trivial⟩⟩⟩⟩
  have hreached : Reached Run.QuietProgram visit := by
    exact .move (.fresh () {} {} 0) (fun body hm => nomatch hm) (.ask _ _ (.script _))
  have hend : (visit.after 60).agenda.length = 0 := by decide +kernel
  have hcalm := ((replay_events_eq_cache 0).2 visit hreached hprogram).1.after
    (hreached.quiet hprogram) 60
  have hnone : pendingEvents 0 (visit.after 60).agenda = [] := by
    rw [List.eq_nil_of_length_eq_zero hend, pendingEvents_nil]
  exact ⟨hend, by decide +kernel, ((replay_events_eq_cache 0).1 _ hcalm).2 hnone⟩

end Ssdp
