import Ssdp.Proofs.ControlPoint.Agenda
import Ssdp.Proofs.ControlPoint.Wiring

/-!
# Disposal

A locator may be disposed of at any point: while it sweeps or searches, while
its owner is told of an event, or by another subscriber of a dispatch it is to
be invoked in. What was under way then goes on, but for that locator it has no
effect any more.

* `Reached.orderly`: a disposed locator listens to nothing and keeps no number;
* `Gone`, `Gone.move`: what holds of a disposed locator from then on;
* `dispose_is_final`: it holds wherever a disposal may lead.
-/

namespace Ssdp

variable {ν : Type}

section

/-! ## Disposed locators -/

variable [UrlParser]

namespace Locator

theorem Orderly.undergo {l : Locator} (h : l.Orderly) (id : LocatorId) (clock : Conditions)
    (task : Task ν) : (l.undergo id clock task).1.Orderly :=
  undergo_cases h (h.react clock) (h.with_cache _) id task

/-- Nothing becomes of a retired locator but that it is dropped. -/
theorem undergo_retire (l : Locator) (dropped : Bool) (id : LocatorId) (clock : Conditions)
    {task : Task ν} (hsearch : task ≠ .search id) :
    ∃ dropped', ({ l.retire with dropped } : Locator).undergo id clock task =
      ({ l.retire with dropped := dropped' }, []) := by
  cases task with
  | operate id' op =>
    simp only [undergo]
    split
    · cases op with
      | drop => exact ⟨true, rfl⟩
      | answer e => exact ⟨dropped, by rw [react, judgeAnswer_of_disposed rfl]; rfl⟩
      | announcement e => exact ⟨dropped, by rw [react, judgeAnnouncement_of_disposed rfl]; rfl⟩
      | start => exact ⟨dropped, by simp [react, retire]⟩
      | _ => exact ⟨dropped, rfl⟩
    · exact ⟨dropped, rfl⟩
  | search id' =>
    have hid : id' ≠ id := fun hid => hsearch (hid ▸ rfl)
    exact ⟨dropped, by rw [undergo, if_neg hid]⟩
  | _ => exact ⟨dropped, rfl⟩

end Locator

theorem Reached.orderly {ok : Run ν → Prop} {r : Run ν} (h : Reached ok r) {id : LocatorId}
    {s : Slot ν} (hs : r.state.slots[id]? = some s) : s.locator.Orderly := by
  induction h generalizing id s with
  | fresh notes clock link attempts =>
    rw [List.getElem?_nil] at hs
    cases hs
  | move _ _ hm ih =>
    cases hm with
    | perform c shown task rest =>
      exact c.forall_locators_perform Locator.orderly_built
        (fun l id clock hl => hl.undergo id clock) (fun id s => ih) task id s hs
    | turn => exact ih hs
    | ask => exact ih hs

/-! ## What is under way -/

/-- Whether a task sends a search for a locator. -/
def Task.sends (id : LocatorId) : Task ν → Bool
  | .broadcast id' => id' = id
  | _ => false

/-- Whether a task goes on with a call of the owner of a locator. -/
def Task.calls (id : LocatorId) : Task ν → Bool
  | .script caller _ => caller = .owner id
  | _ => false

/-- Whether a task invokes a handler that belongs to a locator. -/
def Task.invokes (id : LocatorId) : Task ν → Bool
  | .invoke s _ => s.handler.locator? = some id
  | _ => false

/-- Whether the entry shows a search that was sent for a locator. -/
def Entry.isSent (id : LocatorId) : Entry → Bool
  | .sent id' _ => id' = id
  | _ => false

section

variable {id : LocatorId} {c : ControlPoint ν} {task : Task ν} {todo : List (Task ν)}

omit [UrlParser] in
/-- Only a sweep leads to a search that is sent. -/
theorem Leaves.countP_sends (h : Leaves c task todo) (hsearch : task ≠ .search id) :
    todo.countP (Task.sends id) = 0 := by
  cases h with
  | sweep id' ds =>
    have hid : id' ≠ id := fun hid => hsearch (hid ▸ rfl)
    simp [List.countP_eq_zero, Task.sends, hid]
  | _ => simp [List.countP_eq_zero, ControlPoint.dispatchTasks, Task.sends]

omit [UrlParser] in
/-- The calls of an owner go on one by one, and begin with an event. -/
theorem Leaves.countP_calls (h : Leaves c task todo)
    (hdisposed : ∀ s, c.slots[id]? = some s → s.locator.disposed = true) :
    todo.countP (Task.calls id) ≤ [task].countP (Task.calls id) := by
  cases h with
  | emit id' event s hs hd =>
    have hid : id' ≠ id := by
      rintro rfl
      rw [hdisposed s hs] at hd
      cases hd
    simp [Task.calls, hid]
  | _ =>
    simp [List.countP_cons, List.countP_map, Function.comp_def, ControlPoint.dispatchTasks,
      Task.calls]

omit [UrlParser] in
/-- Where no subscription belongs to a locator, no handler of it is put on the
agenda. -/
theorem Leaves.filter_invokes (h : Leaves c task todo)
    (hnone : ∀ key, ∀ s ∈ c.router.subscriptions key, s.handler.locator? ≠ some id) :
    todo.filter (Task.invokes id) = [] := by
  have hdispatch (e : Received) : ∀ t ∈ c.dispatchTasks e, ¬t.invokes id = true := by
    intro t ht
    obtain ⟨s, hs, rfl⟩ := List.mem_map.1 ht
    simpa [Task.invokes] using hnone _ s hs
  refine List.filter_eq_nil_iff.2 ?_
  cases h with
  | deliver e => exact hdispatch e
  | dispatch caller e next n =>
    exact List.forall_mem_append.2 ⟨hdispatch e, List.forall_mem_singleton.2 nofun⟩
  | _ => simp [or_imp, forall_and, Task.invokes]

omit [UrlParser] in
/-- A step shows a search for a locator only if it is there to send it, and none of
its events once it is disposed. -/
theorem Shows.countP_isSent {journal : List Entry} (h : Shows c task journal) :
    journal.countP (Entry.isSent id) ≤ [task].countP (Task.sends id) := by
  cases h with
  | records task hrecords =>
    have hnone : journal.countP (Entry.isSent id) = 0 := by
      refine List.countP_eq_zero.2 fun entry hentry => ?_
      obtain ⟨record, rfl⟩ := hrecords entry hentry
      exact nofun
    rw [hnone]
    exact Nat.zero_le _
  | _ => simp [List.countP_cons, Entry.isSent, Task.sends]

omit [UrlParser] in
theorem Shows.emitted_not_mem {journal : List Entry} (h : Shows c task journal)
    (hdisposed : ∀ s, c.slots[id]? = some s → s.locator.disposed = true) (event : Event) :
    .emitted id event ∉ journal := by
  intro hm
  obtain ⟨-, s, hs, hd⟩ := h.of_emitted_mem hm
  rw [hdisposed s hs] at hd
  cases hd

end

/-! ## From the disposal on -/

/-- What holds of a locator from its disposal on, given the locator and the run at
that moment. It stays as it was but for being dropped, and nothing in the router
belongs to it; what is on the agenda for it, and what is shown of it, comes from
what was on the agenda before. -/
structure Gone (id : LocatorId) (l : Locator) (before r : Run ν) : Prop where
  retired : ∃ dropped, r.state.locator? id = some { l.retire with dropped }
  unsubscribed : ∀ key, ∀ s ∈ r.state.router.subscriptions key, s.handler.locator? ≠ some id
  unswept : .search id ∉ r.agenda
  shown : ∃ shown, r.journal = before.journal ++ shown ∧
    (∀ event, .emitted id event ∉ shown) ∧
    shown.countP (Entry.isSent id) + r.agenda.countP (Task.sends id) ≤
      before.agenda.countP (Task.sends id)
  calls : r.agenda.countP (Task.calls id) ≤ before.agenda.countP (Task.calls id)
  invocations : (r.agenda.filter (Task.invokes id)).Sublist
    (before.agenda.filter (Task.invokes id))

namespace Gone

variable {id : LocatorId} {l : Locator} {before r : Run ν}

omit [UrlParser] in
theorem slot (h : Gone id l before r) : ∃ s dropped, r.state.slots[id]? = some s ∧
    s.locator = { l.retire with dropped } := by
  obtain ⟨dropped, hl⟩ := h.retired
  obtain ⟨s, hs, hsl⟩ := Option.map_eq_some_iff.1 hl
  exact ⟨s, dropped, hs, hsl⟩

omit [UrlParser] in
theorem disposed (h : Gone id l before r) (s : Slot ν) (hs : r.state.slots[id]? = some s) :
    s.locator.disposed = true := by
  obtain ⟨s', dropped, hs', hl⟩ := h.slot
  obtain ⟨rfl⟩ := Option.some.inj (hs.symm.trans hs')
  rw [hl]
  rfl

theorem perform {c : ControlPoint ν} {shown : List Entry} {task : Task ν} {rest : List (Task ν)}
    (h : Gone id l before ⟨c, shown, task :: rest⟩) (hw : Wired c.router c.kept) :
    Gone id l before ⟨(c.perform task).state, shown ++ (c.perform task).journal,
      (c.perform task).todo ++ rest⟩ := by
  have hsearch : task ≠ .search id := fun ht => h.unswept (ht ▸ List.mem_cons_self)
  have hleaves := leaves_perform c task
  have hshows := shows_perform c task
  obtain ⟨s, dropped, hs, hl⟩ := h.slot
  obtain ⟨dropped', hl'⟩ := l.undergo_retire dropped id c.clock hsearch
  have hslot := ControlPoint.slots_perform hs task
  rw [hl, hl'] at hslot
  have hretired := ControlPoint.locator?_eq hslot
  refine ⟨⟨dropped', hretired⟩, fun key sub hsub => ?_, fun hm => ?_, ?_, ?_, ?_⟩
  · have hkept : (c.perform task).state.kept id = [] := ControlPoint.kept_of_slot hslot
    intro hbelongs
    have hm := ((hw.rewire (c.rewires_perform task)).belongs key sub hsub id).1 hbelongs
    rw [hkept] at hm
    exact List.not_mem_nil hm
  · rcases List.mem_append.1 hm with hm | hm
    · obtain ⟨-, op, l', -, -, hl'', hd⟩ := hleaves.of_search_mem hm
      obtain ⟨s', hs', rfl⟩ := Option.map_eq_some_iff.1 hl''
      rw [h.disposed s' hs'] at hd
      cases hd
    · exact h.unswept (List.mem_cons_of_mem _ hm)
  · obtain ⟨more, hmore, hemitted, hsent⟩ := h.shown
    refine ⟨more ++ (c.perform task).journal, ?_, fun event hm => ?_, ?_⟩
    · show shown ++ _ = _
      rw [← List.append_assoc, ← hmore]
    · rcases List.mem_append.1 hm with hm | hm
      · exact hemitted event hm
      · exact hshows.emitted_not_mem h.disposed event hm
    · have hstep : _ ≤ [task].countP (Task.sends id) := hshows.countP_isSent
      have hnone := hleaves.countP_sends hsearch
      rw [List.countP_append, List.countP_append, hnone]
      rw [← List.singleton_append, List.countP_append] at hsent
      omega
  · have hstep := hleaves.countP_calls h.disposed
    have hcalls := h.calls
    rw [← List.singleton_append, List.countP_append] at hcalls
    rw [List.countP_append]
    omega
  · rw [List.filter_append, hleaves.filter_invokes h.unsubscribed, List.nil_append]
    exact ((List.sublist_cons_self task rest).filter _).trans h.invocations

theorem move {r' : Run ν} (h : Gone id l before r) (hw : Wired r.state.router r.state.kept)
    (hm : Move r r') : Gone id l before r' := by
  cases hm with
  | perform c shown task rest => exact h.perform hw
  | turn c shown agenda clock link =>
    exact ⟨h.retired, h.unsubscribed, h.unswept, h.shown, h.calls, h.invocations⟩
  | ask c shown hreq =>
    rename_i task
    have hsends : [task].countP (Task.sends id) = 0 := by cases hreq <;> rfl
    have hcalls : [task].countP (Task.calls id) = 0 := by cases hreq <;> rfl
    have hinvokes : [task].filter (Task.invokes id) = [] := by cases hreq <;> rfl
    refine ⟨h.retired, h.unsubscribed, fun hm => ?_, ?_, ?_, ?_⟩
    · rw [← List.mem_singleton.1 hm] at hreq
      cases hreq
    · obtain ⟨more, hmore, hemitted, hsent⟩ := h.shown
      exact ⟨more, hmore, hemitted, by rw [hsends]; exact hsent⟩
    · rw [hcalls]
      exact Nat.zero_le _
    · rw [hinvokes]
      exact List.nil_sublist _

/-- From then on no operation, but for dropping the locator, does anything at all. -/
theorem perform_operate (h : Gone id l before r) {op : Operation} (hop : op ≠ .drop) :
    r.state.perform (.operate id op) = { state := r.state } := by
  obtain ⟨s, dropped, hs, hl⟩ := h.slot
  have hsame : ∀ f : Locator → Locator, f s.locator = s.locator →
      r.state.modifyLocator id f = r.state := fun f hf => ControlPoint.modifyLocator_self hs hf
  have hdisposed : s.locator.disposed = true := h.disposed s hs
  simp only [ControlPoint.perform, ControlPoint.withLocator, ControlPoint.locator?_eq hs]
  split
  · rfl
  · cases op with
    | start => simp [ControlPoint.operate, ControlPoint.start, hdisposed]
    | stop =>
      rw [ControlPoint.operate, ControlPoint.stop, hsame _ (by rw [hl]; rfl)]
    | dispose =>
      have hstate := hsame Locator.retire (by rw [hl]; rfl)
      have htimer : s.locator.timer = false := by rw [hl]; rfl
      have hnumbers : s.locator.subscriptions = [] := by rw [hl]; rfl
      simp only [ControlPoint.operate, ControlPoint.dispose, htimer, hnumbers]
      exact congrArg (fun c => ({ state := c } : Outcome ν)) hstate
    | drop => exact absurd rfl hop
    | searchNow => simp [ControlPoint.operate, hdisposed]
    | tick => simp [ControlPoint.operate, hdisposed]
    | answer e =>
      rw [ControlPoint.operate, Locator.judgeAnswer_of_disposed hdisposed]
      rfl
    | announcement e =>
      rw [ControlPoint.operate, Locator.judgeAnnouncement_of_disposed hdisposed]
      rfl

/-- A handler of the locator that is still invoked does nothing. -/
theorem after_invoke (h : Gone id l before r) {s : Subscription (Subscriber ν)} {e : Received}
    {rest : List (Task ν)} (hr : r.agenda = .invoke s e :: rest)
    (hs : s.handler.locator? = some id) :
    r.after 2 = ⟨r.state, r.journal ++ [.invoked s.id e], rest⟩ := by
  obtain ⟨c, shown, agenda⟩ := r
  obtain rfl : agenda = _ := hr
  obtain ⟨op, hop, hinvoke⟩ : ∃ op, op ≠ .drop ∧ c.perform (.invoke s e) =
      { state := c, todo := [.operate id op], journal := [.invoked s.id e] } := by
    obtain ⟨hid, handler⟩ := s
    cases handler with
    | answers id' =>
      obtain rfl : id' = id := Option.some.inj hs
      exact ⟨.answer e, nofun, rfl⟩
    | announcements id' =>
      obtain rfl : id' = id := Option.some.inj hs
      exact ⟨.announcement e, nofun, rfl⟩
    | code handler => cases hs
  have hoperate : c.perform (.operate id op) = { state := c } := h.perform_operate hop
  rw [Run.after_succ, hinvoke, List.singleton_append, Run.after_succ, hoperate, Run.after_zero]
  simp

end Gone

section

variable {c : ControlPoint ν} {shown : List Entry} {rest : List (Task ν)} {id : LocatorId}
  {l : Locator}

/-- Disposing of a locator leaves nothing to be done, and retires it. -/
theorem perform_dispose {s : Slot ν} (hs : c.slots[id]? = some s) (horderly : s.locator.Orderly) :
    (c.perform (.operate id .dispose)).todo = [] ∧
      (c.perform (.operate id .dispose)).state.slots[id]? =
        some { s with locator := s.locator.retire } := by
  refine ⟨?_, ?_⟩
  · simp only [ControlPoint.perform, ControlPoint.withLocator, ControlPoint.locator?_eq hs]
    split <;> rfl
  · rw [ControlPoint.slots_perform hs]
    cases hd : s.locator.dropped with
    | false => simp [Locator.undergo, hd, Locator.react]
    | true =>
      have hretired : s.locator.retire = s.locator := horderly.retired (horderly.disposed hd)
      simp [Locator.undergo, hd, hretired]

/-- The subscriptions of the locator are gone, and all others stay in order. -/
theorem subscriptions_dispose {s : Slot ν} (hs : c.slots[id]? = some s)
    (horderly : s.locator.Orderly) (hw : Wired c.router c.kept) (key : Text) :
    (c.perform (.operate id .dispose)).state.router.subscriptions key =
      (c.router.subscriptions key).filter fun sub => sub.handler.locator? ≠ some id := by
  simp only [ControlPoint.perform, ControlPoint.withLocator, ControlPoint.locator?_eq hs]
  split
  · rename_i hd
    have hnumbers : c.kept id = [] := by
      rw [ControlPoint.kept_of_slot hs, ← horderly.retired (horderly.disposed hd)]
      rfl
    rw [← hw.subscriptions_unsubscribeAll, hnumbers]
    rfl
  · have hrouter : (c.operate id s.locator .dispose).state.router = _ :=
      ControlPoint.router_dispose hs
    rw [hrouter, hw.subscriptions_unsubscribeAll]

/-- Dispose is final. It is done in one step, wherever it is called, and takes the
subscriptions of the locator out of the router and no others. Whatever follows, the
locator keeps the cache it had, neither listens nor holds a timer or a subscription,
and tells its owner of nothing more; a search is sent only if it was about to be;
operating it, or disposing of it again, does nothing, nor does a handler of it that
is still invoked. -/
theorem dispose_is_final
    (h : Reached (fun _ => True) ⟨c, shown, .operate id .dispose :: rest⟩)
    (hl : c.locator? id = some l) :
    let returned := Run.after ⟨c, shown, .operate id .dispose :: rest⟩ 1
    returned.agenda = rest ∧
    (∀ key, returned.state.router.subscriptions key =
      (c.router.subscriptions key).filter fun s => s.handler.locator? ≠ some id) ∧
    ∀ r, Leads returned r →
      Gone id l returned r ∧
      (∀ op, op ≠ .drop → r.state.perform (.operate id op) = { state := r.state }) ∧
      ∀ s e rest', r.agenda = .invoke s e :: rest' → s.handler.locator? = some id →
        r.after 2 = ⟨r.state, r.journal ++ [.invoked s.id e], rest'⟩ := by
  obtain ⟨s, hs, rfl⟩ := Option.map_eq_some_iff.1 hl
  have horderly : s.locator.Orderly := h.orderly hs
  obtain ⟨htodo, hslot⟩ := perform_dispose hs horderly
  have hsubscriptions := subscriptions_dispose hs horderly h.wired
  have hafter : Run.after ⟨c, shown, .operate id .dispose :: rest⟩ 1 =
      ⟨(c.perform (.operate id .dispose)).state,
        shown ++ (c.perform (.operate id .dispose)).journal, rest⟩ := by
    rw [Run.after_succ, Run.after_zero, htodo, List.nil_append]
  intro returned
  have hreached : Reached (fun _ => True) returned := h.leads (leads_after _ 1)
  have hbegin : Gone id s.locator returned returned := by
    show Gone id s.locator (Run.after _ 1) (Run.after _ 1)
    rw [hafter]
    refine ⟨⟨s.locator.dropped, ControlPoint.locator?_eq hslot⟩, fun key sub hsub => ?_,
      h.searchFirst.tail id, ⟨[], by simp⟩, Nat.le_refl _, .refl _⟩
    rw [hsubscriptions, List.mem_filter] at hsub
    simpa using hsub.2
  refine ⟨congrArg Run.agenda hafter, fun key => ?_, fun r hr => ?_⟩
  · rw [← hsubscriptions key]
    exact congrArg (fun r : Run ν => r.state.router.subscriptions key) hafter
  · have hgone : Gone id s.locator returned r := by
      induction hr with
      | refl => exact hbegin
      | tail hr hm ih => exact ih.move (hreached.leads hr).wired hm
    exact ⟨hgone, fun op hop => hgone.perform_operate hop, fun sub e rest' => hgone.after_invoke⟩

end

end

attribute [local instance] UrlParser.verbatim

/-- Another subscriber disposes of a locator before it is its turn in a dispatch. -/
def interrupted : Run Unit where
  state := { notes := () }
  journal := []
  agenda := [.script .program <|
    .subscribe notifyKey (fun _ => .operate 0 .dispose .done) fun _ =>
    .build .forAll (fun _ => .done) fun _ =>
    .dispatch ⟨{ startLine := notifyStartLine }, .v4 .unspecified 1900, .v4 .unspecified⟩ fun _ =>
    .done]

theorem interrupted_gone : ∃ l, (interrupted.after 5).state.locator? 0 = some l ∧
    ((interrupted.after 6).agenda.filter (Task.invokes 0)).length = 1 ∧
    ∀ r, Leads (interrupted.after 6) r → Gone 0 l (interrupted.after 6) r := by
  have hreached : Reached (fun _ => True) (interrupted.after 5) := by
    have hasked : Reached (fun _ => True) interrupted :=
      .move (.fresh () {} {} 0) trivial (.ask _ _ (.script _))
    exact hasked.leads (leads_after _ 5)
  obtain ⟨l, hl⟩ : ∃ l, (interrupted.after 5).state.locator? 0 = some l := ⟨_, rfl⟩
  exact ⟨l, hl, rfl, fun r hr => ((dispose_is_final hreached hl).2.2 r hr).1⟩

end Ssdp
