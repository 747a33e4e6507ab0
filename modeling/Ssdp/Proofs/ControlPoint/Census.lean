import Ssdp.Proofs.ControlPoint.Tenancy

/-!
# Handlers under the keys of locators

Under each of its two keys a locator has one handler from the moment it is built until
it is disposed of, whatever happens to it and to others meanwhile. The handlers that a
router counts under such a key are therefore those of other code and one for every
locator that is there.

* `InOrder.mem_locators_iff`: the locators subscribed under a key are those that are not
  disposed, and `InOrder.nodup_locators`: each of them once;
* `InOrder.handlers_eq`: the handlers that one locator has under a key;
* `locators_in_order`: how the state of locators and the count of handlers belong
  together, wherever civil moves lead.
-/

namespace Ssdp

variable {ν : Type}

section

/-- The locators subscribed under a key, in order. -/
def Router.locators (r : Router (Subscriber ν)) (key : Text) : List LocatorId :=
  (r.subscriptions key).filterMap (·.handler.locator?)

/-- Whether the locator is neither disposed nor dropped. -/
def Slot.isActive (s : Slot ν) : Bool :=
  !s.locator.disposed && !s.locator.dropped

/-- Every handler belongs to a locator or to other code. -/
theorem Router.handlerCount_eq (r : Router (Subscriber ν)) (key : Text) :
    r.handlerCount key =
      ((r.subscriptions key).filterMap Subscription.code?).length + (r.locators key).length := by
  rw [handlerCount, locators]
  induction r.subscriptions key with
  | nil => rfl
  | cons s rest ih =>
    obtain ⟨id, handler⟩ := s
    cases handler <;>
      simp only [List.filterMap_cons, Subscription.code?, Subscriber.locator?, List.length_cons,
        ih] <;>
      omega

theorem Duration.isZero_iff (d : Duration) : d.isZero = true ↔ d.toNanos = 0 := by
  have hnanos := d.nanos_lt
  simp only [isZero, toNanos, nanosPerSec, Bool.and_eq_true, beq_iff_eq] at *
  omega

namespace InOrder

variable {log : List (Registration (Received → Script ν))} {c : ControlPoint ν}

theorem isActive_iff (h : InOrder log c) {id : LocatorId} {s : Slot ν}
    (hs : c.slots[id]? = some s) : s.isActive = true ↔ s.locator.disposed = false := by
  have hdropped := (h.orderly id s hs).disposed
  cases hd : s.locator.disposed <;> cases hd' : s.locator.dropped <;>
    simp_all [Slot.isActive]

/-- A locator that keeps a number is there and not disposed. -/
theorem active_of_kept (h : InOrder log c) {id : LocatorId} {key : Text} {hid : HandlerId}
    (hm : (key, hid) ∈ c.kept id) :
    ∃ s, c.slots[id]? = some s ∧ s.locator.disposed = false ∧
      (key, hid) ∈ s.locator.subscriptions := by
  cases hs : c.slots[id]? with
  | none =>
    rw [ControlPoint.kept_of_none hs] at hm
    exact (List.not_mem_nil hm).elim
  | some s =>
    rw [ControlPoint.kept_of_slot hs] at hm
    refine ⟨s, rfl, Bool.eq_false_iff.2 fun hd => ?_, hm⟩
    rw [← (h.orderly id s hs).retired hd] at hm
    exact List.not_mem_nil hm

/-- A locator keeps one number for each of its keys. -/
theorem kept_unique (h : InOrder log c) {id : LocatorId} {key : Text} {hid hid' : HandlerId}
    (hm : (key, hid) ∈ c.kept id) (hm' : (key, hid') ∈ c.kept id) : hid = hid' := by
  obtain ⟨s, hs, hd, hmem⟩ := h.active_of_kept hm
  rw [ControlPoint.kept_of_slot hs] at hm'
  have hkeys : (s.locator.subscriptions.map (·.1)).Nodup := by
    rw [(h.coherent id s hs).keys hd]
    decide
  exact congrArg Prod.snd (List.inj_on_of_nodup_map hkeys hmem hm' rfl)

theorem nodup_locators (h : InOrder log c) (key : Text) : (c.router.locators key).Nodup := by
  have hids : (c.router.subscriptions key).Pairwise fun s s' => s.id ≠ s'.id :=
    List.pairwise_map.1 (h.distinct key)
  refine List.pairwise_filterMap.2 (hids.imp_of_mem fun hs hs' hne id hid id' hid' => ?_)
  rintro rfl
  exact hne (h.kept_unique ((h.wired.belongs key _ hs id).1 hid)
    ((h.wired.belongs key _ hs' id).1 hid'))

theorem mem_locators_iff (h : InOrder log c) {key : Text}
    (hkey : key ∈ [notifyKey, responseStartLine]) {id : LocatorId} :
    id ∈ c.router.locators key ↔ ∃ s, c.slots[id]? = some s ∧ s.isActive = true := by
  rw [Router.locators, List.mem_filterMap]
  constructor
  · rintro ⟨sub, hsub, hid⟩
    obtain ⟨s, hs, hd, -⟩ := h.active_of_kept ((h.wired.belongs key sub hsub id).1 hid)
    exact ⟨s, hs, (h.isActive_iff hs).2 hd⟩
  · rintro ⟨s, hs, hactive⟩
    have hkeys := (h.coherent id s hs).keys ((h.isActive_iff hs).1 hactive)
    obtain ⟨⟨key', hid⟩, hmem, rfl⟩ : ∃ number ∈ s.locator.subscriptions, number.1 = key := by
      rw [← List.mem_map, hkeys]
      simpa [or_comm] using hkey
    rw [← ControlPoint.kept_of_slot hs] at hmem
    obtain ⟨sub, hsub, rfl⟩ := h.inUse id key' hid hmem
    exact ⟨sub, hsub, (h.wired.belongs key' sub hsub id).2 hmem⟩

/-- As many locators are subscribed under one of their keys as are there. -/
theorem length_locators (h : InOrder log c) {key : Text}
    (hkey : key ∈ [notifyKey, responseStartLine]) :
    (c.router.locators key).length = c.slots.countP Slot.isActive := by
  have hmem (id : LocatorId) :
      id ∈ c.router.locators key ↔ id ∈ c.slots.findIdxs Slot.isActive := by
    rw [h.mem_locators_iff hkey, List.mem_findIdxs_iff_exists_getElem_pos]
    constructor
    · rintro ⟨s, hs, hactive⟩
      obtain ⟨hlt, rfl⟩ := List.getElem?_eq_some_iff.1 hs
      exact ⟨hlt, hactive⟩
    · rintro ⟨hlt, hactive⟩
      exact ⟨_, List.getElem?_eq_getElem hlt, hactive⟩
  have hperm := (List.perm_ext_iff_of_nodup (h.nodup_locators key) List.nodup_findIdxs).2 hmem
  rw [hperm.length_eq, List.length_findIdxs]

/-- The handler that a locator has under one of its keys is the only one of it there. -/
theorem filter_locator?_eq (h : InOrder log c) {id : LocatorId} {key : Text}
    {sub : Subscription (Subscriber ν)} (hsub : sub ∈ c.router.subscriptions key)
    (hmine : sub.handler.locator? = some id) :
    (c.router.subscriptions key).filter (·.handler.locator? = some id) = [sub] := by
  have hids := h.distinct key
  -- Its own number is the only one that the locator keeps under the key.
  have honly : ∀ sub', sub' ∈ (c.router.subscriptions key).filter
      (·.handler.locator? = some id) ↔ sub' ∈ [sub] := by
    intro sub'
    rw [List.mem_filter, List.mem_singleton, decide_eq_true_iff]
    constructor
    · rintro ⟨hsub', hmine'⟩
      have hid := h.kept_unique ((h.wired.belongs key sub' hsub' id).1 hmine')
        ((h.wired.belongs key sub hsub id).1 hmine)
      exact List.inj_on_of_nodup_map hids hsub' hsub hid
    · rintro rfl
      exact ⟨hsub, hmine⟩
  have hperm := (List.perm_ext_iff_of_nodup (hids.of_map.filter _) (List.nodup_singleton sub)).2
    honly
  exact List.perm_singleton.1 hperm

/-- The handlers of a locator: one under each of its keys, until it is disposed. -/
theorem handlers_eq (h : InOrder log c) {id : LocatorId} {s : Slot ν}
    (hs : c.slots[id]? = some s) (key : Text) :
    ((c.router.subscriptions key).filter (·.handler.locator? = some id)).map (·.handler) =
      if s.locator.disposed then []
      else if key = responseStartLine then [.answers id]
      else if key = notifyKey then [.announcements id] else [] := by
  by_cases hmem : id ∈ c.router.locators key
  · obtain ⟨sub, hsub, hmine⟩ := List.mem_filterMap.1 hmem
    obtain ⟨s', hs', hd, -⟩ := h.active_of_kept ((h.wired.belongs key sub hsub id).1 hmine)
    obtain rfl : s' = s := Option.some.inj (hs'.symm.trans hs)
    have hplaced := h.placed key sub hsub
    rw [h.filter_locator?_eq hsub hmine, hd]
    obtain ⟨hid, handler⟩ := sub
    cases handler with
    | answers place =>
      obtain rfl := hplaced _ rfl
      obtain rfl := Option.some.inj hmine
      rfl
    | announcements place =>
      obtain rfl := hplaced _ rfl
      obtain rfl := Option.some.inj hmine
      rfl
    | code handler => cases hmine
  · have hnil : (c.router.subscriptions key).filter (·.handler.locator? = some id) = [] :=
      List.filter_eq_nil_iff.2 fun sub hsub hmine =>
        hmem (List.mem_filterMap.2 ⟨sub, hsub, of_decide_eq_true hmine⟩)
    rw [hnil, List.map_nil]
    cases hd : s.locator.disposed with
    | true => rfl
    | false =>
      have hactive := (h.isActive_iff hs).2 hd
      rw [if_neg Bool.false_ne_true, if_neg, if_neg]
      · rintro rfl
        exact hmem ((h.mem_locators_iff (by simp)).2 ⟨s, hs, hactive⟩)
      · rintro rfl
        exact hmem ((h.mem_locators_iff (by simp)).2 ⟨s, hs, hactive⟩)

end InOrder

/-- A locator that is disposed stays so, and in its place, wherever civil moves lead. -/
theorem CivilLeads.disposed [UrlParser] {r r' : Logged ν} (h : CivilLeads r r') {id : LocatorId}
    {s : Slot ν} (hs : r.threads.state.slots[id]? = some s) (hd : s.locator.disposed = true) :
    ∃ s', r'.threads.state.slots[id]? = some s' ∧ s'.locator.disposed = true := by
  induction h with
  | refl => exact ⟨s, hs, hd⟩
  | tail _ hm ih =>
    obtain ⟨s', hs', hd'⟩ := ih
    cases hm with
    | perform hcivil =>
      exact ⟨_, ControlPoint.slots_perform hs' _, Locator.disposed_undergo hd' id _ _⟩
    | turn clock link => exact ⟨s', hs', hd'⟩
    | ask hreq => exact ⟨s', hs', hd'⟩

/-- A build fails for one of two reasons, the interval first, and then changes nothing. -/
theorem ControlPoint.build_error (c : ControlPoint ν) (config : LocatorConfig)
    (owner : Event → Script ν) :
    ((c.build config owner).2 = .error .zeroInterval ↔ config.interval.toNanos = 0) ∧
    ((c.build config owner).2 = .error .zeroMaxAge ↔
      config.interval.toNanos ≠ 0 ∧ config.defaultMaxAge.toNanos = 0) ∧
    ∀ error, (c.build config owner).2 = .error error → (c.build config owner).1 = c := by
  have hinterval := config.interval.isZero_iff
  have hmaxAge := config.defaultMaxAge.isZero_iff
  unfold build LocatorConfig.fault?
  cases hi : config.interval.isZero with
  | true => simp [← hinterval, hi]
  | false => cases hm : config.defaultMaxAge.isZero <;> simp [← hinterval, ← hmaxAge, hi, hm]

/-- Locators that share a router with each other and with other code, on any number of
threads, while other code takes out only numbers of its own. Every locator holds a timer
exactly while it is listening, and listens only if it searches and is not disposed; a
disposed one stays so. The handlers under each key of locators are those that other code
has added and not taken out, and one for every locator that was built and is neither
disposed nor dropped. A build fails if the interval is zero, or else if the default age
limit is, and then leaves everything as it was. -/
theorem locators_in_order [UrlParser] {notes : ν} {clock : Conditions} {link : Link}
    {attempts threads : Nat} {r : Logged ν}
    (h : CivilLeads (.fresh notes clock link attempts threads) r) :
    (∀ (id : LocatorId) s, r.threads.state.slots[id]? = some s →
      (s.locator.timer = true ↔ s.locator.listening = true) ∧
      (s.locator.listening = true →
        s.locator.config.activeSearch = true ∧ s.locator.disposed = false) ∧
      (s.locator.disposed = true → ∀ r', CivilLeads r r' →
        ∃ s', r'.threads.state.slots[id]? = some s' ∧ s'.locator.disposed = true)) ∧
    (∀ key ∈ [notifyKey, responseStartLine], r.threads.state.router.handlerCount key =
      (subscribed key r.log).length + r.threads.state.slots.countP Slot.isActive) ∧
    ∀ (config : LocatorConfig) (owner : Event → Script ν),
      let built := r.threads.state.build config owner
      (built.2 = .error .zeroInterval ↔ config.interval.toNanos = 0) ∧
      (built.2 = .error .zeroMaxAge ↔
        config.interval.toNanos ≠ 0 ∧ config.defaultMaxAge.toNanos = 0) ∧
      ∀ error, built.2 = .error error → built.1 = r.threads.state := by
  have horder := h.inOrder
  refine ⟨fun id s hs => ?_, fun key hkey => ?_, r.threads.state.build_error⟩
  · have hcoherent := horder.coherent id s hs
    exact ⟨by rw [hcoherent.timer_eq], fun hl => ⟨hcoherent.activeSearch hl, hcoherent.disposed hl⟩,
      fun hd r' hr' => CivilLeads.disposed hr' hs hd⟩
  · rw [Router.handlerCount_eq, horder.code, horder.length_locators hkey]

end

/-- Two locators are built and a third one is refused. Other code subscribes under one of
their keys; the first locator is started, the second disposed of, and the code takes
itself out. -/
def tenancy : Script Unit :=
  .build .forAll (fun _ => .done) fun _ =>
  .build { LocatorConfig.forAll with interval := .ofSecs 0 } (fun _ => .done) fun _ =>
  .build .forAll (fun _ => .done) fun _ =>
  .subscribe notifyKey (fun _ => .done) fun hid =>
  .operate 0 .start <|
  .operate 1 .dispose <|
  .unsubscribe notifyKey hid fun _ => .done

attribute [local instance] UrlParser.verbatim

/-- In the end only the first locator has a handler, and holds a timer. -/
theorem tenancy_in_order : ∃ r : Logged Unit, CivilLeads (.fresh () {} {} 0 1) r ∧
    r.log.length = 2 ∧
    (r.threads.state.slots.map fun s => (s.locator.listening, s.locator.disposed)) =
      [(true, false), (false, true)] ∧
    (∀ (id : LocatorId) s, r.threads.state.slots[id]? = some s →
      (s.locator.timer = true ↔ s.locator.listening = true)) ∧
    r.threads.state.router.handlerCount notifyKey =
      (subscribed notifyKey r.log).length + r.threads.state.slots.countP Slot.isActive ∧
    r.threads.state.router.handlerCount notifyKey = 1 := by
  have h₀ : CivilLeads (.fresh () {} {} 0 1) (.fresh () {} {} 0 1 : Logged Unit) := .refl
  have h₁ := h₀.tail (@CivilMove.ask _ _ _ _ _ [] [] _ (.script tenancy))
  have h₂ := h₁.tail (@CivilMove.perform _ _ _ _ _ [] [] _ _ trivial)
  have h₃ := h₂.tail (@CivilMove.perform _ _ _ _ _ [] [] _ _ trivial)
  have h₄ := h₃.tail (@CivilMove.perform _ _ _ _ _ [] [] _ _ trivial)
  have h₅ := h₄.tail (@CivilMove.perform _ _ _ _ _ [] [] _ _ trivial)
  have h₆ := h₅.tail (@CivilMove.perform _ _ _ _ _ [] [] _ _ trivial)
  have h₇ := h₆.tail (@CivilMove.perform _ _ _ _ _ [] [] _ _ trivial)
  have h₈ := h₇.tail (@CivilMove.perform _ _ _ _ _ [] [] _ _ trivial)
  have h₉ := h₈.tail (@CivilMove.perform _ _ _ _ _ [] [] _ _ trivial)
  have h₁₀ := h₉.tail
    (@CivilMove.perform _ _ _ _ _ [] [] _ _ ⟨_, _, List.mem_cons_self, rfl⟩)
  obtain ⟨hlocators, hcount, -⟩ := locators_in_order h₁₀
  exact ⟨_, h₁₀, rfl, by decide +kernel, fun id s hs => (hlocators id s hs).1,
    hcount notifyKey (by simp), by decide +kernel⟩

end Ssdp
