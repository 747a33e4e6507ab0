import Ssdp.Proofs.ControlPoint.Dispatch

/-!
# The roster of a router

The handlers subscribed under a key are those that were added under it and not taken out
of it since. This is said of the log as a whole, without going through it step by step,
and it holds in every run, whatever is called in the middle of what else.

* `remaining`: the handlers that were added under a key and not taken out of it later;
  `subscribed_eq_remaining`: this is what the log amounts to step by step;
* `Recorded.numbers`: numbers are given one after the other, from zero;
* `Recorded.tidy`: no key is kept without handlers, and no number stands twice;
* `filter_id_ne`: one handler goes with a number;
* `subscriptions_eq_remaining`: the invariant of all runs.
-/

namespace Ssdp

/-! ## What is left of a log -/

section

variable {H : Type}

namespace Registration

/-- The handler that is added, with its number, if the registration adds one. -/
def added? : Registration H → Option (Subscription H)
  | added _ s => some s
  | removed _ _ => none

/-- Whether the number is taken out of those of the key. -/
def removes (key : Text) (id : HandlerId) : Registration H → Bool
  | added _ _ => false
  | removed k i => k = key && i = id

end Registration

/-- All handlers that were added, in order. -/
def additions (log : List (Registration H)) : List (Subscription H) :=
  log.filterMap (·.added?)

/-- Whether a log takes the number out of those of the key. -/
def takesOut (key : Text) (id : HandlerId) (log : List (Registration H)) : Bool :=
  log.any (·.removes key id)

/-- The handlers that were added under a key and not taken out of it later, in the order
in which they were added. -/
def remaining (key : Text) : List (Registration H) → List (Subscription H)
  | [] => []
  | .added k s :: later =>
    if k = key ∧ takesOut key s.id later = false then s :: remaining key later
    else remaining key later
  | .removed _ _ :: later => remaining key later

@[simp] theorem takesOut_added (key : Text) (id : HandlerId) (k : Text) (s : Subscription H)
    (later : List (Registration H)) :
    takesOut key id (.added k s :: later) = takesOut key id later := rfl

@[simp] theorem takesOut_removed (key : Text) (id : HandlerId) (k : Text) (i : HandlerId)
    (later : List (Registration H)) :
    takesOut key id (.removed k i :: later) = ((k = key && i = id) || takesOut key id later) := rfl

/-- Of the subscriptions before it a log leaves those that it does not take out, and it
puts behind them what remains of those that it adds. -/
theorem subscribedAfter_eq (key : Text) (subs : List (Subscription H))
    (log : List (Registration H)) :
    subscribedAfter key subs log =
      subs.filter (fun s => !takesOut key s.id log) ++ remaining key log := by
  induction log generalizing subs with
  | nil => simp [subscribedAfter, takesOut, remaining]
  | cons registration later ih =>
    rw [subscribedAfter, List.foldl_cons]
    refine (ih _).trans ?_
    cases registration with
    | added k s =>
      by_cases hk : k = key
      · cases hlater : takesOut key s.id later <;>
          simp [Registration.apply, remaining, hk, hlater]
      · simp [Registration.apply, remaining, hk]
    | removed k id =>
      by_cases hk : k = key
      · simp only [Registration.apply, remaining, hk, if_true, List.filter_filter]
        congr 2
        funext s
        simp [eq_comm (a := id), Bool.and_comm]
      · simp [Registration.apply, remaining, hk]

theorem subscribed_eq_remaining (key : Text) (log : List (Registration H)) :
    subscribed key log = remaining key log :=
  subscribedAfter_eq key [] log

theorem additions_append (log more : List (Registration H)) :
    additions (log ++ more) = additions log ++ additions more :=
  List.filterMap_append

end

/-! ## Numbers in order -/

/-- The number as a word of 64 bits. -/
def HandlerId.word (id : HandlerId) : UInt64 :=
  .ofNat id.number

theorem HandlerId.toNat_word {id : HandlerId} (hfew : id.number < 2 ^ 64) :
    id.word.toNat = id.number :=
  UInt64.toNat_ofNat_of_lt' hfew

variable {ν : Type}

section

variable [UrlParser]

namespace ControlPoint

/-- A step gives the next numbers to the handlers that it adds, one after the other. -/
theorem numbers_registrations (c : ControlPoint ν) (task : Task ν) :
    let count := (additions (c.registrations task)).length
    (c.perform task).state.router.nextId = c.router.nextId + count ∧
      (additions (c.registrations task)).map (·.id.number) =
        List.range' c.router.nextId count := by
  have hnone (numbers : List (Text × HandlerId)) : additions (H := Subscriber ν)
      (numbers.map fun number => .removed number.1 number.2) = [] := by
    simp [additions, Registration.added?]
  cases task with
  | script caller body =>
    cases body with
    | read datagram next =>
      simp only [perform, performScript]
      split <;> exact ⟨rfl, rfl⟩
    | unsubscribe key id next => exact ⟨Router.nextId_unsubscribe c.router key id, rfl⟩
    | build config owner next =>
      simp only [perform, performScript, build, registrations]
      cases config.fault? <;> exact ⟨rfl, rfl⟩
    | _ => exact ⟨rfl, rfl⟩
  | take reply =>
    simp only [perform, take]
    split <;> exact ⟨rfl, rfl⟩
  | invoke sub e =>
    rw [perform_invoke]
    exact ⟨rfl, rfl⟩
  | operate id op =>
    simp only [perform, withLocator, registrations]
    cases c.locator? id with
    | none => exact ⟨rfl, rfl⟩
    | some l =>
      by_cases hdropped : l.dropped
      · simp [hdropped, additions]
      · by_cases hop : op = .dispose ∨ op = .drop
        · simp [hdropped, router_operate, hop, hnone, nextId_unsubscribeAll]
        · simp [hdropped, router_operate, hop, additions]
  | search id =>
    simp only [perform, withLocator]
    split <;> exact ⟨rfl, rfl⟩
  | emit id event =>
    simp only [perform]
    split
    · split <;> exact ⟨rfl, rfl⟩
    · exact ⟨rfl, rfl⟩
  | broadcast id =>
    simp only [perform, withLocator, broadcast]
    split
    · split <;> exact ⟨rfl, rfl⟩
    · exact ⟨rfl, rfl⟩
  | _ => exact ⟨rfl, rfl⟩

end ControlPoint

/-! ## Tidy routers -/

omit [UrlParser] in
/-- A router that is changed only by subscribing and unsubscribing stays tidy. -/
theorem Router.Tidy.unsubscribeAll {r : Router (Subscriber ν)} (h : r.Tidy)
    (numbers : List (Text × HandlerId)) : (ControlPoint.unsubscribeAll r numbers).Tidy := by
  induction numbers generalizing r with
  | nil => exact h
  | cons number rest ih => exact ih (h.unsubscribe number.1 number.2)

omit [UrlParser] in
theorem Rewires.tidy {c c' : ControlPoint ν} {task : Task ν} (h : Rewires c task c')
    (ht : c.router.Tidy) : c'.router.Tidy := by
  cases h with
  | same hr hk =>
    rw [hr]
    exact ht
  | subscribe caller key handler next hr hk =>
    rw [hr]
    exact ht.subscribe key _
  | unsubscribe caller key id next hr hk =>
    rw [hr]
    exact ht.unsubscribe key id
  | build caller config owner next hr hk =>
    rw [hr]
    exact (ht.subscribe _ _).subscribe _ _
  | retire id op hr hk =>
    rw [hr]
    exact ht.unsubscribeAll _

namespace Recorded

variable {log : List (Registration (Subscriber ν))} {r : Run ν}

theorem tidy (h : Recorded log r) : r.state.router.Tidy := by
  induction h with
  | fresh => exact Router.tidy_empty
  | perform _ ih => exact (ControlPoint.rewires_perform _ _).tidy ih
  | turn _ _ _ ih => exact ih
  | ask _ _ ih => exact ih

/-- The handlers that were added have got the numbers from zero on, in order. -/
theorem numbers (h : Recorded log r) :
    (additions log).map (·.id.number) = List.range r.state.router.nextId := by
  induction h with
  | fresh => rfl
  | @perform _ c _ task _ h ih =>
    obtain ⟨hnext, hnew⟩ := c.numbers_registrations task
    rw [additions_append, List.map_append, ih, hnew, hnext, List.range_add]
    congr 1
    exact List.range'_eq_map_range
  | turn _ _ _ ih => exact ih
  | ask _ _ ih => exact ih

theorem length_additions (h : Recorded log r) :
    (additions log).length = r.state.router.nextId := by
  simpa using congrArg List.length h.numbers

/-- As long as the numbers fit into 64 bits, the words are in order as they are. -/
theorem words_increasing (h : Recorded log r) (hfew : (additions log).length < 2 ^ 64) :
    ((additions log).map (·.id.word)).Pairwise (· < ·) := by
  have hnumbers : ((additions log).map (·.id.number)).Pairwise (· < ·) := by
    rw [h.numbers]
    exact List.pairwise_lt_range
  rw [List.pairwise_map] at hnumbers ⊢
  refine hnumbers.imp_of_mem fun {s s'} hs hs' hlt => ?_
  have hbound (s : Subscription (Subscriber ν)) (hs : s ∈ additions log) :
      s.id.number < 2 ^ 64 := by
    have hmem : s.id.number ∈ (additions log).map (·.id.number) := List.mem_map_of_mem hs
    rw [h.numbers, List.mem_range, ← h.length_additions] at hmem
    exact Nat.lt_trans hmem hfew
  rw [UInt64.lt_iff_toNat_lt, HandlerId.toNat_word (hbound s hs),
    HandlerId.toNat_word (hbound s' hs')]
  exact hlt

/-- As long as the numbers fit into 64 bits, no word stands twice in the whole table. -/
theorem words_nodup (h : Recorded log r) (hfew : (additions log).length < 2 ^ 64) :
    (r.state.router.ids.map (·.word)).Nodup := by
  have hbound (id : HandlerId) (hid : id ∈ r.state.router.ids) : id.number < 2 ^ 64 :=
    Nat.lt_trans (h.length_additions ▸ h.tidy.ids_lt id hid) hfew
  refine h.tidy.unique.map_on fun id hid id' hid' heq => ?_
  have hnumber : id.number = id'.number := by
    rw [← HandlerId.toNat_word (hbound id hid), ← HandlerId.toNat_word (hbound id' hid'), heq]
  cases id
  cases id'
  exact congrArg HandlerId.mk hnumber

end Recorded

/-! ## Taking a number out -/

omit [UrlParser] in
/-- Where no number stands twice, one handler goes with a number, and the others stay in
order. -/
theorem filter_id_ne {H : Type} {subs : List (Subscription H)} (hd : (subs.map (·.id)).Nodup)
    {s : Subscription H} (hs : s ∈ subs) :
    ∃ before after, subs = before ++ s :: after ∧
      subs.filter (·.id ≠ s.id) = before ++ after := by
  obtain ⟨before, after, rfl⟩ := List.append_of_mem hs
  rw [List.map_append, List.map_cons, List.nodup_middle, List.nodup_cons, List.mem_append,
    not_or] at hd
  obtain ⟨⟨hbefore, hafter⟩, -⟩ := hd
  have hkeep {others : List (Subscription H)} (h : s.id ∉ others.map (·.id)) :
      others.filter (·.id ≠ s.id) = others :=
    List.filter_eq_self.2 fun s' hs' => by
      simpa using fun heq : s'.id = s.id => h (heq ▸ List.mem_map_of_mem hs')
  refine ⟨before, after, rfl, ?_⟩
  rw [List.filter_append, List.filter_cons_of_neg (by simp), hkeep hbefore, hkeep hafter]

/-- The registrations of a run decide what is subscribed. After a run with the
registrations of a log, of which less than 2⁶⁴ add a handler:

* under each key those handlers are subscribed that were added under it and not taken out
  of it later, in the order in which they were added, and so many are counted;
* the numbers given are increasing as words of 64 bits, no number stands twice in the
  whole table, and no key is kept twice or without handlers;
* a number that is subscribed under a key can be taken out of it. This is reported, one
  handler goes with it, and all others stay, under this key and the others;
* it is reported if a number is not subscribed under a key. Nothing changes then, and
  nothing would if the number were taken out without asking. -/
theorem subscriptions_eq_remaining {log : List (Registration (Subscriber ν))} {r : Run ν}
    (h : Recorded log r) (hfew : (additions log).length < 2 ^ 64) :
    let router := r.state.router
    (∀ key, router.subscriptions key = remaining key log ∧
      router.handlerCount key = (remaining key log).length) ∧
    ((additions log).map (·.id.word)).Pairwise (· < ·) ∧
    (router.ids.map (·.word)).Nodup ∧
    (router.topics.map (·.key)).Nodup ∧
    (∀ topic ∈ router.topics, topic.subscriptions ≠ []) ∧
    ∀ key id,
      ((router.unsubscribe key id).2 = true ↔ ∃ s ∈ remaining key log, s.id = id) ∧
      (∀ s ∈ remaining key log, s.id = id → ∃ before after,
        remaining key log = before ++ s :: after ∧
        (router.unsubscribe key id).1.subscriptions key = before ++ after ∧
        (∀ k, k ≠ key →
          (router.unsubscribe key id).1.subscriptions k = router.subscriptions k) ∧
        (router.unsubscribe key id).1.nextId = router.nextId) ∧
      ((router.unsubscribe key id).2 = false →
        (router.unsubscribe key id).1 = router ∧
          Router.takeOut key id router.topics = router.topics) := by
  intro router
  have hsound : router.Sound := h.reached.wired.sound
  have hsubs (key : Text) : router.subscriptions key = remaining key log :=
    (h.subscriptions key).trans (subscribed_eq_remaining key log)
  have htold (key : Text) (id : HandlerId) :
      (router.unsubscribe key id).2 = router.isSubscribed key id :=
    congrArg Prod.snd (h.tidy.unsubscribe_eq key id)
  refine ⟨fun key => ⟨hsubs key, congrArg List.length (hsubs key)⟩, h.words_increasing hfew,
    h.words_nodup hfew, hsound.distinct, h.tidy.filled, fun key id => ⟨?_, ?_, ?_⟩⟩
  · rw [htold, Router.isSubscribed_iff, hsubs]
  · rintro s hs rfl
    rw [← hsubs] at hs ⊢
    obtain ⟨before, after, hparts, hrest⟩ := filter_id_ne (h.reached.distinct key) hs
    refine ⟨before, after, hparts, ?_, fun k hk => ?_, Router.nextId_unsubscribe _ _ _⟩
    · rw [hsound.subscriptions_unsubscribe, if_pos rfl, hrest]
    · rw [hsound.subscriptions_unsubscribe, if_neg hk]
  · intro hnot
    rw [htold] at hnot
    refine ⟨by rw [Router.unsubscribe, hnot]; rfl, Router.takeOut_eq_self h.tidy.filled ?_⟩
    rintro s hs rfl
    rw [Router.isSubscribed_iff.2 ⟨s, hs, rfl⟩] at hnot
    cases hnot

end

attribute [local instance] UrlParser.verbatim

/-- In the upheaval the second handler is taken out in the midst of a dispatch: it cannot
be taken out again, nor the first one under another key, but the first one under its own. -/
theorem upheaval_subscriptions :
    let router := (upheaval.after 30).state.router
    ∃ log, Recorded log (upheaval.after 30) ∧ (additions log).length = 3 ∧
      (remaining notifyKey log).map (·.id.number) = [0, 2] ∧
      (router.unsubscribe notifyKey ⟨1⟩).2 = false ∧
      (router.unsubscribe notifyKey ⟨1⟩).1 = router ∧
      (router.unsubscribe responseStartLine ⟨0⟩).2 = false ∧
      (router.unsubscribe responseStartLine ⟨0⟩).1 = router ∧
      (router.unsubscribe notifyKey ⟨0⟩).2 = true ∧
      ((router.unsubscribe notifyKey ⟨0⟩).1.subscriptions notifyKey).map (·.id.number) = [2] := by
  intro router
  have hreached : Reached (fun _ => True) upheaval :=
    .move (.fresh 0 {} {} 0) trivial (.ask _ _ (.script _))
  obtain ⟨log, hlog⟩ := (hreached.leads (leads_after upheaval 30)).recorded
  have hlength : (additions log).length = 3 := by
    rw [hlog.length_additions]
    decide +kernel
  obtain ⟨hsubs, -, -, -, -, hout⟩ :=
    subscriptions_eq_remaining hlog (by rw [hlength]; decide)
  have hsecond : ((upheaval.after 30).state.router.unsubscribe notifyKey ⟨1⟩).2 = false := by
    decide +kernel
  have hother :
      ((upheaval.after 30).state.router.unsubscribe responseStartLine ⟨0⟩).2 = false := by
    decide +kernel
  refine ⟨log, hlog, hlength, ?_, hsecond, ((hout _ _).2.2 hsecond).1, hother,
    ((hout _ _).2.2 hother).1, by decide +kernel, by decide +kernel⟩
  rw [← (hsubs notifyKey).1]
  decide +kernel

end Ssdp
