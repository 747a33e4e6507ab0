import Ssdp.ControlPoint.Step
import Ssdp.Proofs.Cache
import Ssdp.Proofs.Cache.Order

/-!
# One locator at a time

What an operation does to a locator by itself, apart from the control point it
belongs to, and the events its owner is to be told for it. Devices that leave or expire
together are lost in the order in which the cache is gone through then:

* `Locator.heed`, `Locator.sweep`: what a verdict and a sweep do;
* `Locator.react`: what any operation does, and `Locator.built`: where it starts;
* `Locator.react_of_disposed`: a disposed locator does not react;
* `Locator.sound_react`, `Locator.sound_sweep`: the cache stays sound;
* `Locator.Orderly`: a disposed locator listens to nothing and keeps no number.
-/

namespace Ssdp.Locator

/-- The locator without the devices that are taken out of its cache, and their losses. -/
def lose (l : Locator) (order : VisitOrder) (taken : Cache × List Device) : Locator × List Event :=
  ({ l with cache := taken.1 }, (order.arrange taken.2).map .lost)

/-- The locator after a verdict on a message, and the events that follow. -/
def heed (l : Locator) (order : VisitOrder) : Verdict → Locator × List Event
  | .ignore => (l, [])
  | .refresh d => ((l.refresh d).1, [(l.refresh d).2])
  | .farewell usn => l.lose order (l.cache.remove usn)

/-- The locator without the devices that have expired, and their losses. -/
def sweep (l : Locator) (clock : Conditions) : Locator × List Event :=
  l.lose clock.order (l.cache.sweepAt clock.sweep)

/-- The locator once it is disposed of. -/
def retire (l : Locator) : Locator :=
  { l with disposed := true, listening := false, timer := false, subscriptions := [] }

/-- The locator after an operation at a given time, and the events that follow.
Whether announcements are traced makes no difference to either. -/
def react [UrlParser] (l : Locator) (clock : Conditions) : Operation → Locator × List Event
  | .start =>
    (if !l.config.activeSearch || l.disposed then l
      else { l with listening := true, timer := true }, [])
  | .stop => ({ l with listening := false, timer := false }, [])
  | .dispose => (l.retire, [])
  | .drop => ({ l.retire with dropped := true }, [])
  | .searchNow | .tick => (l, [])
  | .answer e => l.heed clock.order (l.judgeAnswer clock.stamp e).1
  | .announcement e => l.heed clock.order (l.judgeAnnouncement false clock.stamp e).1

/-- A locator that has just been built, with the numbers of its subscriptions: this one
and the next. -/
def built (config : LocatorConfig) (n : Nat) : Locator where
  config
  subscriptions := [(responseStartLine, ⟨n⟩), (notifyKey, ⟨n + 1⟩)]

theorem judgeDevice_fst [UrlParser] (l : Locator) (typeHeader : Text)
    (traces traces' : Device → List LogRecord) (now : Instant) (e : Received) :
    (l.judgeDevice typeHeader traces now e).1 = (l.judgeDevice typeHeader traces' now e).1 := by
  unfold judgeDevice
  split
  · rfl
  · split <;> rfl

theorem judgeFarewell_fst (l : Locator) (tracing : Bool) (e : Received) :
    (l.judgeFarewell tracing e).1 = (l.judgeFarewell false e).1 := by
  simp only [judgeFarewell]
  cases e.message.headers.getNonBlank? "NT".toList with
  | none => rfl
  | some notificationType =>
    cases e.message.headers.getNonBlank? "USN".toList with
    | none => rfl
    | some usn => by_cases hw : l.wants (Text.trim notificationType) <;> simp [hw]

theorem judgeFarewell_ne_refresh (l : Locator) (tracing : Bool) (e : Received) (d : Device) :
    (l.judgeFarewell tracing e).1 ≠ .refresh d := by
  simp only [judgeFarewell]
  split
  · split <;> exact Verdict.noConfusion
  · exact Verdict.noConfusion

/-- Tracing does not change what an announcement amounts to. -/
theorem judgeAnnouncement_fst [UrlParser] (l : Locator) (tracing : Bool) (now : Instant)
    (e : Received) :
    (l.judgeAnnouncement tracing now e).1 = (l.judgeAnnouncement false now e).1 := by
  unfold judgeAnnouncement
  split
  · rfl
  · split
    · rfl
    · split
      · rfl
      · exact judgeFarewell_fst l tracing e
      · exact judgeDevice_fst l _ _ _ now e

/-- Of a moment an operation sees the stamp and the order, and a sweep its own reading and
the order. -/
theorem react_congr [UrlParser] {clock clock' : Conditions} (hstamp : clock.stamp = clock'.stamp)
    (horder : clock.order = clock'.order) (l : Locator) (op : Operation) :
    l.react clock op = l.react clock' op := by
  cases op <;> simp only [react, hstamp, horder]

theorem sweep_congr {clock clock' : Conditions} (hsweep : clock.sweep = clock'.sweep)
    (horder : clock.order = clock'.order) (l : Locator) : l.sweep clock = l.sweep clock' := by
  simp only [sweep, hsweep, horder]

/-! ## Disposed locators -/

theorem judgeAnswer_of_disposed [UrlParser] {l : Locator} (h : l.disposed = true)
    (now : Instant) (e : Received) : l.judgeAnswer now e = (.ignore, []) := by
  simp [judgeAnswer, h]

theorem judgeAnnouncement_of_disposed [UrlParser] {l : Locator} (h : l.disposed = true)
    (tracing : Bool) (now : Instant) (e : Received) :
    l.judgeAnnouncement tracing now e = (.ignore, []) := by
  simp [judgeAnnouncement, h]

/-- A disposed locator leads to no event, and keeps its cache, whatever is asked
of it. -/
theorem react_of_disposed [UrlParser] {l : Locator} (h : l.disposed = true) (clock : Conditions)
    (op : Operation) : (l.react clock op).1.cache = l.cache ∧ (l.react clock op).2 = [] := by
  cases op <;> simp [react, h, retire, heed, judgeAnswer_of_disposed, judgeAnnouncement_of_disposed]

theorem refresh_fst (l : Locator) (d : Device) :
    (l.refresh d).1 = { l with cache := (l.cache.replace d).1 } := by
  unfold refresh
  split <;> rename_i he <;> rw [he]

/-- A verdict changes nothing of a locator but its cache. -/
theorem exists_heed (l : Locator) (order : VisitOrder) (v : Verdict) :
    ∃ cache, (l.heed order v).1 = { l with cache } := by
  cases v with
  | ignore => exact ⟨l.cache, rfl⟩
  | refresh d => exact ⟨_, l.refresh_fst d⟩
  | farewell usn => exact ⟨_, rfl⟩

theorem disposed_heed (l : Locator) (order : VisitOrder) (v : Verdict) :
    (l.heed order v).1.disposed = l.disposed := by
  obtain ⟨cache, heq⟩ := l.exists_heed order v
  rw [heq]

theorem config_heed (l : Locator) (order : VisitOrder) (v : Verdict) :
    (l.heed order v).1.config = l.config := by
  obtain ⟨cache, heq⟩ := l.exists_heed order v
  rw [heq]

/-- A locator that is disposed stays so. -/
theorem disposed_react [UrlParser] {l : Locator} (h : l.disposed = true) (clock : Conditions)
    (op : Operation) : (l.react clock op).1.disposed = true := by
  cases op with
  | start => simp [react, h]
  | answer e => exact (l.disposed_heed _ _).trans h
  | announcement e => exact (l.disposed_heed _ _).trans h
  | dispose => rfl
  | drop => rfl
  | _ => exact h

/-- An operation after which a locator is disposed leads to no event. -/
theorem react_snd_of_disposed [UrlParser] {l : Locator} {clock : Conditions} {op : Operation}
    (h : (l.react clock op).1.disposed = true) : (l.react clock op).2 = [] := by
  have heeded {v : Verdict} (hv : (l.heed clock.order v).1.disposed = true) : l.disposed = true :=
    l.disposed_heed clock.order v ▸ hv
  cases op with
  | answer e => exact (react_of_disposed (heeded h) clock (.answer e)).2
  | announcement e => exact (react_of_disposed (heeded h) clock (.announcement e)).2
  | _ => rfl

/-! ## Sound caches -/

theorem sound_heed {l : Locator} (h : l.cache.Sound) (order : VisitOrder) (v : Verdict) :
    (l.heed order v).1.cache.Sound := by
  cases v with
  | ignore => exact h
  | refresh d =>
    rw [heed, refresh_fst]
    exact h.replace d
  | farewell usn => exact h.takeOut _

theorem sound_sweep {l : Locator} (h : l.cache.Sound) (clock : Conditions) :
    (l.sweep clock).1.cache.Sound :=
  h.takeOut _

theorem sound_react [UrlParser] {l : Locator} (h : l.cache.Sound) (clock : Conditions)
    (op : Operation) : (l.react clock op).1.cache.Sound := by
  cases op with
  | start =>
    show (if _ then l else { l with listening := true, timer := true }).cache.Sound
    split <;> exact h
  | answer e => exact sound_heed h _ _
  | announcement e => exact sound_heed h _ _
  | _ => exact h

/-! ## Orderly locators -/

/-- A disposed locator neither listens nor holds a timer or subscriptions, and one
that is dropped is disposed. -/
structure Orderly (l : Locator) : Prop where
  retired : l.disposed = true → l.retire = l
  disposed : l.dropped = true → l.disposed = true

theorem orderly_built (config : LocatorConfig) (n : Nat) : (built config n).Orderly :=
  ⟨nofun, nofun⟩

theorem Orderly.with_cache {l : Locator} (h : l.Orderly) (cache : Cache) :
    Orderly { l with cache } := by
  refine ⟨fun hd => ?_, h.disposed⟩
  have hretired : l.retire = l := h.retired hd
  exact congrArg (fun l => { l with cache }) hretired

theorem Orderly.heed {l : Locator} (h : l.Orderly) (order : VisitOrder) (v : Verdict) :
    (l.heed order v).1.Orderly := by
  obtain ⟨cache, heq⟩ := l.exists_heed order v
  rw [heq]
  exact h.with_cache cache

theorem Orderly.react [UrlParser] {l : Locator} (h : l.Orderly) (clock : Conditions)
    (op : Operation) : (l.react clock op).1.Orderly := by
  cases op with
  | start =>
    show Orderly (if _ then l else { l with listening := true, timer := true })
    split
    · exact h
    · rename_i hcond
      simp only [Bool.or_eq_true, not_or] at hcond
      exact ⟨fun hd => absurd hd hcond.2, h.disposed⟩
  | stop =>
    refine ⟨fun hd => ?_, h.disposed⟩
    exact congrArg (fun l => { l with listening := false, timer := false }) (h.retired hd)
  | dispose => exact ⟨fun _ => rfl, fun _ => rfl⟩
  | drop => exact ⟨fun _ => rfl, fun _ => rfl⟩
  | searchNow => exact h
  | tick => exact h
  | answer e => exact h.heed _ _
  | announcement e => exact h.heed _ _

end Ssdp.Locator
