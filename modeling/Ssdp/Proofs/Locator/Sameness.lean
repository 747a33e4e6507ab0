import Mathlib.Data.Option.Defs
import Ssdp.Proofs.Locator.Solo
import Ssdp.Proofs.Message.Equality

/-!
# Locators and equal messages

A locator reads headers by name only, and keeps a copy of them with each device. So messages
that are equal are the same to it: what it makes of the one is what it makes of the other,
but for the order and the spelling of the headers in that copy.

* `Received.Same`, `Received.same_of_agree`: messages that are heard alike;
* `Device.Same`, `Cache.Same`, `Locator.Same`, `Event.Same`, `Verdict.Same`: the same but for
  the copies of headers;
* `Received.Same.ofReceived`, `Received.Same.judgeAnswer`, `Received.Same.judgeAnnouncement`:
  the same device and the same verdict;
* `Locator.Same.heed`, `Locator.Same.meet`, `Locator.Same.hear`: what follows from it.
-/

namespace Ssdp

/-! ## The same but for the copies of headers -/

/-- The same start line, the same headers in any order and spelling, from the same sender to
the same local address. -/
structure Received.Same (e e' : Received) : Prop where
  startLine : e.message.startLine = e'.message.startLine
  headers : e.message.headers.Same e'.message.headers
  get? : ∀ name, e.message.headers.get? name = e'.message.headers.get? name
  sender : e.sender = e'.sender
  localAddress : e.localAddress = e'.localAddress

/-- The same device, but for the order and the spelling of the headers kept with it. -/
def Device.Same (d d' : Device) : Prop :=
  ∃ headers, d.headers.Same headers ∧ d' = { d with headers }

/-- The same devices under the same keys, in the same order. -/
def Cache.Same (c c' : Cache) : Prop :=
  List.Forall₂ (fun e e' => e.1 = e'.1 ∧ e.2.Same e'.2) c.entries c'.entries

/-- The same options and flags, and the same devices. -/
def Locator.Same (l l' : Locator) : Prop :=
  ∃ cache, l.cache.Same cache ∧ l' = { l with cache }

/-- An event of the same kind, about the same devices. -/
inductive Event.Same : Event → Event → Prop
  | found {d d' : Device} (h : d.Same d') : Same (.found d) (.found d')
  | updated {old old' new new' : Device} (ho : old.Same old') (hn : new.Same new') :
    Same (.updated old new) (.updated old' new')
  | lost {d d' : Device} (h : d.Same d') : Same (.lost d) (.lost d')

/-- The same verdict, about the same device. -/
inductive Verdict.Same : Verdict → Verdict → Prop
  | ignore : Same .ignore .ignore
  | refresh {d d' : Device} (h : d.Same d') : Same (.refresh d) (.refresh d')
  | farewell (usn : Text) : Same (.farewell usn) (.farewell usn)

/-- The same operation, or one on messages that are the same. -/
inductive Operation.Same : Operation → Operation → Prop
  | refl (op : Operation) : Same op op
  | answer {e e' : Received} (h : e.Same e') : Same (.answer e) (.answer e')
  | announcement {e e' : Received} (h : e.Same e') : Same (.announcement e) (.announcement e')

theorem Device.Same.refl (d : Device) : d.Same d := ⟨_, .refl _, rfl⟩

theorem Cache.Same.refl (c : Cache) : c.Same c :=
  List.forall₂_same.2 fun e _ => ⟨rfl, .refl e.2⟩

theorem Locator.Same.refl (l : Locator) : l.Same l := ⟨_, .refl _, rfl⟩

theorem Verdict.Same.refl : ∀ v : Verdict, v.Same v
  | .ignore => .ignore
  | .refresh d => .refresh (.refl d)
  | .farewell usn => .farewell usn

theorem Received.Same.refl (e : Received) : e.Same e := ⟨rfl, .refl _, fun _ => rfl, rfl, rfl⟩

/-- Messages that were read or put together, and are equal, are the same to whoever hears
them from the same sender at the same local address. -/
theorem Received.same_of_agree {m m' : Message} (hm : m.Made) (hm' : m'.Made)
    (h : m.agree m' = true) (sender : SocketAddress) (localAddress : Address) :
    Received.Same ⟨m, sender, localAddress⟩ ⟨m', sender, localAddress⟩ := by
  obtain ⟨hstart, hagree⟩ := Message.agree_iff.1 h
  have hsame := (hm.sound.agree_iff_same hm'.sound).1 hagree
  exact ⟨hstart, hsame, (hm.sound.same_iff_get? hm'.sound).1 hsame, rfl, rfl⟩

/-! ## What messages tell -/

namespace Received.Same

variable {e e' : Received}

theorem getNonBlank? (h : e.Same e') (name : Text) :
    e.message.headers.getNonBlank? name = e'.message.headers.getNonBlank? name := by
  rw [Headers.getNonBlank?, h.get?, Headers.getNonBlank?]

theorem routeKey (h : e.Same e') : e.routeKey = e'.routeKey :=
  congrArg Ssdp.routeKey h.startLine

/-- The same device is told of, with the other copy of the headers, or none for the same
reason. -/
theorem ofReceived [UrlParser] (h : e.Same e') (typeHeader : Text) (defaultMaxAge : Duration)
    (now : Instant) : Device.ofReceived typeHeader defaultMaxAge now e' =
      (Device.ofReceived typeHeader defaultMaxAge now e).map
        fun d => { d with headers := e'.message.headers } := by
  have hage : Device.ageLimit e'.message.headers defaultMaxAge =
      Device.ageLimit e.message.headers defaultMaxAge := by
    rw [Device.ageLimit, Device.ageLimit, h.get?]
  simp only [Device.ofReceived, h.getNonBlank?, ← h.sender, ← h.localAddress, hage]
  cases e'.message.headers.getNonBlank? "LOCATION".toList with
  | none => rfl
  | some location =>
    cases hurl : UrlParser.read? (Text.trim location) with
    | error error =>
      simp only [hurl]
      rfl
    | ok url =>
      simp only [hurl]
      cases e'.message.headers.getNonBlank? typeHeader with
      | none => rfl
      | some notificationType => cases e'.message.headers.getNonBlank? "USN".toList <;> rfl

/-- The device that is told of keeps the headers of its message. -/
theorem headers_of_ofReceived [UrlParser] {typeHeader : Text} {defaultMaxAge : Duration}
    {now : Instant} {d : Device} (h : Device.ofReceived typeHeader defaultMaxAge now e = .ok d) :
    d.headers = e.message.headers := by
  obtain ⟨_, _, _, _, -, -, -, -, rfl⟩ := Device.ofReceived_eq_ok_iff.1 h
  rfl

variable (l : Locator) (now : Instant)

theorem judgeDevice [UrlParser] (h : e.Same e') (typeHeader : Text)
    {traces traces' : Device → List LogRecord}
    (htraces : ∀ d d' : Device, d.Same d' → traces d = traces' d') :
    (l.judgeDevice typeHeader traces now e).1.Same (l.judgeDevice typeHeader traces' now e').1 ∧
      (l.judgeDevice typeHeader traces now e).2 =
        (l.judgeDevice typeHeader traces' now e').2 := by
  simp only [Locator.judgeDevice, h.ofReceived typeHeader l.config.defaultMaxAge now, h.sender]
  cases hd : Device.ofReceived typeHeader l.config.defaultMaxAge now e with
  | error fault => exact ⟨.ignore, rfl⟩
  | ok d =>
    have hsame : d.Same { d with headers := e'.message.headers } :=
      ⟨_, headers_of_ofReceived hd ▸ h.headers, rfl⟩
    simp only [Except.map]
    split
    · exact ⟨.refresh hsame, htraces _ _ hsame⟩
    · exact ⟨.ignore, rfl⟩

/-- The same verdict on the answer to a search, with the same records. -/
theorem judgeAnswer [UrlParser] (h : e.Same e') :
    (l.judgeAnswer now e).1.Same (l.judgeAnswer now e').1 ∧
      (l.judgeAnswer now e).2 = (l.judgeAnswer now e').2 := by
  unfold Locator.judgeAnswer
  split
  · exact ⟨.ignore, rfl⟩
  · exact h.judgeDevice l now _ fun _ _ _ => rfl

theorem judgeFarewell (h : e.Same e') (tracing : Bool) :
    l.judgeFarewell tracing e = l.judgeFarewell tracing e' := by
  simp only [Locator.judgeFarewell, h.getNonBlank?, h.sender, h.localAddress]

/-- The same verdict on an announcement, with the same records. -/
theorem judgeAnnouncement [UrlParser] (h : e.Same e') (tracing : Bool) :
    (l.judgeAnnouncement tracing now e).1.Same (l.judgeAnnouncement tracing now e').1 ∧
      (l.judgeAnnouncement tracing now e).2 = (l.judgeAnnouncement tracing now e').2 := by
  have hlocation : ∀ d d' : Device, d.Same d' → d.location = d'.location := by
    rintro d _ ⟨headers, -, rfl⟩
    rfl
  unfold Locator.judgeAnnouncement
  rw [h.get?, h.sender]
  split
  · exact ⟨.ignore, rfl⟩
  split
  · exact ⟨.ignore, rfl⟩
  split
  · exact ⟨.ignore, rfl⟩
  · rw [h.judgeFarewell l tracing]
    exact ⟨.refl _, rfl⟩
  · refine h.judgeDevice l now _ fun d d' hd => ?_
    rw [hlocation d d' hd, h.localAddress]

end Received.Same

/-! ## What becomes of the cache -/

section

variable {c c' : Cache} {d d' : Device}

theorem Device.Same.key (h : d.Same d') : d.key = d'.key := by
  obtain ⟨headers, -, rfl⟩ := h
  rfl

theorem Device.Same.isExpiredAt (h : d.Same d') (now : Instant) :
    d.isExpiredAt now = d'.isExpiredAt now := by
  obtain ⟨headers, -, rfl⟩ := h
  rfl

theorem Cache.forall₂_place {es es' : List (DeviceKey × Device)} (key : DeviceKey)
    (hes : List.Forall₂ (fun e e' => e.1 = e'.1 ∧ e.2.Same e'.2) es es') (hd : d.Same d') :
    List.Forall₂ (fun e e' => e.1 = e'.1 ∧ e.2.Same e'.2) (place key d es).1 (place key d' es').1 ∧
      Option.Rel Device.Same (place key d es).2 (place key d' es').2 := by
  induction hes with
  | nil => exact ⟨.cons ⟨rfl, hd⟩ .nil, .none⟩
  | @cons e e' rest rest' he hrest ih =>
    by_cases hkey : e.1 = key
    · have hkey' : e'.1 = key := he.1 ▸ hkey
      simp only [place, if_pos hkey, if_pos hkey']
      exact ⟨.cons ⟨rfl, hd⟩ hrest, .some he.2⟩
    · have hkey' : e'.1 ≠ key := he.1 ▸ hkey
      simp only [place, if_neg hkey, if_neg hkey']
      exact ⟨.cons he ih.1, ih.2⟩

/-- A device that is the same takes the place of one that is the same. -/
theorem Cache.Same.replace (hc : c.Same c') (hd : d.Same d') :
    (c.replace d).1.Same (c'.replace d').1 ∧
      Option.Rel Device.Same (c.replace d).2 (c'.replace d').2 := by
  simp only [Cache.replace, ← hd.key]
  exact forall₂_place d.key hc hd

/-- The same devices are taken out, and the same ones stay, if it is not their headers that
decide. -/
theorem Cache.Same.takeOut (hc : c.Same c') {p : DeviceKey × Device → Bool}
    (hp : ∀ key (d d' : Device), d.Same d' → p (key, d) = p (key, d')) :
    (c.takeOut p).1.Same (c'.takeOut p).1 ∧
      List.Forall₂ Device.Same (c.takeOut p).2 (c'.takeOut p).2 := by
  have hentry {e e' : DeviceKey × Device} (he : e.1 = e'.1 ∧ e.2.Same e'.2) : p e = p e' := by
    obtain ⟨key, d⟩ := e
    obtain ⟨key', d'⟩ := e'
    obtain ⟨rfl, hd⟩ := he
    exact hp key d d' hd
  refine ⟨List.rel_filter (fun _ _ he => by simp [hentry he]) hc, ?_⟩
  exact List.rel_map (fun _ _ he => he.2) (List.rel_filter (fun _ _ he => by simp [hentry he]) hc)

end

namespace Locator.Same

variable {l l' : Locator} {e e' : Received} {op op' : Operation}

theorem with_cache (h : l.Same l') {cache cache' : Cache} (hc : cache.Same cache') :
    Locator.Same { l with cache } { l' with cache := cache' } := by
  obtain ⟨_, -, rfl⟩ := h
  exact ⟨_, hc, rfl⟩

theorem with_listening (h : l.Same l') (listening timer : Bool) :
    Locator.Same { l with listening, timer } { l' with listening, timer } := by
  obtain ⟨cache, hc, rfl⟩ := h
  exact ⟨cache, hc, rfl⟩

theorem cache (h : l.Same l') : l.cache.Same l'.cache := by
  obtain ⟨_, hc, rfl⟩ := h
  exact hc

/-- Taking in the same device leads to the same event. -/
theorem refresh (h : l.Same l') {d d' : Device} (hd : d.Same d') :
    (l.refresh d).1.Same (l'.refresh d').1 ∧ (l.refresh d).2.Same (l'.refresh d').2 := by
  have hreplace := h.cache.replace hd
  unfold Locator.refresh
  generalize l.cache.replace d = r, l'.cache.replace d' = r' at hreplace ⊢
  obtain ⟨cache, old⟩ := r
  obtain ⟨cache', old'⟩ := r'
  obtain ⟨hcache, hold⟩ := hreplace
  cases hold with
  | none => exact ⟨h.with_cache hcache, .found hd⟩
  | some hold => exact ⟨h.with_cache hcache, .updated hold hd⟩

/-- The same devices leave. -/
theorem remove (h : l.Same l') (usn : Text) :
    (l.cache.remove usn).1.Same (l'.cache.remove usn).1 ∧
      List.Forall₂ Device.Same (l.cache.remove usn).2 (l'.cache.remove usn).2 :=
  h.cache.takeOut fun _ _ _ _ => rfl

/-- The same devices expire. -/
theorem sweepAt (h : l.Same l') (now : Instant) :
    (l.cache.sweepAt now).1.Same (l'.cache.sweepAt now).1 ∧
      List.Forall₂ Device.Same (l.cache.sweepAt now).2 (l'.cache.sweepAt now).2 :=
  h.cache.takeOut fun _ _ _ hd => hd.isExpiredAt now

/-- Losing the same devices, in the same order, leads to the same. -/
theorem lose (h : l.Same l') (order : VisitOrder) {taken taken' : Cache × List Device}
    (hcache : taken.1.Same taken'.1) (hlost : List.Forall₂ Device.Same taken.2 taken'.2) :
    (l.lose order taken).1.Same (l'.lose order taken').1 ∧
      List.Forall₂ Event.Same (l.lose order taken).2 (l'.lose order taken').2 :=
  ⟨h.with_cache hcache, List.rel_map (fun _ _ => .lost) (order.forall₂_arrange hlost)⟩

/-- The same verdict leads to the same. -/
theorem heed (h : l.Same l') (order : VisitOrder) {v v' : Verdict} (hv : v.Same v') :
    (l.heed order v).1.Same (l'.heed order v').1 ∧
      List.Forall₂ Event.Same (l.heed order v).2 (l'.heed order v').2 := by
  cases hv with
  | ignore => exact ⟨h, .nil⟩
  | refresh hd =>
    obtain ⟨hlocator, hevent⟩ := h.refresh hd
    exact ⟨hlocator, .cons hevent .nil⟩
  | farewell usn =>
    obtain ⟨hcache, hlost⟩ := h.remove usn
    exact h.lose order hcache hlost

/-- Locators that are the same judge alike. -/
theorem judgeAnswer [UrlParser] (h : l.Same l') (now : Instant) (he : e.Same e') :
    (l.judgeAnswer now e).1.Same (l'.judgeAnswer now e').1 ∧
      (l.judgeAnswer now e).2 = (l'.judgeAnswer now e').2 := by
  obtain ⟨_, -, rfl⟩ := h
  exact he.judgeAnswer l now

theorem judgeAnnouncement [UrlParser] (h : l.Same l') (now : Instant) (he : e.Same e')
    (tracing : Bool) :
    (l.judgeAnnouncement tracing now e).1.Same (l'.judgeAnnouncement tracing now e').1 ∧
      (l.judgeAnnouncement tracing now e).2 = (l'.judgeAnnouncement tracing now e').2 := by
  obtain ⟨_, -, rfl⟩ := h
  exact he.judgeAnnouncement l now tracing

theorem retire (h : l.Same l') : l.retire.Same l'.retire := by
  obtain ⟨cache, hc, rfl⟩ := h
  exact ⟨cache, hc, rfl⟩

/-- The same operation leads to the same. -/
theorem react [UrlParser] (h : l.Same l') (clock : Conditions) (hop : op.Same op') :
    (l.react clock op).1.Same (l'.react clock op').1 ∧
      List.Forall₂ Event.Same (l.react clock op).2 (l'.react clock op').2 := by
  cases hop with
  | answer he => exact h.heed _ (h.judgeAnswer clock.stamp he).1
  | announcement he => exact h.heed _ (h.judgeAnnouncement clock.stamp he false).1
  | refl =>
    cases op with
    | answer e => exact h.heed _ (h.judgeAnswer clock.stamp (.refl e)).1
    | announcement e => exact h.heed _ (h.judgeAnnouncement clock.stamp (.refl e) false).1
    | start =>
      obtain ⟨cache, hc, rfl⟩ := h
      refine ⟨?_, .nil⟩
      simp only [Locator.react]
      split <;> exact ⟨cache, hc, rfl⟩
    | _ =>
      obtain ⟨cache, hc, rfl⟩ := h
      exact ⟨⟨cache, hc, rfl⟩, .nil⟩

/-! ## What is made of operations and messages -/

theorem tells (h : l.Same l') {events events' : List Event}
    (hevents : List.Forall₂ Event.Same events events') :
    List.Forall₂ Event.Same (l.tells events) (l'.tells events') := by
  obtain ⟨_, -, rfl⟩ := h
  unfold Locator.tells
  split
  · exact .nil
  · exact hevents

theorem search (h : l.Same l') (clock : Conditions) :
    (l.search clock).1.Same (l'.search clock).1 ∧
      List.Forall₂ Event.Same (l.search clock).2 (l'.search clock).2 := by
  obtain ⟨hcache, hlost⟩ := h.sweepAt clock.sweep
  obtain ⟨hswept, hevents⟩ := h.lose clock.order hcache hlost
  exact ⟨hswept, h.tells hevents⟩

/-- The same is made of an operation, with all that follows. -/
theorem meet [UrlParser] (h : l.Same l') (clock : Conditions) (hop : op.Same op') :
    (l.meet clock op).1.Same (l'.meet clock op').1 ∧
      List.Forall₂ Event.Same (l.meet clock op).2 (l'.meet clock op').2 := by
  have hreact := h.react clock hop
  have hsearch := h.search clock
  have hsame : l.dropped = l'.dropped ∧ l.disposed = l'.disposed ∧ l.listening = l'.listening := by
    obtain ⟨_, -, rfl⟩ := h
    exact ⟨rfl, rfl, rfl⟩
  obtain ⟨hdropped, hdisposed, hlistening⟩ := hsame
  unfold Locator.meet
  rw [← hdropped]
  split
  · exact ⟨h, .nil⟩
  cases hop with
  | answer he => exact hreact
  | announcement he => exact hreact
  | refl =>
    cases op with
    | searchNow =>
      simp only [← hdisposed]
      split
      · exact ⟨h, .nil⟩
      · exact hsearch
    | tick =>
      simp only [← hdisposed, ← hlistening]
      split
      · exact ⟨h, .nil⟩
      · exact hsearch
    | _ => exact hreact

/-- The same is made of a message for everyone. -/
theorem hear [UrlParser] (h : l.Same l') (clock : Conditions) (he : e.Same e') :
    (l.hear clock e).1.Same (l'.hear clock e').1 ∧
      List.Forall₂ Event.Same (l.hear clock e).2 (l'.hear clock e').2 := by
  have hdisposed : l.disposed = l'.disposed := by
    obtain ⟨_, -, rfl⟩ := h
    rfl
  unfold Locator.hear
  rw [← hdisposed, ← he.routeKey]
  split
  · exact ⟨h, .nil⟩
  split
  · exact h.meet clock (.answer he)
  split
  · exact h.meet clock (.announcement he)
  · exact ⟨h, .nil⟩

end Locator.Same

end Ssdp
