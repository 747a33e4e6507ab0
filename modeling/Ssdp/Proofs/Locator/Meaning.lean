import Ssdp.Proofs.Device
import Ssdp.Proofs.Locator.Reaction

/-!
# What a message means to a locator

What a message has to say for a locator to take a device in or to take devices out, told
by the values of its headers alone, and what becomes of the cache then.

* `Received.Gives`, `Received.Announces`, `Received.Presents`: what the headers of a
  message say;
* `Locator.Takes`: what a message means to a locator, if anything;
* `Locator.takes_answer_iff`, `Locator.takes_announcement_iff`: messages are judged by
  what they mean;
* `Verdict.Does`: what becomes of the cache, and what the owner is to be told;
  `Locator.does_heed`: this is what heeding a verdict comes to;
* `Received.Twin`, `Received.Twin.takes`: announcements that differ in `NTS` alone.
-/

namespace Ssdp

/-! ## What headers say -/

namespace Received

/-- There is a header with this name, it is not blank, and this is its value without the
blanks around it. -/
def Gives (e : Received) (name value : Text) : Prop :=
  ∃ raw, e.message.headers.get? name = some raw ∧ Text.isBlank raw = false ∧
    value = Text.trim raw

/-- `NTS` names this sub-type, up to ASCII case and the blanks around it. -/
def Announces (e : Received) (nts : NotificationSubType) : Prop :=
  ∃ raw, e.message.headers.get? "NTS".toList = some raw ∧
    Text.sameName (Text.trim raw) nts.text = true

/-- Heard at this time, the message tells a locator with these options of this device: its
location is one that can be read, its type, which stands in the given header, is one that
the filters let through, and it has a `USN`. -/
structure Presents [UrlParser] (e : Received) (config : LocatorConfig) (typeHeader : Text)
    (now : Instant) (d : Device) : Prop where
  location : ∃ value, e.Gives "LOCATION".toList value ∧ UrlParser.read? value = .ok d.location
  notificationType : e.Gives typeHeader d.notificationType
  usn : e.Gives "USN".toList d.usn
  wanted : matchesFilter config.filters d.notificationType = true
  headers : d.headers = e.message.headers
  discoveredAt : d.discoveredAt = now
  maxAge : d.maxAge = Device.ageLimit e.message.headers config.defaultMaxAge
  sender : d.sender = e.sender
  localAddress : d.localAddress = e.localAddress

variable {e : Received} {name value value' : Text}

theorem gives_iff : e.Gives name value ↔
    (e.message.headers.getNonBlank? name).map Text.trim = some value := by
  simp only [Gives, Option.map_eq_some_iff, Headers.getNonBlank?_eq_some_iff, and_assoc,
    eq_comm (a := value)]

end Received

/-- A value names a sub-type if it is written that way, up to ASCII case and the blanks
around it. -/
theorem NotificationSubType.read?_eq_ok_iff {value : Text} {nts : NotificationSubType} :
    read? value = .ok nts ↔ Text.sameName (Text.trim value) nts.text = true := by
  have distinct : ∀ a b : NotificationSubType, Text.sameName a.text (Text.trim value) = true →
      Text.sameName b.text (Text.trim value) = true → a = b := by
    intro a b ha hb
    have hfold : Text.foldCase a.text = Text.foldCase b.text :=
      (Text.sameName_iff.1 ha).trans (Text.sameName_iff.1 hb).symm
    revert hfold
    cases a <;> cases b <;> decide
  rw [Text.sameName_comm]
  simp only [read?]
  split
  · rename_i found hfound
    have hnamed := List.find?_some hfound
    rw [Except.ok.injEq]
    exact ⟨fun heq => heq ▸ hnamed, fun h => distinct _ _ hnamed h⟩
  · rename_i hnone
    have hunnamed := List.find?_eq_none.1 hnone nts (by cases nts <;> decide)
    exact iff_of_false nofun hunnamed

theorem Received.announces_iff {e : Received} {nts : NotificationSubType} : e.Announces nts ↔
    ∃ raw, e.message.headers.get? "NTS".toList = some raw ∧
      NotificationSubType.read? raw = .ok nts := by
  simp only [Announces, NotificationSubType.read?_eq_ok_iff]

theorem Received.Announces.unique {e : Received} {nts nts' : NotificationSubType}
    (h : e.Announces nts) (h' : e.Announces nts') : nts = nts' := by
  obtain ⟨raw, hraw, hread⟩ := announces_iff.1 h
  obtain ⟨raw', hraw', hread'⟩ := announces_iff.1 h'
  obtain rfl := Option.some.inj (hraw.symm.trans hraw')
  exact Except.ok.inj (hread.symm.trans hread')

/-! ## What messages mean -/

namespace Locator

/-- What a message means to a locator that hears it at this time, in answer to a search or
as an announcement, unless it means nothing. -/
def Takes [UrlParser] (l : Locator) (now : Instant) : Operation → Verdict → Prop
  | .answer e, .refresh d => l.listening = true ∧ e.Presents l.config "ST".toList now d
  | .announcement e, .refresh d =>
    (e.Announces .alive ∨ e.Announces .update) ∧ e.Presents l.config "NT".toList now d
  | .announcement e, .farewell usn =>
    e.Announces .byeBye ∧ (∃ notificationType, e.Gives "NT".toList notificationType ∧
      matchesFilter l.config.filters notificationType = true) ∧ e.Gives "USN".toList usn
  | _, _ => False

variable {l : Locator} {now : Instant} {e : Received}

/-- A message is judged to tell of the device that it presents. -/
theorem judgeDevice_eq_refresh_iff [UrlParser] {typeHeader : Text}
    {traces : Device → List LogRecord} {d : Device} :
    (l.judgeDevice typeHeader traces now e).1 = .refresh d ↔
      e.Presents l.config typeHeader now d := by
  have hjudge : (l.judgeDevice typeHeader traces now e).1 = .refresh d ↔
      Device.ofReceived typeHeader l.config.defaultMaxAge now e = .ok d ∧
        l.wants d.notificationType = true := by
    unfold judgeDevice
    split
    · rename_i hfault
      simp [hfault]
    · rename_i d' hd'
      rw [hd', Except.ok.injEq]
      split
      · rename_i hwants
        rw [Verdict.refresh.injEq]
        exact ⟨fun heq => ⟨heq, heq ▸ hwants⟩, fun h => h.1⟩
      · rename_i hwants
        exact iff_of_false nofun fun h => hwants (h.1 ▸ h.2)
  rw [hjudge, Device.ofReceived_eq_ok_iff]
  constructor
  · rintro ⟨⟨location, url, notificationType, usn, hlocation, hurl, htype, husn, rfl⟩, hwants⟩
    have hgives {name raw : Text} (h : e.message.headers.getNonBlank? name = some raw) :
        e.Gives name (Text.trim raw) :=
      Received.gives_iff.2 (by rw [h, Option.map_some])
    exact ⟨⟨_, hgives hlocation, hurl⟩, hgives htype, hgives husn, hwants, rfl, rfl, rfl, rfl, rfl⟩
  · intro h
    obtain ⟨_, hsaid, hurl⟩ := h.location
    obtain ⟨location, hlocation, rfl⟩ := Option.map_eq_some_iff.1 (Received.gives_iff.1 hsaid)
    obtain ⟨notificationType, htype, htype'⟩ :=
      Option.map_eq_some_iff.1 (Received.gives_iff.1 h.notificationType)
    obtain ⟨usn, husn, husn'⟩ := Option.map_eq_some_iff.1 (Received.gives_iff.1 h.usn)
    refine ⟨⟨location, d.location, notificationType, usn, hlocation, hurl, htype, husn, ?_⟩,
      h.wanted⟩
    rw [htype', husn', ← h.headers, ← h.discoveredAt, ← h.sender, ← h.localAddress, h.headers,
      ← h.maxAge, ← h.headers]

theorem judgeDevice_ne_farewell [UrlParser] {typeHeader usn : Text}
    {traces : Device → List LogRecord} :
    (l.judgeDevice typeHeader traces now e).1 ≠ .farewell usn := by
  unfold judgeDevice
  split
  · exact nofun
  · split <;> exact nofun

/-- A farewell is judged by its type and its `USN`. -/
theorem judgeFarewell_eq_farewell_iff {tracing : Bool} {usn : Text} :
    (l.judgeFarewell tracing e).1 = .farewell usn ↔
      (∃ notificationType, e.Gives "NT".toList notificationType ∧
        matchesFilter l.config.filters notificationType = true) ∧ e.Gives "USN".toList usn := by
  simp only [judgeFarewell, Received.gives_iff]
  cases e.message.headers.getNonBlank? "NT".toList with
  | none => simp
  | some notificationType =>
    cases e.message.headers.getNonBlank? "USN".toList with
    | none => simp
    | some usn' =>
      by_cases hw : l.wants (Text.trim notificationType) = true
      · have hfilter : matchesFilter l.config.filters (Text.trim notificationType) = true := hw
        simp [hw, hfilter]
      · have hfilter : ¬matchesFilter l.config.filters (Text.trim notificationType) = true := hw
        simp [hw, hfilter]

/-- The answer to a search is judged by what it means. -/
theorem takes_answer_iff [UrlParser] (hd : l.disposed = false) {v : Verdict} :
    l.Takes now (.answer e) v ↔ (l.judgeAnswer now e).1 = v ∧ v ≠ .ignore := by
  unfold judgeAnswer
  cases hlistening : l.listening with
  | false => cases v <;> simp [Takes, hlistening]
  | true =>
    rw [hd, Bool.not_true, Bool.or_self, if_neg Bool.false_ne_true]
    cases v with
    | ignore => simp only [Takes, ne_eq, not_true_eq_false, and_false]
    | refresh d => simp only [Takes, hlistening, judgeDevice_eq_refresh_iff, true_and, ne_eq,
        reduceCtorEq, not_false_eq_true, and_true]
    | farewell usn => simp only [Takes, judgeDevice_ne_farewell, false_and]

/-- An announcement of a sub-type is judged as a farewell or as telling of a device. -/
theorem judgeAnnouncement_of_announces [UrlParser] (hd : l.disposed = false)
    {nts : NotificationSubType} (h : e.Announces nts) :
    (l.judgeAnnouncement false now e).1 =
      if nts = .byeBye then (l.judgeFarewell false e).1
      else (l.judgeDevice "NT".toList (fun _ => []) now e).1 := by
  obtain ⟨raw, hraw, hread⟩ := Received.announces_iff.1 h
  simp only [judgeAnnouncement, hd, hraw, hread, Bool.false_eq_true, if_false]
  cases nts <;> rfl

/-- An announcement of no sub-type that is known is ignored. -/
theorem judgeAnnouncement_of_not_announces [UrlParser] (h : ∀ nts, ¬e.Announces nts) :
    (l.judgeAnnouncement false now e).1 = .ignore := by
  unfold judgeAnnouncement
  split
  · rfl
  split
  · rfl
  rename_i raw hraw
  cases hread : NotificationSubType.read? raw with
  | error error => rfl
  | ok nts => exact absurd (Received.announces_iff.2 ⟨raw, hraw, hread⟩) (h nts)

/-- An announcement is judged by what it means. -/
theorem takes_announcement_iff [UrlParser] (hd : l.disposed = false) {v : Verdict} :
    l.Takes now (.announcement e) v ↔
      (l.judgeAnnouncement false now e).1 = v ∧ v ≠ .ignore := by
  by_cases hknown : ∃ nts, e.Announces nts
  · obtain ⟨nts, hnts⟩ := hknown
    have hnames (other : NotificationSubType) : e.Announces other ↔ nts = other :=
      ⟨hnts.unique, fun heq => heq ▸ hnts⟩
    rw [judgeAnnouncement_of_announces hd hnts]
    cases v with
    | ignore => simp only [Takes, ne_eq, not_true_eq_false, and_false]
    | refresh d =>
      cases nts <;> simp [-String.reduceToList, Takes, hnames, judgeDevice_eq_refresh_iff,
        judgeFarewell_ne_refresh]
    | farewell usn =>
      cases nts <;> simp [-String.reduceToList, Takes, hnames, judgeDevice_ne_farewell,
        judgeFarewell_eq_farewell_iff]
  · have hnone := not_exists.1 hknown
    rw [judgeAnnouncement_of_not_announces hnone]
    cases v <;> simp [-String.reduceToList, Takes, hnone]

end Locator

/-! ## What becomes of the cache -/

/-- What a verdict does to a cache, entry by entry, and the events that follow: a device is
put under its key, and the owner is told that it is new, or which one it replaces; or every
device with a `USN` is taken out, and the owner is told of the loss of each of them, in
whichever order. -/
def Verdict.Does (before : Cache) : Verdict → Cache → List Event → Prop
  | .ignore, after, events => after = before ∧ events = []
  | .refresh d, after, events =>
    (∀ k, after.device? k = if k = d.key then some d else before.device? k) ∧
      events = [match before.device? d.key with
        | none => .found d
        | some old => .updated old d]
  | .farewell usn, after, events =>
    (∀ k, after.device? k = if k.usn = usn then none else before.device? k) ∧
      ∃ gone : List Device, gone.Perm (before.findAll usn) ∧ events = gone.map .lost

/-- The event that follows when a device is taken in. -/
theorem Locator.refresh_snd (l : Locator) (d : Device) :
    (l.refresh d).2 = match l.cache.device? d.key with
      | none => .found d
      | some old => .updated old d := by
  rw [← Cache.replace_snd, refresh]
  split <;> rename_i hreplace <;> rw [hreplace]

/-- Heeding a verdict does to the cache what the verdict says. -/
theorem Locator.does_heed {l : Locator} (h : l.cache.Sound) (order : VisitOrder) (v : Verdict) :
    v.Does l.cache (l.heed order v).1.cache (l.heed order v).2 := by
  cases v with
  | ignore => exact ⟨rfl, rfl⟩
  | refresh d =>
    refine ⟨fun k => ?_, congrArg (fun event => [event]) (l.refresh_snd d)⟩
    rw [heed, refresh_fst]
    exact l.cache.device?_replace d k
  | farewell usn =>
    refine ⟨fun k => ?_, _, (order.arrange_perm _).trans (.of_eq (h.remove_snd usn)), rfl⟩
    show (l.cache.takeOut _).1.device? k = _
    rw [h.device?_takeOut]
    by_cases hk : k.usn = usn <;> cases l.cache.device? k <;> simp [hk]

/-! ## Announcements that differ in their sub-type -/

/-- The other message comes from the same sender to the same address, and says the same
under every name but `NTS`. -/
structure Received.Twin (e e' : Received) : Prop where
  get? : ∀ name, ¬Text.sameName name "NTS".toList = true →
    e'.message.headers.get? name = e.message.headers.get? name
  sender : e'.sender = e.sender
  localAddress : e'.localAddress = e.localAddress

namespace Received.Twin

variable {e e' : Received} {config : LocatorConfig} {now : Instant} {d : Device}

theorem gives (h : e.Twin e') {name value : Text} (hname : ¬Text.sameName name "NTS".toList = true)
    (hgives : e.Gives name value) : e'.Gives name value := by
  obtain ⟨raw, hraw, hvalue⟩ := hgives
  exact ⟨raw, (h.get? name hname).trans hraw, hvalue⟩

/-- Twins present the same device, but for the copy of the headers. -/
theorem presents [UrlParser] (h : e.Twin e') (hd : e.Presents config "NT".toList now d) :
    e'.Presents config "NT".toList now { d with headers := e'.message.headers } := by
  obtain ⟨value, hlocation, hurl⟩ := hd.location
  have hage : Device.ageLimit e'.message.headers config.defaultMaxAge =
      Device.ageLimit e.message.headers config.defaultMaxAge := by
    rw [Device.ageLimit, Device.ageLimit, h.get? _ (by decide)]
  exact {
    location := ⟨value, h.gives (by decide) hlocation, hurl⟩
    notificationType := h.gives (by decide) hd.notificationType
    usn := h.gives (by decide) hd.usn
    wanted := hd.wanted
    headers := rfl
    discoveredAt := hd.discoveredAt
    maxAge := hd.maxAge.trans hage.symm
    sender := hd.sender.trans h.sender.symm
    localAddress := hd.localAddress.trans h.localAddress.symm }

/-- That a device is there and that it changed mean the same to a locator, but for the
copy of the headers. -/
theorem takes [UrlParser] (h : e.Twin e') (hpresence : e.Announces .alive ∨ e.Announces .update)
    (hpresence' : e'.Announces .alive ∨ e'.Announces .update) {l : Locator} {v : Verdict}
    (htakes : l.Takes now (.announcement e) v) :
    ∃ d, v = .refresh d ∧
      l.Takes now (.announcement e') (.refresh { d with headers := e'.message.headers }) := by
  cases v with
  | ignore => exact htakes.elim
  | refresh d => exact ⟨d, rfl, hpresence', h.presents htakes.2⟩
  | farewell usn =>
    rcases hpresence with halive | hupdate
    · nomatch halive.unique htakes.1
    · nomatch hupdate.unique htakes.1

end Received.Twin

end Ssdp
