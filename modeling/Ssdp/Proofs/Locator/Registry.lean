import Mathlib.Logic.Function.Basic
import Ssdp.Proofs.Device
import Ssdp.Proofs.Locator.Reaction
import Ssdp.Proofs.Message.Announcement

/-!
# What announcements amount to

A registry has, for a type and a `USN`, what was last announced of them. A cache shows
one, and what a locator makes of an announcement in its cache is what the announcement
makes of the registry, whichever message it was written as.

* `Registry`, `Cache.registry`: registries, and the one that a cache shows;
* `Announcement.apply`: what an announcement makes of a registry;
* `Locator.registry_heed`: what a verdict makes of the registry of a cache;
* `Locator.apply_judgeAnnouncement`: a locator judges an announcement by what it says;
* `Locator.Heard`: a locator that has heard announcements, and `Locator.Heard.hear`: one
  more of them.
-/

namespace Ssdp

/-- What is known of a device by its announcements. -/
structure Listing where
  notificationType : Text
  usn : Text
  location : Url
  maxAge : Duration
deriving DecidableEq

/-- What is known of the devices by their keys. -/
abbrev Registry := DeviceKey → Option Listing

/-- What a device was announced as. -/
def Device.listing (d : Device) : Listing :=
  ⟨d.notificationType, d.usn, d.location, d.maxAge⟩

/-- What a cache says of the devices with a type and a `USN`. -/
def Cache.registry (c : Cache) : Registry := fun k =>
  (c.find? k.notificationType k.usn).map Device.listing

variable [UrlParser]

/-- What an announcement makes of a registry. A device of a type that the filters let
through is entered under its type and `USN` when it is there, and when it leaves, all
with its `USN` are struck out, whatever their type. Nothing else is changed. -/
def Announcement.apply (filters : List Text) (registry : Registry) : Announcement → Registry
  | .presence _ notificationType usn location seconds h =>
    if matchesFilter filters notificationType.text then
      Function.update registry ⟨notificationType.text, usn.text⟩
        (some ⟨notificationType.text, usn.text, location.url, .ofSecs seconds h⟩)
    else registry
  | .byeBye notificationType usn =>
    if matchesFilter filters notificationType.text then
      fun k => if k.usn = usn.text then none else registry k
    else registry

/-- What a verdict makes of a registry. -/
def Verdict.apply (registry : Registry) : Verdict → Registry
  | .ignore => registry
  | .refresh d => Function.update registry d.key (some d.listing)
  | .farewell usn => fun k => if k.usn = usn then none else registry k

omit [UrlParser] in
theorem Cache.Sound.registry_eq {c : Cache} (h : c.Sound) (k : DeviceKey) :
    c.registry k = (c.device? k).map Device.listing := by
  rw [registry, h.find?_eq]

omit [UrlParser] in
/-- What a verdict makes of a cache, it makes of the registry. -/
theorem Locator.registry_heed {l : Locator} (h : l.cache.Sound) (order : VisitOrder)
    (v : Verdict) : (l.heed order v).1.cache.registry = v.apply l.cache.registry := by
  have hsound := sound_heed h order v
  funext k
  rw [hsound.registry_eq]
  cases v with
  | ignore => exact (h.registry_eq k).symm
  | refresh d =>
    rw [heed, refresh_fst]
    simp only [Cache.device?_replace, Verdict.apply, Function.update_apply]
    split
    · rfl
    · exact (h.registry_eq k).symm
  | farewell usn =>
    simp only [heed, lose, Cache.remove, h.device?_takeOut, Verdict.apply, h.registry_eq]
    by_cases hk : k.usn = usn <;> cases l.cache.device? k <;> simp [Option.filter, hk]

/-! ## Judging an announcement -/

namespace Announcement.Written

variable {a : Announcement} {m : Message}

theorem getNonBlank? (h : a.Written m) {e : Header} (he : e ∈ a.headers)
    (hblank : Text.isBlank e.value = false) : m.headers.getNonBlank? e.name = some e.value :=
  Headers.getNonBlank?_eq_some_iff.2 ⟨h.get? he, hblank⟩

/-- What is announced is read from the header that says it. -/
theorem subType (h : a.Written m) : ∃ value, m.headers.get? "NTS".toList = some value ∧
    NotificationSubType.read? value = .ok a.subType := by
  have hread (nts : NotificationSubType) : NotificationSubType.read? nts.text = .ok nts := by
    cases nts <;> decide
  have hmem : ⟨"NTS".toList, a.subType.text⟩ ∈ a.headers := by
    cases a <;> simp [headers]
  exact ⟨_, h.get? hmem, hread _⟩

/-- The device that the announcement of its presence tells of. -/
theorem ofReceived {isUpdate : Bool} {notificationType usn : Designation}
    {location : Whereabouts} {seconds : Nat} {hlt : seconds < 0x10000000000000000} {e : Received}
    (h : (presence isUpdate notificationType usn location seconds hlt).Written e.message)
    (defaultMaxAge : Duration) (now : Instant) :
    ∃ d, Device.ofReceived "NT".toList defaultMaxAge now e = .ok d ∧
      d.listing = ⟨notificationType.text, usn.text, location.url, .ofSecs seconds hlt⟩ := by
  have hlocation := h.getNonBlank? (e := ⟨"LOCATION".toList, location.text⟩) (by simp [headers])
    location.not_blank
  have htype := h.getNonBlank? (e := ⟨"NT".toList, notificationType.text⟩) (by simp [headers])
    notificationType.not_blank
  have husn := h.getNonBlank? (e := ⟨"USN".toList, usn.text⟩) (by simp [headers]) usn.not_blank
  have hmaxAge : e.message.headers.get? "CACHE-CONTROL".toList =
      some (maxAgeDirective seconds) :=
    h.get? (e := ⟨"CACHE-CONTROL".toList, maxAgeDirective seconds⟩) (by simp [headers])
  have hreads : UrlParser.read? (Text.trim location.text) = .ok location.url := by
    rw [location.trimmed]
    exact location.reads
  refine ⟨_, Device.ofReceived_eq_ok_iff.2
    ⟨_, _, _, _, hlocation, hreads, htype, husn, rfl⟩, ?_⟩
  have hage : Device.ageLimit e.message.headers defaultMaxAge = .ofSecs seconds hlt := by
    rw [Device.ageLimit, hmaxAge, Option.bind_some, maxAge?_decimal hlt, Option.getD_some]
  rw [Device.listing, notificationType.trimmed, usn.trimmed, hage]

end Announcement.Written

namespace Locator

variable {l : Locator}

/-- A locator that is not disposed judges an announcement by what it says, whichever
message it is written as. -/
theorem apply_judgeAnnouncement (hd : l.disposed = false) (tracing : Bool) (now : Instant)
    {e : Received} {a : Announcement} (h : a.Written e.message) (registry : Registry) :
    (l.judgeAnnouncement tracing now e).1.apply registry = a.apply l.config.filters registry := by
  obtain ⟨value, hvalue, hread⟩ := h.subType
  cases a with
  | presence isUpdate notificationType usn location seconds hlt =>
    obtain ⟨d, hreceived, hlisting⟩ := h.ofReceived l.config.defaultMaxAge now
    obtain ⟨htype, husn, -, -⟩ := Listing.mk.inj hlisting
    have hjudged (traces : Device → List LogRecord) :
        (l.judgeDevice "NT".toList traces now e).1.apply registry =
          (Announcement.presence isUpdate notificationType usn location seconds hlt).apply
            l.config.filters registry := by
      simp only [judgeDevice, hreceived, wants, htype, Announcement.apply]
      split
      · simp only [Verdict.apply, Device.key, htype, husn, hlisting]
      · rfl
    simp only [judgeAnnouncement, hd, hvalue, hread, Announcement.subType]
    cases isUpdate <;> exact hjudged _
  | byeBye notificationType usn =>
    have htype := h.getNonBlank? (e := ⟨"NT".toList, notificationType.text⟩)
      (by simp [Announcement.headers]) notificationType.not_blank
    have husn := h.getNonBlank? (e := ⟨"USN".toList, usn.text⟩)
      (by simp [Announcement.headers]) usn.not_blank
    simp only [judgeAnnouncement, hd, hvalue, hread, Announcement.subType, judgeFarewell, htype,
      husn, wants, notificationType.trimmed, usn.trimmed, Announcement.apply]
    by_cases hw : matchesFilter l.config.filters notificationType.text <;>
      simp [hw, Verdict.apply]

/-! ## Hearing announcements -/

/-- A locator that has heard announcements: it is still there and has its options, and
its cache shows what they make of the registry that it showed before. -/
structure Heard (l : Locator) (heard : List Announcement) (l' : Locator) : Prop where
  disposed : l'.disposed = false
  dropped : l'.dropped = false
  config : l'.config = l.config
  sound : l'.cache.Sound
  registry : l'.cache.registry =
    heard.foldl (Announcement.apply l.config.filters) l.cache.registry

namespace Heard

variable {l' : Locator} {heard : List Announcement}

/-- Starting and stopping are not heard of. -/
theorem with_timer (h : Heard l heard l') (listening timer : Bool) :
    Heard l heard { l' with listening, timer } :=
  ⟨h.disposed, h.dropped, h.config, h.sound, h.registry⟩

/-- One more announcement is heard. -/
theorem hear (h : Heard l heard l') (clock : Conditions) {e : Received} {a : Announcement}
    (ha : a.Written e.message) :
    Heard l (heard ++ [a]) (l'.react clock (.announcement e)).1 := by
  obtain ⟨cache, heq⟩ :=
    l'.exists_heed clock.order (l'.judgeAnnouncement false clock.stamp e).1
  rw [react]
  refine ⟨by rw [heq]; exact h.disposed, by rw [heq]; exact h.dropped,
    by rw [heq]; exact h.config, sound_heed h.sound _ _, ?_⟩
  rw [registry_heed h.sound, apply_judgeAnnouncement h.disposed false clock.stamp ha, h.config,
    h.registry, List.foldl_append]
  rfl

end Heard

end Locator

end Ssdp
