import Ssdp.Device
import Ssdp.Locator.Config
import Ssdp.Locator.Filter
import Ssdp.Proofs.Text.Trim

/-!
# Devices and the messages they come from

What a message has to say for a device to be taken from it, and what a device then
has in common with the message.

* `Device.ofReceived_eq_ok_iff`: when a message tells of a device, and of which;
* `Device.Legitimate`: what is true of every device that a locator takes in, and
  `Device.legitimate_of_received`: it is.
-/

namespace Ssdp

theorem Headers.getNonBlank?_eq_some_iff {h : Headers} {name value : Text} :
    h.getNonBlank? name = some value ↔ h.get? name = some value ∧ Text.isBlank value = false := by
  simp [getNonBlank?, Option.filter_eq_some_iff]

variable [UrlParser]

namespace Device

/-- A message tells of a device if it has a location that can be read, a type in the
header in question and a `USN`. -/
theorem ofReceived_eq_ok_iff {typeHeader : Text} {defaultMaxAge : Duration} {now : Instant}
    {e : Received} {d : Device} : ofReceived typeHeader defaultMaxAge now e = .ok d ↔
      ∃ location url notificationType usn,
        e.message.headers.getNonBlank? "LOCATION".toList = some location ∧
        UrlParser.read? (Text.trim location) = .ok url ∧
        e.message.headers.getNonBlank? typeHeader = some notificationType ∧
        e.message.headers.getNonBlank? "USN".toList = some usn ∧
        d = {
          notificationType := Text.trim notificationType
          usn := Text.trim usn
          location := url
          headers := e.message.headers
          discoveredAt := now
          maxAge := ageLimit e.message.headers defaultMaxAge
          sender := e.sender
          localAddress := e.localAddress } := by
  simp only [ofReceived]
  cases e.message.headers.getNonBlank? "LOCATION".toList with
  | none => simp
  | some location =>
    cases hurl : UrlParser.read? (Text.trim location) with
    | error error => simp [hurl]
    | ok url =>
      cases e.message.headers.getNonBlank? typeHeader with
      | none => simp [hurl]
      | some notificationType =>
        cases e.message.headers.getNonBlank? "USN".toList with
        | none => simp [hurl]
        | some usn => simp [hurl, eq_comm]

/-- A device that a locator with these options may cache: its type and its `USN` are
trimmed headers of its message and not blank, the type is one that the filters let
through, and the age limit is the one in its headers, or else that of the options. -/
structure Legitimate (d : Device) (config : LocatorConfig) : Prop where
  type_ne_blank : Text.isBlank d.notificationType = false
  type_trimmed : Text.trim d.notificationType = d.notificationType
  usn_ne_blank : Text.isBlank d.usn = false
  usn_trimmed : Text.trim d.usn = d.usn
  wanted : matchesFilter config.filters d.notificationType = true
  type_eq : ∃ name ∈ ["NT".toList, "ST".toList], ∃ value,
    d.headers.get? name = some value ∧ d.notificationType = Text.trim value
  usn_eq : ∃ value, d.headers.get? "USN".toList = some value ∧ d.usn = Text.trim value
  maxAge_eq : d.maxAge =
    ((d.headers.get? "CACHE-CONTROL".toList).bind maxAge?).getD config.defaultMaxAge

theorem legitimate_of_received {config : LocatorConfig} {typeHeader : Text} {now : Instant}
    {e : Received} {d : Device} (hheader : typeHeader ∈ ["NT".toList, "ST".toList])
    (h : ofReceived typeHeader config.defaultMaxAge now e = .ok d)
    (hwanted : matchesFilter config.filters d.notificationType = true) : d.Legitimate config := by
  obtain ⟨location, url, notificationType, usn, -, -, htype, husn, rfl⟩ :=
    ofReceived_eq_ok_iff.1 h
  obtain ⟨htype, htype'⟩ := Headers.getNonBlank?_eq_some_iff.1 htype
  obtain ⟨husn, husn'⟩ := Headers.getNonBlank?_eq_some_iff.1 husn
  exact {
    type_ne_blank := (Text.isBlank_trim _).trans htype'
    type_trimmed := Text.trim_trim _
    usn_ne_blank := (Text.isBlank_trim _).trans husn'
    usn_trimmed := Text.trim_trim _
    wanted := hwanted
    type_eq := ⟨typeHeader, hheader, notificationType, htype, rfl⟩
    usn_eq := ⟨usn, husn, rfl⟩
    maxAge_eq := rfl }

omit [UrlParser] in
/-- Nothing is legitimate without filters. -/
theorem not_legitimate_of_nil {config : LocatorConfig} (h : config.filters = []) (d : Device) :
    ¬d.Legitimate config := by
  intro hd
  have hwanted := hd.wanted
  rw [h] at hwanted
  cases hwanted

end Device

end Ssdp
