import Ssdp.Message.NotificationSubType
import Ssdp.Proofs.Message.Canonical
import Ssdp.Proofs.Text.Decimal
import Ssdp.Url

/-!
# Announcements as messages

What is announced, apart from how it is written: that a device is there, where its
description is and how long that may be believed, or that it leaves. It is written as a
message with a header for each of these, in any order and among any others, and such a
message is canonical, so that it is read from its bytes as it was written.

* `Announcement`: what can be announced, with texts that a header can carry;
* `Announcement.Carries`: headers that it can be written with;
* `Announcement.Written`: how it is written, and `Announcement.exists_written`: it can be
  with any headers that carry it;
* `Announcement.Written.canonical`, `Announcement.Written.get?`: what is then read.
-/

namespace Ssdp

/-- A notification type or a `USN` that a header carries as it is. -/
structure Designation where
  text : Text
  not_blank : Text.isBlank text = false
  trimmed : Text.trim text = text
  cr_not_mem : '\r' ∉ text
  lf_not_mem : '\n' ∉ text

variable [UrlParser]

/-- A location that a header carries as it is, with the URL that it stands for. -/
structure Whereabouts where
  text : Text
  url : Url
  reads : UrlParser.read? text = .ok url
  trimmed : Text.trim text = text
  cr_not_mem : '\r' ∉ text
  lf_not_mem : '\n' ∉ text

/-- What is announced of a device: that it is there, or was changed, and for how many
seconds that may be believed, or that all with its `USN` leave. -/
inductive Announcement where
  | presence (isUpdate : Bool) (notificationType usn : Designation) (location : Whereabouts)
      (seconds : Nat) (seconds_lt : seconds < 0x10000000000000000)
  | byeBye (notificationType usn : Designation)

/-- A text that stands for a URL is not blank. -/
theorem Whereabouts.not_blank (w : Whereabouts) : Text.isBlank w.text = false := by
  refine Bool.eq_false_iff.2 fun hblank => ?_
  have hnil : w.text = [] := w.trimmed.symm.trans (Text.isBlank_eq_true_iff_trim.1 hblank)
  have hreads := w.reads
  rw [hnil] at hreads
  exact UrlParser.read?_nil _ hreads

namespace Announcement

/-- What is announced, as the header `NTS` says it. -/
def subType : Announcement → NotificationSubType
  | .presence isUpdate _ _ _ _ _ => if isUpdate then .update else .alive
  | .byeBye _ _ => .byeBye

/-- The headers of an announcement. -/
def headers (a : Announcement) : List Header :=
  match a with
  | .presence _ notificationType usn location seconds _ =>
    [⟨"NT".toList, notificationType.text⟩, ⟨"NTS".toList, a.subType.text⟩,
      ⟨"USN".toList, usn.text⟩, ⟨"LOCATION".toList, location.text⟩,
      ⟨"CACHE-CONTROL".toList, maxAgeDirective seconds⟩]
  | .byeBye notificationType usn =>
    [⟨"NT".toList, notificationType.text⟩, ⟨"NTS".toList, a.subType.text⟩,
      ⟨"USN".toList, usn.text⟩]

/-- A header that nothing stands in the way of, neither in writing nor in reading. -/
def Carried (e : Header) : Prop :=
  Headers.fault? e.name e.value = none ∧ Text.trim e.name = e.name ∧ Text.trim e.value = e.value

/-- Headers that carry an announcement: its own are among them, and no two have the same
name. -/
structure Carries (a : Announcement) (headers : List Header) : Prop where
  own : ∀ e ∈ a.headers, e ∈ headers
  carried : ∀ e ∈ headers, Carried e
  distinct : (headers.map Header.key).Nodup

/-- A message that an announcement is written as: one with headers that carry it. -/
def Written (a : Announcement) (m : Message) : Prop :=
  ∃ headers, a.Carries headers ∧
    Message.build notifyStartLine (headers.map fun e => (e.name, e.value)) = .ok m

omit [UrlParser] in
theorem carried_subType (nts : NotificationSubType) : Carried ⟨"NTS".toList, nts.text⟩ := by
  cases nts <;> exact ⟨by decide, by decide, by decide⟩

omit [UrlParser] in
theorem carried_of {name value : Text} (hname : Headers.fault? name [] = none)
    (htrim : Text.trim name = name) (hvalue : Text.trim value = value) (hcr : '\r' ∉ value)
    (hlf : '\n' ∉ value) : Carried ⟨name, value⟩ := by
  rw [Headers.fault?_eq_none_iff] at hname
  exact ⟨Headers.fault?_eq_none_iff.2 ⟨hname.1, hname.2.1, hname.2.2.1, hcr, hlf⟩, htrim, hvalue⟩

omit [UrlParser] in
theorem carried_maxAge (seconds : Nat) :
    Carried ⟨"CACHE-CONTROL".toList, maxAgeDirective seconds⟩ := by
  have hplain : ∀ c ∈ maxAgeDirective seconds, isBlankChar c = false :=
    fun c => isBlankChar_of_mem_maxAgeDirective
  have hfault : Headers.fault? "CACHE-CONTROL".toList [] = none := by decide
  have hname : Text.trim "CACHE-CONTROL".toList = "CACHE-CONTROL".toList := by decide
  exact ⟨Headers.fault?_of_forall_not_blank hfault hplain, hname,
    Text.trim_of_forall_not_blank hplain⟩

theorem carried_headers (a : Announcement) : ∀ e ∈ a.headers, Carried e := by
  have hname (name : Text) (d : Designation) (hname : Headers.fault? name [] = none)
      (htrim : Text.trim name = name) : Carried ⟨name, d.text⟩ :=
    carried_of hname htrim d.trimmed d.cr_not_mem d.lf_not_mem
  cases a with
  | presence isUpdate notificationType usn location seconds h =>
    simp only [headers, List.forall_mem_cons]
    exact ⟨hname _ _ (by decide) (by decide), carried_subType _,
      hname _ _ (by decide) (by decide),
      carried_of (by decide) (by decide) location.trimmed location.cr_not_mem location.lf_not_mem,
      carried_maxAge seconds, nofun⟩
  | byeBye notificationType usn =>
    simp only [headers, List.forall_mem_cons]
    exact ⟨hname _ _ (by decide) (by decide), carried_subType _,
      hname _ _ (by decide) (by decide), nofun⟩

/-- The names of the headers are different. -/
theorem nodup_headers (a : Announcement) : (a.headers.map Header.key).Nodup := by
  have hnames : (["NT", "NTS", "USN", "LOCATION", "CACHE-CONTROL"].map
      fun name => Text.foldCase name.toList).Nodup := by
    decide
  cases a with
  | presence isUpdate notificationType usn location seconds h => exact hnames
  | byeBye notificationType usn => exact hnames.sublist (by simp [headers, Header.key])

/-- Its own headers carry an announcement. -/
theorem carries_headers (a : Announcement) : a.Carries a.headers :=
  ⟨fun _ he => he, a.carried_headers, a.nodup_headers⟩

section

variable {a : Announcement} {headers : List Header} {m : Message}

/-- In whatever order the headers are put in, they stay there in this order. -/
theorem Carries.build_eq (h : a.Carries headers) :
    Message.build notifyStartLine (headers.map fun e => (e.name, e.value)) =
      .ok ⟨notifyStartLine, ⟨headers⟩⟩ := by
  have hvalid : ∀ p ∈ headers.map fun e => (e.name, e.value), Headers.fault? p.1 p.2 = none :=
    List.forall_mem_map.2 fun e he => (h.carried e he).1
  have hheaders : (headers.map fun e => (e.name, e.value)).map
      (fun p => (⟨p.1, p.2⟩ : Header)) = headers := by
    rw [List.map_map]
    exact List.map_id _
  have hplaced : Headers.placeAll Headers.empty.entries headers = headers :=
    Headers.placeAll_of_distinct h.distinct
  rw [Message.build, Headers.insertAll_eq hvalid, hheaders, hplaced]

/-- Every announcement can be written, with any headers that carry it. -/
theorem exists_written (h : a.Carries headers) : ∃ m, a.Written m ∧
    Message.build notifyStartLine (headers.map fun e => (e.name, e.value)) = .ok m :=
  ⟨_, ⟨headers, h, h.build_eq⟩, h.build_eq⟩

namespace Written

theorem eq (h : a.Written m) :
    ∃ headers, a.Carries headers ∧ m = ⟨notifyStartLine, ⟨headers⟩⟩ := by
  obtain ⟨headers, hcarries, hbuild⟩ := h
  exact ⟨headers, hcarries, (Except.ok.inj (hcarries.build_eq.symm.trans hbuild)).symm⟩

theorem canonical (h : a.Written m) : m.Canonical := by
  obtain ⟨headers, hcarries, rfl⟩ := h.eq
  exact Message.canonical_mk (by decide) hcarries.carried hcarries.distinct

theorem routeKey (h : a.Written m) : m.routeKey = notifyKey := by
  obtain ⟨headers, -, rfl⟩ := h.eq
  show Ssdp.routeKey notifyStartLine = notifyKey
  decide

/-- Each header is found under its name. -/
theorem get? (h : a.Written m) {e : Header} (he : e ∈ a.headers) :
    m.headers.get? e.name = some e.value := by
  have hsound := h.canonical.sound
  obtain ⟨headers, hcarries, rfl⟩ := h.eq
  exact hsound.get?_of_mem (hcarries.own e he)

end Written

end

end Announcement

end Ssdp
