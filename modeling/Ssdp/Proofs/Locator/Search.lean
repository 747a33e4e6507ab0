import Ssdp.Proofs.ControlPoint.Inversion
import Ssdp.Proofs.ControlPoint.Move
import Ssdp.Proofs.Text.Decimal
import Ssdp.Proofs.Time
import Ssdp.Proofs.Transport.Multicast

/-!
# Searches on the wire

The time that devices are given to answer a search is one second less than the locator is
prepared to wait, and at least one second. It is computed by operations that panic where
their result cannot be represented, and the request is put together by insertions that panic
where a header cannot be written. Neither happens, for whichever waiting time; and the
request that is sent is read as what was meant.

* `toNanos_searchTime`, `monotone_searchTime`: the time in whole numbers;
* `searchTimeOrPanic_eq`, `searchRequestOrPanic_eq`: with the panics that the operations may
  end in, the time and the request are the same;
* `Message.IsSearch`: what a device is to read;
* `isSearch_searchRequest`, `Message.IsSearch.hosted`: the request says so, as it is and with
  the header of a group;
* `searches_well_formed`: all this together, with what goes out to the groups.
-/

namespace Ssdp

/-! ## The time to answer -/

namespace Duration

/-- A multiple of a duration, with a panic where there is none. -/
def mulOrPanic (d : Duration) (n : UInt32) : Except PanicReason Duration :=
  match d.checkedMul n with
  | some product => .ok product
  | none => .error (.text "overflow when multiplying duration by scalar".toList)

/-- The difference of two durations, with a panic where there is none. -/
def subOrPanic (a b : Duration) : Except PanicReason Duration :=
  match a.checkedSub b with
  | some difference => .ok difference
  | none => .error (.text "overflow when subtracting durations".toList)

theorem mulOrPanic_eq_ok {c d : Duration} {n : UInt32} (h : c.toNanos = d.toNanos * n.toNat) :
    d.mulOrPanic n = .ok c := by
  rw [mulOrPanic, checkedMul_eq_some_iff.2 h]

theorem subOrPanic_eq_ok {a b c : Duration} (h : c.toNanos + b.toNanos = a.toNanos) :
    a.subOrPanic b = .ok c := by
  rw [subOrPanic, checkedSub_eq_some_iff.2 h]

end Duration

theorem oneSecond_lt : 1 < 0x10000000000000000 := by
  decide

/-- One second. -/
def oneSecond : Duration :=
  .ofSecs 1 oneSecond_lt

/-- The answering time of a search, computed with operations that may panic. -/
def searchTimeOrPanic (wait : Duration) : Except PanicReason Duration := do
  let twoSeconds ← oneSecond.mulOrPanic 2
  if wait.isShorter twoSeconds then return oneSecond
  wait.subOrPanic oneSecond

section

variable {wait : Duration}

theorem searchTime_of_lt (h : wait < .ofSecs 2) : searchTime wait = .ofSecs 1 :=
  if_pos (Duration.lt_iff_isShorter.1 h)

theorem searchTime_of_le (h : .ofSecs 2 ≤ wait) : searchTime wait = wait.dropSecs 1 :=
  if_neg fun hshort => absurd (Duration.lt_iff_isShorter.2 hshort) (not_lt_of_ge h)

/-- From two seconds on there is a second to take off. -/
theorem toNanos_searchTime_of_le (h : .ofSecs 2 ≤ wait) :
    (searchTime wait).toNanos + nanosPerSec = wait.toNanos := by
  have hsecs : 1 ≤ wait.secs := by
    have hlt := wait.secs_bounds.2
    rw [Duration.le_iff, Duration.toNanos_ofSecs] at h
    simp only [nanosPerSec] at *
    omega
  rw [searchTime_of_le h]
  exact Duration.toNanos_dropSecs hsecs

/-- The answering time is the longer one of a second and of what a second leaves. -/
theorem toNanos_searchTime (wait : Duration) :
    ((searchTime wait).toNanos : Int) = max (nanosPerSec : Int) (wait.toNanos - nanosPerSec) := by
  rcases lt_or_ge wait (.ofSecs 2) with hshort | hlong
  · rw [searchTime_of_lt hshort, Duration.toNanos_ofSecs]
    rw [Duration.lt_iff, Duration.toNanos_ofSecs] at hshort
    omega
  · have hless := toNanos_searchTime_of_le hlong
    rw [Duration.le_iff, Duration.toNanos_ofSecs] at hlong
    omega

theorem monotone_searchTime : Monotone searchTime := by
  intro wait wait' h
  have htime := toNanos_searchTime wait
  have htime' := toNanos_searchTime wait'
  rw [Duration.le_iff] at h ⊢
  omega

/-- Two seconds can be represented, and a second is taken off only where it is there. -/
theorem searchTimeOrPanic_eq (wait : Duration) :
    searchTimeOrPanic wait = .ok (searchTime wait) := by
  have htwo : oneSecond.mulOrPanic 2 = .ok (.ofSecs 2) :=
    Duration.mulOrPanic_eq_ok (by decide)
  rw [searchTimeOrPanic, htwo]
  change (if wait.isShorter (.ofSecs 2) then _ else _) = _
  rcases lt_or_ge wait (.ofSecs 2) with hshort | hlong
  · rw [if_pos (Duration.lt_iff_isShorter.1 hshort), searchTime_of_lt hshort]
    rfl
  · rw [if_neg (mt Duration.lt_iff_isShorter.2 (not_lt_of_ge hlong))]
    exact Duration.subOrPanic_eq_ok (toNanos_searchTime_of_le hlong)

/-- There is a whole second to answer in. -/
theorem one_le_secs_searchTime (wait : Duration) : 1 ≤ (searchTime wait).secs := by
  have htime := toNanos_searchTime wait
  have hlt := (searchTime wait).secs_bounds.2
  simp only [nanosPerSec] at *
  omega

theorem secs_searchTime_of_lt (h : wait < .ofSecs 2) : (searchTime wait).secs = 1 := by
  rw [searchTime_of_lt h]
  rfl

/-- The whole seconds to answer in are as many as fit into the wait less one second. -/
theorem secs_searchTime_bounds (h : .ofSecs 2 ≤ wait) :
    ((searchTime wait).secs * nanosPerSec : Int) ≤ wait.toNanos - nanosPerSec ∧
      (wait.toNanos : Int) - nanosPerSec < ((searchTime wait).secs + 1) * nanosPerSec := by
  have hless := toNanos_searchTime_of_le h
  obtain ⟨hle, hlt⟩ := (searchTime wait).secs_bounds
  simp only [nanosPerSec] at *
  omega

end

/-! ## The request -/

namespace Message

/-- The message with one more header, with a panic where the header cannot be written. -/
def withHeaderOrPanic (m : Message) (name value : Text) : Except PanicReason Message :=
  match (Headers.insertOrPanic name value).run m.headers with
  | .ok _ headers => .ok { m with headers }
  | .error reason _ => .error reason

/-- A header of a new name that can be written goes to the end. -/
theorem withHeaderOrPanic_eq_ok {m : Message} {name value : Text}
    (hnew : ¬m.headers.contains name = true) (hfault : Headers.fault? name value = none) :
    m.withHeaderOrPanic name value =
      .ok { m with headers := ⟨m.headers.entries ++ [⟨name, value⟩]⟩ } := by
  have hplace : (Headers.place ⟨name, value⟩ m.headers.entries).1 =
      m.headers.entries ++ [⟨name, value⟩] :=
    Headers.place_of_not_mem (mt Headers.contains_iff_mem_keys.2 hnew)
  rw [withHeaderOrPanic, Headers.run_insertOrPanic]
  simp only [Headers.insert, hfault, hplace]

end Message

/-- The request of a search, put together header by header, with operations that may
panic. -/
def searchRequestOrPanic (wait : Duration) : Except PanicReason Message := do
  let time ← searchTimeOrPanic wait
  let m ← Message.withHeaderOrPanic { startLine := searchStartLine } "ST".toList "ssdp:all".toList
  let m ← m.withHeaderOrPanic "MAN".toList "\"ssdp:discover\"".toList
  m.withHeaderOrPanic "MX".toList (Text.decimal time.secs)

/-- Digits are no blanks, so the time can be written on a line. -/
theorem fault?_decimal (n : Nat) : Headers.fault? "MX".toList (Text.decimal n) = none :=
  Headers.fault?_of_forall_not_blank (by decide) fun _ => Text.isBlankChar_of_mem_decimal

/-- All three names are different, and nothing that is inserted has a line break. -/
theorem searchRequestOrPanic_eq (wait : Duration) :
    searchRequestOrPanic wait = .ok (searchRequest wait) := by
  have htarget : Message.withHeaderOrPanic { startLine := searchStartLine } "ST".toList
      "ssdp:all".toList = .ok ⟨searchStartLine, ⟨[⟨"ST".toList, "ssdp:all".toList⟩]⟩⟩ :=
    Message.withHeaderOrPanic_eq_ok (by decide) (by decide)
  have hextension : Message.withHeaderOrPanic
      ⟨searchStartLine, ⟨[⟨"ST".toList, "ssdp:all".toList⟩]⟩⟩ "MAN".toList
      "\"ssdp:discover\"".toList = .ok ⟨searchStartLine,
        ⟨[⟨"ST".toList, "ssdp:all".toList⟩, ⟨"MAN".toList, "\"ssdp:discover\"".toList⟩]⟩⟩ :=
    Message.withHeaderOrPanic_eq_ok (by decide) (by decide)
  have htime : Message.withHeaderOrPanic ⟨searchStartLine,
        ⟨[⟨"ST".toList, "ssdp:all".toList⟩, ⟨"MAN".toList, "\"ssdp:discover\"".toList⟩]⟩⟩
      "MX".toList (Text.decimal (searchTime wait).secs) = .ok (searchRequest wait) :=
    Message.withHeaderOrPanic_eq_ok (by decide) (fault?_decimal _)
  simp only [searchRequestOrPanic, searchTimeOrPanic_eq, bind, Except.bind, htarget, hextension]
  exact htime

/-- There is nothing to trim in the request, and no name is there twice. -/
theorem canonical_searchRequest (wait : Duration) : (searchRequest wait).Canonical := by
  have hline : searchStartLine ≠ [] ∧ '\n' ∉ searchStartLine ∧
      Text.trim searchStartLine = searchStartLine := by
    decide
  have hname : Text.trim "MX".toList = "MX".toList := by decide
  have htrim : Text.trim (Text.decimal (searchTime wait).secs) =
      Text.decimal (searchTime wait).secs :=
    Text.trim_of_forall_not_blank fun _ => Text.isBlankChar_of_mem_decimal
  have hdistinct : (["ST", "MAN", "MX"].map fun name => Text.foldCase name.toList).Nodup := by
    decide
  refine Message.canonical_mk hline ?_ hdistinct
  simp only [List.forall_mem_cons]
  exact ⟨by decide, by decide, ⟨fault?_decimal _, hname, htrim⟩, nofun⟩

/-! ## What is read -/

/-- What a device is to read of a search whose sender waits for so long: a request of this
method that asks for everything, and in whole seconds the time to answer. This is one second
at least; it is one second where the sender waits for less than two, and from there on as
many seconds as fit into the wait less one. -/
structure Message.IsSearch (m : Message) (wait : Duration) : Prop where
  startLine : m.startLine = "M-SEARCH * HTTP/1.1".toList
  routeKey : m.routeKey = "M-SEARCH".toList
  target : m.headers.get? "ST".toList = some "ssdp:all".toList
  extension : m.headers.get? "MAN".toList = some "\"ssdp:discover\"".toList
  time : ∃ mx s, m.headers.get? "MX".toList = some mx ∧ Text.IsDecimal mx s ∧ 1 ≤ s ∧
    (wait < .ofSecs 2 → s = 1) ∧
    (.ofSecs 2 ≤ wait → (s * nanosPerSec : Int) ≤ wait.toNanos - nanosPerSec ∧
      (wait.toNanos : Int) - nanosPerSec < (s + 1) * nanosPerSec)

theorem isSearch_searchRequest (wait : Duration) : (searchRequest wait).IsSearch wait where
  startLine := rfl
  routeKey := by
    show Ssdp.routeKey searchStartLine = _
    decide
  target := rfl
  extension := rfl
  time := ⟨_, _, rfl, Text.isDecimal_decimal _, one_le_secs_searchTime wait,
    secs_searchTime_of_lt, secs_searchTime_bounds⟩

namespace Message

variable {m : Message} {wait : Duration}

/-- A header for the group does not change what is read of the others. -/
theorem IsSearch.hosted (h : m.IsSearch wait) (hnew : ¬m.headers.contains "HOST".toList = true)
    (via : Address) : (m.hosted via).IsSearch wait := by
  have hline : (m.hosted via).startLine = m.startLine := by rw [hosted_of_not_contains hnew]
  have hother (name : Text) (hname : Text.sameName name "HOST".toList = false) :
      (m.hosted via).headers.get? name = m.headers.get? name := by
    rw [get?_hosted hnew, hname]
    rfl
  refine ⟨hline.trans h.startLine, ?_, ?_, ?_, ?_⟩
  · show Ssdp.routeKey (m.hosted via).startLine = _
    rw [hline]
    exact h.routeKey
  · rw [hother _ (by decide)]
    exact h.target
  · rw [hother _ (by decide)]
    exact h.extension
  · rw [hother _ (by decide)]
    exact h.time

end Message

/-! ## What is sent -/

/-- Searches are always well-formed. Let a locator be prepared to wait for any time, of up to
`2 ^ 64 - 1` seconds and a fraction.

* The time that devices are given to answer is the longer one of a second and of the wait
  less one second, in whole numbers without bounds; it is computed without an overflow, and
  is not shorter for a longer wait.
* Putting the request together never panics, and comes to the request that is sent. It is
  read as it is, with no line passed over: with this start line, under this key, and with
  the headers it should have, of which the last is a number in decimal.
* So it is with the `HOST` header of either group put first, which can be done for both.
* Whatever a control point does, and in whichever state, what it sends is a request that is
  put together so from the waiting time of a locator. -/
theorem searches_well_formed [UrlParser] {ν : Type} :
    Monotone searchTime ∧
    (∀ wait : Duration,
      ((searchTime wait).toNanos : Int) = max (nanosPerSec : Int) (wait.toNanos - nanosPerSec) ∧
      searchTimeOrPanic wait = .ok (searchTime wait) ∧
      searchRequestOrPanic wait = .ok (searchRequest wait) ∧
      Message.read? (searchRequest wait).toBytes = .ok ⟨searchRequest wait, []⟩ ∧
      (searchRequest wait).IsSearch wait ∧
      ∀ via, ∃ bytes m, hostedBytes (searchRequest wait) (groupOf via) = .ok bytes ∧
        Message.read? bytes = .ok ⟨m, []⟩ ∧ m.IsSearch wait ∧
        m.headers.get? "HOST".toList = some (hostText via)) ∧
    ∀ (c : ControlPoint ν) (task : Task ν) (id : LocatorId) (m : Message),
      .sent id m ∈ (c.perform task).journal →
        ∃ l, c.locator? id = some l ∧ searchRequestOrPanic l.config.searchWait = .ok m := by
  refine ⟨monotone_searchTime, fun wait => ?_, fun c task id m hsent => ?_⟩
  · have hcanonical := canonical_searchRequest wait
    refine ⟨toNanos_searchTime wait, searchTimeOrPanic_eq wait, searchRequestOrPanic_eq wait,
      hcanonical.read_back, isSearch_searchRequest wait, fun via => ?_⟩
    have hnew : ¬(searchRequest wait).headers.contains "HOST".toList = true := by
      rw [Headers.contains_iff_mem_keys]
      show ¬_ ∈ ["ST".toList, "MAN".toList, "MX".toList].map Text.foldCase
      decide
    refine ⟨_, _, Message.hostedBytes_eq hcanonical.sound via,
      (Message.canonical_hosted hcanonical.sound hcanonical.trim via).read_back,
      (isSearch_searchRequest wait).hosted hnew via, ?_⟩
    rw [Message.get?_hosted hnew, if_pos (by decide)]
  · obtain ⟨-, l, hl, rfl⟩ := (shows_perform c task).of_sent_mem hsent
    exact ⟨l, hl, searchRequestOrPanic_eq _⟩

theorem secs_longestWait : 0xffffffffffffffff < 0x10000000000000000 := by
  decide

theorem nanos_longestWait : 999999999 < nanosPerSec := by
  decide

/-- The longest time that a locator can be prepared to wait. -/
def longestWait : Duration :=
  ⟨0xffffffffffffffff, 999999999, secs_longestWait, nanos_longestWait⟩

/-- A control point with a locator that waits so long. -/
def patient : ControlPoint Unit where
  notes := ()
  slots := [⟨{ config := { LocatorConfig.forAll with searchWait := longestWait } }, fun _ => .done⟩]

attribute [local instance] UrlParser.verbatim

/-- Devices have `2 ^ 64 - 2` seconds to answer its search, and read so in what goes out to a
group; where a nanosecond is missing to a wait of two seconds, they have one. -/
theorem patient_well_formed :
    let short : Duration := ⟨1, 999999999, by decide, by decide⟩
    short ≤ .ofSecs 2 ∧ searchTime short ≤ searchTime (.ofSecs 2) ∧ short < .ofSecs 2 ∧
    (searchRequest short).headers.get? "MX".toList = some "1".toList ∧
    Duration.ofSecs 2 ≤ longestWait ∧
    (∃ bytes m, hostedBytes (searchRequest longestWait) (groupOf (.v6 .loopback)) = .ok bytes ∧
      Message.read? bytes = .ok ⟨m, []⟩ ∧
      m.headers.get? "HOST".toList = some "[ff02::c]:1900".toList ∧
      m.headers.get? "MX".toList = some "18446744073709551614".toList) ∧
    .sent 0 (searchRequest longestWait) ∈ (patient.perform (.broadcast 0)).journal ∧
    ∃ l, patient.locator? 0 = some l ∧
      searchRequestOrPanic l.config.searchWait = .ok (searchRequest longestWait) := by
  intro short
  obtain ⟨hmono, hall, hbuilt⟩ := searches_well_formed (ν := Unit)
  have hshort : short < .ofSecs 2 := Duration.lt_iff_isShorter.2 (by decide)
  have hlong : Duration.ofSecs 2 ≤ longestWait := Duration.le_iff.2 (by decide)
  have hsent : .sent 0 (searchRequest longestWait) ∈ (patient.perform (.broadcast 0)).journal :=
    List.mem_singleton.2 rfl
  refine ⟨hshort.le, hmono hshort.le, hshort, ?_, hlong, ?_, hsent, hbuilt _ _ _ _ hsent⟩
  · obtain ⟨-, -, -, -, hsearch, -⟩ := hall short
    obtain ⟨mx, s, hget, hdecimal, -, hone, -⟩ := hsearch.time
    rw [hget, hdecimal.eq_decimal, hone hshort]
    rfl
  · obtain ⟨-, -, -, -, -, hgroups⟩ := hall longestWait
    obtain ⟨bytes, m, hbytes, hread, hsearch, hhost⟩ := hgroups (.v6 .loopback)
    obtain ⟨mx, s, hget, hdecimal, -, -, hbounds⟩ := hsearch.time
    have hseconds : s = 18446744073709551614 := by
      have hwait : longestWait.toNanos = 18446744073709551615999999999 := rfl
      have hfits := hbounds hlong
      simp only [hwait, nanosPerSec] at hfits
      omega
    refine ⟨bytes, m, hbytes, hread, hhost, ?_⟩
    rw [hget, hdecimal.eq_decimal, hseconds]
    decide +kernel

end Ssdp
