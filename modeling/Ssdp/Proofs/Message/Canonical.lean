import Ssdp.Proofs.Message.RoundTrip

/-!
# Canonical messages

A message is canonical if it has nothing to trim, its headers can be written, and
no name is there twice. These are the messages that datagrams are read as, and no
others; and a canonical message is the only one that is read from its bytes.

* `Message.canonical_mk`: a message is canonical if its parts are;
* `Header.fault?_of_ofLine?`, `Headers.told_sound`: the headers that lines tell of
  are trimmed and can be written;
* `Message.Canonical.read_back`: a canonical message is read again as it was, and
  no line is passed over;
* `Message.exists_read?_iff`: a message is canonical if and only if some datagram is
  read as it;
* `Message.read?_toBytes_of_read?`: reading, writing and reading again.
-/

namespace Ssdp

/-- A message that is read from what it is written as: there is nothing to trim, its
headers can be written, and no name is there twice. -/
structure Message.Canonical (m : Message) : Prop where
  trim : m.IsTrim
  sound : m.headers.Sound

/-- A message is canonical if its start line and its headers have nothing to trim, the headers
can be written, and their names are different. -/
theorem Message.canonical_mk {line : Text} {headers : List Header}
    (hline : line ≠ [] ∧ '\n' ∉ line ∧ Text.trim line = line)
    (hheaders : ∀ e ∈ headers, Headers.fault? e.name e.value = none ∧
      Text.trim e.name = e.name ∧ Text.trim e.value = e.value)
    (hdistinct : (headers.map Header.key).Nodup) : Canonical ⟨line, ⟨headers⟩⟩ where
  trim := ⟨hline.1, hline.2.1, hline.2.2, fun e he => (hheaders e he).2⟩
  sound := ⟨fun e he => (hheaders e he).1, hdistinct⟩

/-! ## What lines tell of -/

/-- A header that a line tells of can be written, and has nothing to trim. -/
theorem Header.fault?_of_ofLine? {line : Text} {e : Header} (hlf : '\n' ∉ line)
    (h : ofLine? line = some e) : Headers.fault? e.name e.value = none ∧ e.trim = e := by
  obtain ⟨before, after, rfl, hcolon, rfl, hvalid⟩ := ofLine?_eq_some_iff.1 h
  refine ⟨(Headers.fault?_trim_eq_none_iff hcolon hlf).2 hvalid, ?_⟩
  rw [Header.trim, Text.trim_trim, Text.trim_trim]

namespace Headers

theorem told_sound {ls : List Text} (hlf : ∀ line ∈ ls, '\n' ∉ line) :
    ∀ e ∈ told ls, fault? e.name e.value = none ∧ e.trim = e := by
  intro e he
  obtain ⟨line, hline, htold⟩ := List.mem_filterMap.1 he
  exact Header.fault?_of_ofLine? (hlf line (List.takeWhile_subset _ hline)) htold

/-- Placing headers that can be written one after the other gives sound headers. -/
theorem sound_placeAll {hs : List Header} (h : ∀ e ∈ hs, fault? e.name e.value = none) :
    Sound ⟨placeAll [] hs⟩ where
  valid e he := by
    rcases mem_placeAll he with he | he
    · exact (List.not_mem_nil he).elim
    · exact h e he
  distinct := nodup_keys_placeAll List.nodup_nil

/-- Where headers are written that have no blank name, no line is passed over. -/
theorem read_lines_snd (h : Headers) {es : List Header}
    (hes : ∀ e ∈ es, fault? e.name e.value = none ∧ ¬Text.isBlank e.name = true) :
    (h.read (es.map Header.line ++ [[]])).2 = [] := by
  induction es generalizing h with
  | nil => rfl
  | cons e rest ih =>
    obtain ⟨⟨hfault, hblank⟩, hrest⟩ := List.forall_mem_cons.1 hes
    have hsplit : Text.splitAtFirst ':' e.line = some (e.name, ' ' :: e.value) :=
      Text.splitAtFirst_eq_some_iff.2 ⟨rfl, (fault?_eq_none_iff.1 hfault).2.1⟩
    have hspace : Text.trim (' ' :: e.value) = Text.trim e.value :=
      Text.trim_cons_of_blank (by decide) e.value
    have hinsert : fault? (Text.trim e.name) (Text.trim e.value) = none :=
      fault?_trim hfault hblank
    rw [List.map_cons, List.cons_append, read, if_neg e.isBlank_line, hsplit]
    simp only [hspace, insert, hinsert]
    exact ih _ hrest

end Headers

/-! ## What is read -/

namespace Message

variable {m : Message}

/-- Whatever a text is read as is canonical. -/
theorem canonical_of_readText? {t : Text} {reading : Reading}
    (h : readText? t = .ok reading) : reading.message.Canonical := by
  obtain ⟨first, rest, hsplit, hblank, hstart⟩ := exists_of_readText?_eq_ok h
  obtain ⟨skipped, hread⟩ := readText?_of_splitsInto hsplit hblank
  obtain rfl := Except.ok.inj (hread.symm.trans h)
  have htold := Headers.told_sound (List.forall_mem_cons.1 hsplit.lf_not_mem).2
  refine ⟨⟨?_, lf_not_mem_startLine h, Text.trim_trim first, fun e he => ?_⟩, ?_⟩
  · exact fun hnil => hblank (Text.isBlank_eq_true_iff_trim.2 hnil)
  · rcases Headers.mem_placeAll he with he | he
    · exact (List.not_mem_nil he).elim
    · have htrim : e.trim = e := (htold e he).2
      exact ⟨congrArg Header.name htrim, congrArg Header.value htrim⟩
  · exact Headers.sound_placeAll fun e he => (htold e he).1

theorem canonical_of_read? {datagram : ByteArray} {reading : Reading}
    (h : read? datagram = .ok reading) : reading.message.Canonical := by
  unfold read? at h
  split at h
  · cases h
  · exact canonical_of_readText? h

/-- A canonical message is read again as it was, and no line is passed over. -/
theorem Canonical.read_back (h : m.Canonical) : read? m.toBytes = .ok ⟨m, []⟩ := by
  have hblank : ¬Text.isBlank m.startLine = true := by
    rw [Text.isBlank_eq_true_iff_trim, h.trim.startLine]
    exact h.trim.nonempty
  have hnames : ∀ e ∈ m.headers.entries,
      Headers.fault? e.name e.value = none ∧ ¬Text.isBlank e.name = true := by
    intro e he
    have hfault := h.sound.valid e he
    refine ⟨hfault, ?_⟩
    rw [Text.isBlank_eq_true_iff_trim, (h.trim.headers e he).1]
    exact (Headers.fault?_eq_none_iff.1 hfault).1
  obtain ⟨skipped, hread⟩ := h.trim.readText?_encode h.sound
  have hskipped : skipped = [] := by
    have hlines := hread
    simp only [readText?, lines_encode h.sound h.trim.lf_not_mem, if_neg hblank] at hlines
    have hreading : _ = skipped := congrArg Reading.skipped (Except.ok.inj hlines)
    exact hreading.symm.trans (Headers.read_lines_snd _ hnames)
  rw [toBytes, read?_toUTF8, hread, hskipped]

/-- A message is canonical if and only if some datagram is read as it. -/
theorem exists_read?_iff :
    (∃ datagram reading, read? datagram = .ok reading ∧ reading.message = m) ↔ m.Canonical := by
  constructor
  · rintro ⟨datagram, reading, hread, rfl⟩
    exact canonical_of_read? hread
  · intro h
    exact ⟨m.toBytes, ⟨m, []⟩, h.read_back, rfl⟩

/-- Canonical messages that are written as the same bytes are the same. -/
theorem Canonical.toBytes_inj {m' : Message} (h : m.Canonical) (h' : m'.Canonical) :
    m.toBytes = m'.toBytes ↔ m = m' := by
  constructor
  · intro hbytes
    have hread := h.read_back
    rw [hbytes, h'.read_back] at hread
    exact (congrArg Reading.message (Except.ok.inj hread)).symm
  · exact congrArg toBytes

/-- Reading, writing and reading again. What a datagram was read as is written as bytes
that are read as the very same message, without a line that is passed over; so it is
written as the same bytes again, and is dispatched under the same key. Two datagrams
are read as the same message if and only if what they were read as is written as the
same bytes. -/
theorem read?_toBytes_of_read? {datagram : ByteArray} {reading : Reading}
    (h : read? datagram = .ok reading) :
    (∃ reading', read? reading.message.toBytes = .ok reading' ∧
      reading'.message = reading.message ∧ reading'.skipped = [] ∧
      reading'.message.toBytes = reading.message.toBytes ∧
      reading'.message.routeKey = reading.message.routeKey) ∧
    ∀ datagram' reading', read? datagram' = .ok reading' →
      (reading.message = reading'.message ↔
        reading.message.toBytes = reading'.message.toBytes) := by
  have hcanonical : reading.message.Canonical := canonical_of_read? h
  refine ⟨⟨⟨reading.message, []⟩, hcanonical.read_back, rfl, rfl, rfl, rfl⟩, ?_⟩
  intro datagram' reading' h'
  exact (hcanonical.toBytes_inj (canonical_of_read? h')).symm

/-- A datagram with a carriage return within its start line, a line that is passed over
and a name that comes twice; its message is that of a tidier datagram. -/
theorem read?_untidy :
    let untidy : Text := " A\rB \r\nx: 1\r\nno colon\r\nX :\t2\n\nrest".toList
    let tidy : Text := "A\rB\nX:2".toList
    ∃ reading reading', read? untidy.utf8Encode = .ok reading ∧
      read? tidy.utf8Encode = .ok reading' ∧ reading.skipped.length = 1 ∧
      reading.message.toBytes = reading'.message.toBytes ∧
      read? reading.message.toBytes = .ok ⟨reading'.message, []⟩ := by
  intro untidy tidy
  have huntidy : read? untidy.utf8Encode = .ok
      ⟨⟨"A\rB".toList, ⟨[⟨"X".toList, "2".toList⟩]⟩⟩, [.withoutColon "no colon".toList]⟩ := by
    rw [read?_utf8Encode]
    rfl
  have htidy : read? tidy.utf8Encode = .ok
      ⟨⟨"A\rB".toList, ⟨[⟨"X".toList, "2".toList⟩]⟩⟩, []⟩ := by
    rw [read?_utf8Encode]
    rfl
  obtain ⟨⟨reading', hread, hmessage, hskipped, -⟩, hbytes⟩ := read?_toBytes_of_read? huntidy
  refine ⟨_, _, huntidy, htidy, rfl, (hbytes _ _ htidy).1 rfl, hread.trans ?_⟩
  exact congrArg Except.ok (congrArg₂ Reading.mk hmessage hskipped)

end Message

end Ssdp
