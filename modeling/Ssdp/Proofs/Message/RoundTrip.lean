import Mathlib
import Ssdp.Message.Printer
import Ssdp.Proofs.Message.Grammar

/-!
# Writing and reading messages

A message that is written and read again comes back trimmed: its start line, and
the names and the values of its headers, of which those with a blank name are
lost. It comes back equal if there was nothing to trim, and then it comes back
as it was.

* `Message.lines_encode`: the lines that a message is written on;
* `Message.told_lines`: the headers that they tell of;
* `Headers.trimmed_of_agree`: where trimmed headers agree with those they are
  taken from, there was nothing to trim;
* `Message.read?_toBytes`: what is read of a message that was written.
-/

namespace Ssdp

/-- The header with its name and its value trimmed. -/
def Header.trim (e : Header) : Header :=
  ⟨Text.trim e.name, Text.trim e.value⟩

/-- The line of a header, without its end. -/
def Header.line (e : Header) : Text :=
  e.name ++ ':' :: ' ' :: e.value

/-- The headers whose names are not blank, trimmed. -/
def Headers.trimmed (h : Headers) : List Header :=
  (h.entries.filter fun e => !Text.isBlank e.name).map Header.trim

/-- A message that trimming leaves as it is: its start line is neither empty nor
has a line feed, and it has no blanks at either end, nor do its headers. -/
structure Message.IsTrim (m : Message) : Prop where
  nonempty : m.startLine ≠ []
  lf_not_mem : '\n' ∉ m.startLine
  startLine : Text.trim m.startLine = m.startLine
  headers : ∀ e ∈ m.headers.entries, Text.trim e.name = e.name ∧ Text.trim e.value = e.value

/-! ## What is written -/

theorem Text.lines_append_crlf {s : Text} (h : '\n' ∉ s) (t : Text) :
    lines (s ++ lineEnd ++ t) = s :: lines t := by
  have hcr : '\n' ∉ s ++ ['\r'] := by simp [h]
  have hsplit : s ++ lineEnd ++ t = s ++ ['\r'] ++ '\n' :: t := by simp [lineEnd]
  rw [hsplit, lines_append_lf hcr, chomp_append_cr]

/-- The lines that headers are written on. -/
theorem lines_flatMap_encode {es : List Header}
    (h : ∀ e ∈ es, Headers.fault? e.name e.value = none) (t : Text) :
    Text.lines (es.flatMap Header.encode ++ t) = es.map Header.line ++ Text.lines t := by
  induction es with
  | nil => rfl
  | cons e rest ih =>
    obtain ⟨he, hrest⟩ := List.forall_mem_cons.1 h
    obtain ⟨-, -, ⟨-, hname⟩, -, hvalue⟩ := Headers.fault?_eq_none_iff.1 he
    have hline : '\n' ∉ e.line := by simp [Header.line, hname, hvalue]
    have hencode : e.encode = e.line ++ lineEnd := by simp [Header.encode, Header.line]
    rw [List.flatMap_cons, hencode, List.append_assoc, Text.lines_append_crlf hline, ih hrest]
    rfl

/-- A message is written on a line for its start line, one for each header, and an
empty one. -/
theorem Message.lines_encode {m : Message} (hm : m.headers.Sound) (h : '\n' ∉ m.startLine) :
    Text.lines m.encode = m.startLine :: (m.headers.entries.map Header.line ++ [[]]) := by
  have hend : Text.lines lineEnd = [[]] := by decide
  rw [encode, List.append_assoc, Text.lines_append_crlf h, lines_flatMap_encode hm.valid, hend]

/-! ## What its lines tell of -/

theorem Header.isBlank_line (e : Header) : ¬Text.isBlank e.line = true := by
  intro h
  have hcolon : isBlankChar ':' = true := Text.isBlank_iff.1 h ':' (by simp [line])
  revert hcolon
  decide

/-- The line of a header that can be written tells of it trimmed, unless its name is
blank. -/
theorem Header.ofLine?_line {e : Header} (h : Headers.fault? e.name e.value = none) :
    ofLine? e.line = if Text.isBlank e.name then none else some e.trim := by
  obtain ⟨-, hcolon, ⟨hname, -⟩, hvalue, -⟩ := Headers.fault?_eq_none_iff.1 h
  have hsplit : Text.splitAtFirst ':' e.line = some (e.name, ' ' :: e.value) :=
    Text.splitAtFirst_eq_some_iff.2 ⟨rfl, hcolon⟩
  have hspace : Text.trim (' ' :: e.value) = Text.trim e.value :=
    Text.trim_cons_of_blank (by decide) e.value
  have hname' : '\r' ∉ Text.trim e.name := fun h => hname (Text.mem_of_mem_trim h)
  have hvalue' : '\r' ∉ Text.trim e.value := fun h => hvalue (Text.mem_of_mem_trim h)
  simp only [ofLine?, hsplit, Option.bind_some, hspace, hname', hvalue', not_false_eq_true,
    and_true]
  by_cases hblank : Text.trim e.name = []
  · rw [if_neg (not_not_intro hblank), if_pos (Text.isBlank_eq_true_iff_trim.2 hblank)]
  · rw [if_pos hblank, if_neg (mt Text.isBlank_eq_true_iff_trim.1 hblank)]
    rfl

theorem told_lines {es : List Header} (h : ∀ e ∈ es, Headers.fault? e.name e.value = none) :
    Headers.told (es.map Header.line ++ [[]]) = (Headers.mk es).trimmed := by
  induction es with
  | nil => rfl
  | cons e rest ih =>
    obtain ⟨he, hrest⟩ := List.forall_mem_cons.1 h
    rw [List.map_cons, List.cons_append, Headers.told_cons e.isBlank_line, ih hrest,
      Header.ofLine?_line he]
    cases hblank : Text.isBlank e.name <;> simp [Headers.trimmed, hblank]

/-! ## What trimming does to headers -/

namespace Headers

theorem fault?_trim {e : Header} (h : fault? e.name e.value = none)
    (hblank : ¬Text.isBlank e.name = true) : fault? e.trim.name e.trim.value = none := by
  obtain ⟨-, hcolon, ⟨hnameCr, hnameLf⟩, hvalueCr, hvalueLf⟩ := fault?_eq_none_iff.1 h
  exact fault?_eq_none_iff.2 ⟨mt Text.isBlank_eq_true_iff_trim.2 hblank,
    fun h => hcolon (Text.mem_of_mem_trim h),
    ⟨fun h => hnameCr (Text.mem_of_mem_trim h), fun h => hnameLf (Text.mem_of_mem_trim h)⟩,
    fun h => hvalueCr (Text.mem_of_mem_trim h), fun h => hvalueLf (Text.mem_of_mem_trim h)⟩

/-- Trimmed headers can be inserted one after the other. -/
theorem insertAll_trimmed {h : Headers} (hs : h.Sound) :
    empty.insertAll (h.trimmed.map fun e => (e.name, e.value)) =
      .ok ⟨placeAll [] h.trimmed⟩ := by
  rw [insertAll_eq, map_pairs]
  · rfl
  · refine List.forall_mem_map.2 fun e he => ?_
    obtain ⟨e', he', rfl⟩ := List.mem_map.1 he
    obtain ⟨hmem, hblank⟩ := List.mem_filter.1 he'
    exact fault?_trim (hs.valid e' hmem) (by simpa using hblank)

theorem agree_iff {a b : Headers} : a.agree b = true ↔
    a.entries.length = b.entries.length ∧ ∀ e ∈ a.entries, b.get? e.name = some e.value := by
  simp [agree, size]

theorem Sound.get?_of_mem {h : Headers} (hs : h.Sound) {e : Header} (he : e ∈ h.entries) :
    h.get? e.name = some e.value := by
  rw [get?_eq, find_of_mem hs.distinct he]
  rfl

theorem Sound.agree_refl {h : Headers} (hs : h.Sound) : h.agree h = true :=
  agree_iff.2 ⟨rfl, fun _ he => hs.get?_of_mem he⟩

/-- A name that is found is the name of a header. -/
theorem key_mem_of_get? {h : Headers} {name value : Text} (hv : h.get? name = some value) :
    Text.foldCase name ∈ h.entries.map Header.key := by
  obtain ⟨e, he, -⟩ := Option.map_eq_some_iff.1 hv
  have hsame : Text.sameName e.name name = true := by simpa using List.find?_some he
  exact List.mem_map.2 ⟨e, List.mem_of_find?_eq_some he, sameName_iff_key.1 hsame⟩

theorem length_key (e : Header) : e.key.length = e.name.length :=
  List.length_map _

theorem sum_length_trim_le (es : List Header) :
    (es.map fun e => (Text.trim e.name).length).sum ≤ (es.map fun e => e.name.length).sum := by
  induction es with
  | nil => exact Nat.le_refl 0
  | cons e rest ih =>
    have hle : (Text.trim e.name).length ≤ e.name.length := Text.length_trim_le e.name
    simp only [List.map_cons, List.sum_cons]
    omega

/-- If the names are as long on the whole after trimming as before, each of them is. -/
theorem length_trim_of_sum {es : List Header}
    (h : (es.map fun e => (Text.trim e.name).length).sum = (es.map fun e => e.name.length).sum) :
    ∀ e ∈ es, (Text.trim e.name).length = e.name.length := by
  induction es with
  | nil => exact fun e he => (List.not_mem_nil he).elim
  | cons e rest ih =>
    have hle : (Text.trim e.name).length ≤ e.name.length := Text.length_trim_le e.name
    have hrest := sum_length_trim_le rest
    simp only [List.map_cons, List.sum_cons] at h
    refine List.forall_mem_cons.2 ⟨by omega, ih (by omega)⟩

/-- Where trimmed headers are as many as those they are taken from and each is found
among these, their names are the same but for their order. -/
theorem perm_of_agree {h : Headers} (hagree : Headers.agree ⟨placeAll [] h.trimmed⟩ h = true) :
    (h.trimmed.map Header.key).Perm (h.entries.map Header.key) ∧
      (h.entries.filter fun e => !Text.isBlank e.name) = h.entries := by
  obtain ⟨hlength, hfound⟩ := agree_iff.1 hagree
  have hdistinct : ((placeAll [] h.trimmed).map Header.key).Nodup :=
    nodup_keys_placeAll List.nodup_nil
  have hkept : (h.entries.filter fun e => !Text.isBlank e.name).length ≤ h.entries.length :=
    List.length_filter_le _ _
  have htrimmed : h.trimmed.length =
      (h.entries.filter fun e => !Text.isBlank e.name).length := List.length_map _
  have hsubset : (placeAll [] h.trimmed).map Header.key ⊆ h.trimmed.map Header.key := by
    intro k hk
    obtain ⟨e, he, rfl⟩ := List.mem_map.1 hk
    rcases mem_placeAll he with he | he
    · exact (List.not_mem_nil he).elim
    · exact List.mem_map_of_mem he
  have hsubset' : (placeAll [] h.trimmed).map Header.key ⊆ h.entries.map Header.key := by
    intro k hk
    obtain ⟨e, he, rfl⟩ := List.mem_map.1 hk
    exact key_mem_of_get? (hfound e he)
  have hfew : h.trimmed.length ≤ (placeAll [] h.trimmed).length := by
    change (placeAll [] h.trimmed).length = h.entries.length at hlength
    omega
  have hplaced := (List.subperm_of_subset hdistinct hsubset).perm_of_length_le
    (by rw [List.length_map, List.length_map]; exact hfew)
  have hplaced' := (List.subperm_of_subset hdistinct hsubset').perm_of_length_le
    (by rw [List.length_map, List.length_map]; exact hlength.ge)
  refine ⟨hplaced.symm.trans hplaced', List.filter_sublist.eq_of_length ?_⟩
  have hmany := hplaced.length_eq
  simp only [List.length_map] at hmany
  change (placeAll [] h.trimmed).length = h.entries.length at hlength
  omega

/-- Where trimmed headers agree with those they are taken from, there was nothing to
trim. -/
theorem trimmed_of_agree {h : Headers} (hs : h.Sound)
    (hagree : Headers.agree ⟨placeAll [] h.trimmed⟩ h = true) :
    ∀ e ∈ h.entries, Text.trim e.name = e.name ∧ Text.trim e.value = e.value := by
  obtain ⟨hperm, hkept⟩ := perm_of_agree hagree
  have htrimmed : h.trimmed = h.entries.map Header.trim := by rw [trimmed, hkept]
  -- The names are the same, so they have the same length on the whole: no blank was lost.
  have hname : ∀ e ∈ h.entries, Text.trim e.name = e.name := by
    have hsum := (hperm.map List.length).sum_nat
    simp only [htrimmed, List.map_map] at hsum
    intro e he
    refine Text.trim_eq_of_length_eq (length_trim_of_sum ?_ e he)
    simpa [Function.comp_def, Header.trim, length_key] using hsum
  have hall : placeAll [] h.trimmed = h.trimmed :=
    placeAll_of_distinct (hperm.nodup_iff.2 hs.distinct)
  intro e he
  have hfound := (agree_iff.1 hagree).2 e.trim (by
    show e.trim ∈ placeAll [] h.trimmed
    rw [hall, htrimmed]
    exact List.mem_map_of_mem he)
  have hvalue : h.get? (Text.trim e.name) = some (Text.trim e.value) := hfound
  rw [hname e he, hs.get?_of_mem he] at hvalue
  exact ⟨hname e he, (Option.some.inj hvalue).symm⟩

/-- Headers that have nothing to trim are trimmed to themselves. -/
theorem placeAll_trimmed {h : Headers} (hs : h.Sound)
    (htrim : ∀ e ∈ h.entries, Text.trim e.name = e.name ∧ Text.trim e.value = e.value) :
    placeAll [] h.trimmed = h.entries := by
  have hkept : (h.entries.filter fun e => !Text.isBlank e.name) = h.entries := by
    refine List.filter_eq_self.2 fun e he => ?_
    have hne : e.name ≠ [] := (fault?_eq_none_iff.1 (hs.valid e he)).1
    simpa [Text.isBlank, (htrim e he).1] using hne
  have hsame : h.entries.map Header.trim = h.entries := by
    refine (List.map_congr_left fun e he => ?_).trans (List.map_id _)
    rw [Header.trim, (htrim e he).1, (htrim e he).2]
    rfl
  rw [trimmed, hkept, hsame]
  exact placeAll_of_distinct hs.distinct

end Headers

/-! ## What is read again -/

namespace Message

variable {m : Message}

theorem agree_iff {a b : Message} :
    a.agree b = true ↔ a.startLine = b.startLine ∧ a.headers.agree b.headers = true := by
  simp [agree]

/-- A message with a start line that fits on a line is read again, trimmed. -/
theorem readText?_encode (hs : m.headers.Sound) (hlf : '\n' ∉ m.startLine)
    (hblank : ¬Text.isBlank m.startLine = true) : ∃ skipped, readText? m.encode =
      .ok ⟨⟨Text.trim m.startLine, ⟨Headers.placeAll [] m.headers.trimmed⟩⟩, skipped⟩ := by
  have hsplit : Text.SplitsInto m.encode
      (m.startLine :: (m.headers.entries.map Header.line ++ [[]])) :=
    Text.splitsInto_iff.2 (lines_encode hs hlf)
  have hread := readText?_of_splitsInto hsplit hblank
  rwa [told_lines hs.valid] at hread

/-- What comes back equal had nothing to trim, and comes back as it was. -/
theorem isTrim_of_agree (hs : m.headers.Sound) {reading : Reading}
    (hread : readText? m.encode = .ok reading) (hagree : reading.message.agree m = true) :
    m.IsTrim ∧ reading.message = m := by
  obtain ⟨hstart, hheaders⟩ := agree_iff.1 hagree
  have hlf : '\n' ∉ m.startLine := hstart ▸ lf_not_mem_startLine hread
  have hblank : ¬Text.isBlank m.startLine = true := by
    obtain ⟨first, rest, hsplit, hblank, -⟩ := exists_of_readText?_eq_ok hread
    rw [Text.splitsInto_iff, lines_encode hs hlf] at hsplit
    rwa [(List.cons.inj hsplit).1]
  obtain ⟨skipped, hread'⟩ := readText?_encode hs hlf hblank
  obtain rfl := Except.ok.inj (hread'.symm.trans hread)
  have htrim := Headers.trimmed_of_agree hs hheaders
  refine ⟨⟨?_, hlf, hstart, htrim⟩, ?_⟩
  · intro hnil
    rw [hnil] at hblank
    exact hblank rfl
  · rw [Headers.placeAll_trimmed hs htrim]
    exact congrArg (fun line => Message.mk line m.headers) hstart

/-- What had nothing to trim comes back as it was. -/
theorem IsTrim.readText?_encode (h : m.IsTrim) (hs : m.headers.Sound) :
    ∃ skipped, readText? m.encode = .ok ⟨m, skipped⟩ := by
  have hblank : ¬Text.isBlank m.startLine = true := by
    rw [Text.isBlank_eq_true_iff_trim, h.startLine]
    exact h.nonempty
  obtain ⟨skipped, hread⟩ := Message.readText?_encode hs h.lf_not_mem hblank
  rw [Headers.placeAll_trimmed hs h.headers, h.startLine] at hread
  exact ⟨skipped, hread⟩

/-- Writing and reading. A message is read again if its start line has no line feed
and is not blank; then its start line and its headers come back trimmed, without
those of a blank name, as if these had been inserted in order. It comes back equal if
and only if there was nothing to trim, and then it comes back as it was. -/
theorem read?_toBytes (hb : m.headers.Built) :
    ('\n' ∉ m.startLine → (∃ c ∈ m.startLine, isBlankChar c = false) →
      ∃ reading, read? m.toBytes = .ok reading ∧
        reading.message.startLine = Text.trim m.startLine ∧
        Headers.empty.insertAll (m.headers.trimmed.map fun e => (e.name, e.value)) =
          .ok reading.message.headers) ∧
    ((∃ reading, read? m.toBytes = .ok reading ∧ reading.message.agree m = true) ↔ m.IsTrim) ∧
    ∀ reading, read? m.toBytes = .ok reading → reading.message.agree m = true →
      reading.message = m := by
  have hs : m.headers.Sound := hb.sound
  simp only [toBytes, read?_toUTF8]
  refine ⟨fun hlf hfirst => ?_, ⟨?_, fun h => ?_⟩, fun reading hread hagree => ?_⟩
  · obtain ⟨skipped, hread⟩ := readText?_encode hs hlf (Text.not_isBlank_iff.2 hfirst)
    exact ⟨_, hread, rfl, Headers.insertAll_trimmed hs⟩
  · rintro ⟨reading, hread, hagree⟩
    exact (isTrim_of_agree hs hread hagree).1
  · obtain ⟨skipped, hread⟩ := h.readText?_encode hs
    exact ⟨_, hread, agree_iff.2 ⟨rfl, hs.agree_refl⟩⟩
  · exact (isTrim_of_agree hs hread hagree).2

/-- A message with a header. -/
def plain : Message :=
  ⟨"NOTIFY".toList, ⟨[⟨"A".toList, "1".toList⟩]⟩⟩

/-- The same with a second header, of the same name but for its case and a blank. -/
def padded : Message :=
  ⟨"NOTIFY".toList, ⟨[⟨"A".toList, "1".toList⟩, ⟨" a".toList, "2 ".toList⟩]⟩⟩

theorem read?_toBytes_padded :
    (∃ reading, read? plain.toBytes = .ok reading ∧ reading.message = plain) ∧
      (∃ reading, read? padded.toBytes = .ok reading ∧
        reading.message.headers = ⟨[⟨"a".toList, "2".toList⟩]⟩) ∧
      ¬∃ reading, read? padded.toBytes = .ok reading ∧ reading.message.agree padded = true := by
  have hinsert : Headers.empty.insert "A".toList "1".toList = .ok (plain.headers, none) := rfl
  have hinsert' : plain.headers.insert " a".toList "2 ".toList = .ok (padded.headers, none) := rfl
  have hplain : plain.headers.Built := .insert .empty hinsert
  have hpadded : padded.headers.Built := .insert hplain hinsert'
  have htrim : plain.IsTrim := ⟨by decide, by decide, by decide, by decide⟩
  refine ⟨?_, ?_, fun hagree => ?_⟩
  · obtain ⟨reading, hread, hagree⟩ := (read?_toBytes hplain).2.1.2 htrim
    exact ⟨reading, hread, (read?_toBytes hplain).2.2 reading hread hagree⟩
  · obtain ⟨reading, hread, -, hheaders⟩ :=
      (read?_toBytes hpadded).1 (by decide) ⟨'N', by decide, by decide⟩
    exact ⟨reading, hread, (Except.ok.inj hheaders).symm⟩
  · have hpadding := ((read?_toBytes hpadded).2.1.1 hagree).headers
    revert hpadding
    decide

end Message

end Ssdp
