import Ssdp.Message.Parser
import Ssdp.Proofs.Message.Headers
import Ssdp.Proofs.Text.Lines
import Ssdp.Proofs.Text.Trim

/-!
# The grammar of messages

What reading accepts, told without its loop: which lines tell of a header, and
what the headers of a message are, given those that its lines tell of.

* `Header.ofLine?`, `Header.ofLine?_eq_some_iff`: the header that a line tells of;
* `Headers.DeterminedBy`: how the headers of a message follow from such headers;
* `Headers.read_eq`: reading places the headers that the lines tell of;
* `Message.read?_grammar`: what any datagram is read as.
-/

namespace Ssdp

/-- The header that a line tells of: its name and its value are the trimmed texts
before and after the first colon, of which the name is not empty, and neither has a
carriage return. -/
def Header.ofLine? (line : Text) : Option Header :=
  (Text.splitAtFirst ':' line).bind fun (before, after) =>
    let name := Text.trim before
    let value := Text.trim after
    if name ≠ [] ∧ '\r' ∉ name ∧ '\r' ∉ value then some ⟨name, value⟩ else none

theorem Header.ofLine?_eq_some_iff {line : Text} {e : Header} : ofLine? line = some e ↔
    ∃ before after, line = before ++ ':' :: after ∧ ':' ∉ before ∧
      e = ⟨Text.trim before, Text.trim after⟩ ∧ e.name ≠ [] ∧ '\r' ∉ e.name ∧ '\r' ∉ e.value := by
  simp only [ofLine?, Option.bind_eq_some_iff, Prod.exists, Text.splitAtFirst_eq_some_iff]
  constructor
  · rintro ⟨before, after, ⟨hline, hcolon⟩, h⟩
    split at h
    · rename_i hvalid
      obtain rfl := Option.some.inj h
      exact ⟨before, after, hline, hcolon, rfl, hvalid⟩
    · cases h
  · rintro ⟨before, after, hline, hcolon, rfl, hvalid⟩
    exact ⟨before, after, ⟨hline, hcolon⟩, if_pos hvalid⟩

namespace Headers

/-- The headers that lines tell of, up to the first blank line. -/
def told (ls : List Text) : List Header :=
  (ls.takeWhile fun line => !Text.isBlank line).filterMap Header.ofLine?

/-- The last header with a name. -/
def findLast (name : Text) (hs : List Header) : Option Header :=
  find name hs.reverse

/-- How headers follow from a list of headers: the value under a name is that of the
last with it, and the names stand in the order in which they first come, each
spelled as in the last. -/
structure DeterminedBy (h : Headers) (hs : List Header) : Prop where
  value : ∀ name, h.get? name = (findLast name hs).map (·.value)
  order : h.entries.map Header.key = (hs.map Header.key).eraseDups
  spelling : ∀ e ∈ h.entries, findLast e.name hs = some e

theorem determinedBy_placeAll (hs : List Header) : DeterminedBy ⟨placeAll [] hs⟩ hs where
  value name := by
    rw [get?_eq, find_placeAll_nil]
    rfl
  order := keys_placeAll hs
  spelling _ he := find_reverse_of_mem_placeAll he

theorem told_cons_of_blank {line : Text} (h : Text.isBlank line = true) (rest : List Text) :
    told (line :: rest) = [] := by
  simp [told, h]

theorem told_cons {line : Text} (h : ¬Text.isBlank line = true) (rest : List Text) :
    told (line :: rest) = (Header.ofLine? line).toList ++ told rest := by
  rw [Bool.not_eq_true] at h
  cases hline : Header.ofLine? line <;> simp [told, h, hline]

/-- On a line without a line feed, a header can be inserted if it is told of. -/
theorem fault?_trim_eq_none_iff {before after : Text} (hcolon : ':' ∉ before)
    (hlf : '\n' ∉ before ++ ':' :: after) :
    fault? (Text.trim before) (Text.trim after) = none ↔
      Text.trim before ≠ [] ∧ '\r' ∉ Text.trim before ∧ '\r' ∉ Text.trim after := by
  simp only [List.mem_append, List.mem_cons, not_or] at hlf
  have hname : ':' ∉ Text.trim before := fun h => hcolon (Text.mem_of_mem_trim h)
  have hnameLf : '\n' ∉ Text.trim before := fun h => hlf.1 (Text.mem_of_mem_trim h)
  have hvalueLf : '\n' ∉ Text.trim after := fun h => hlf.2.2 (Text.mem_of_mem_trim h)
  rw [fault?_eq_none_iff]
  exact ⟨fun h => ⟨h.1, h.2.2.1.1, h.2.2.2.1⟩,
    fun h => ⟨h.1, hname, ⟨h.2.1, hnameLf⟩, h.2.2, hvalueLf⟩⟩

/-- Reading lines places the headers that they tell of. -/
theorem read_eq (h : Headers) {ls : List Text} (hlf : ∀ line ∈ ls, '\n' ∉ line) :
    (h.read ls).1 = ⟨placeAll h.entries (told ls)⟩ := by
  induction ls generalizing h with
  | nil => rfl
  | cons line rest ih =>
    obtain ⟨hline, hrest⟩ := List.forall_mem_cons.1 hlf
    by_cases hblank : Text.isBlank line = true
    · rw [read, if_pos hblank, told_cons_of_blank hblank]
      rfl
    · rw [read, if_neg hblank, told_cons hblank]
      cases hsplit : Text.splitAtFirst ':' line with
      | none =>
        have hnone : Header.ofLine? line = none := by rw [Header.ofLine?, hsplit]; rfl
        rw [hnone]
        exact ih h hrest
      | some parts =>
        obtain ⟨before, after⟩ := parts
        obtain ⟨rfl, hcolon⟩ := Text.splitAtFirst_eq_some_iff.1 hsplit
        have hfault := fault?_trim_eq_none_iff hcolon hline
        have htold : Header.ofLine? (before ++ ':' :: after) =
            if fault? (Text.trim before) (Text.trim after) = none then
              some ⟨Text.trim before, Text.trim after⟩
            else none := by
          simp only [Header.ofLine?, hsplit, Option.bind_some, hfault]
        rw [htold]
        simp only [insert]
        cases hfault' : fault? (Text.trim before) (Text.trim after) with
        | none => exact ih _ hrest
        | some error => exact ih h hrest

/-- What follows the first blank line is not read. -/
theorem read_append_blank (h : Headers) (ls : List Text) {blank : Text}
    (hblank : Text.isBlank blank = true) (rest : List Text) :
    h.read (ls ++ blank :: rest) = h.read ls := by
  induction ls generalizing h with
  | nil => simp [read, hblank]
  | cons line ls ih => simp only [List.cons_append, read, ih]

end Headers

/-! ## Datagrams -/

namespace Message

theorem read?_utf8Encode (t : Text) : read? t.utf8Encode = readText? t := by
  simp [read?, List.utf8Decode?_utf8Encode]

theorem read?_eq_notUtf8_iff {datagram : ByteArray} :
    read? datagram = .error .notUtf8 ↔ ¬datagram.IsValidUTF8 := by
  constructor
  · rintro h ⟨t, rfl⟩
    rw [read?_utf8Encode] at h
    unfold readText? at h
    split at h
    · cases h
    · split at h <;> cases h
  · intro h
    rw [← ByteArray.isSome_utf8Decode?_iff, Option.not_isSome_iff_eq_none] at h
    simp [read?, h]

/-- A text without a first line, or with a blank one, has no start line. -/
theorem readText?_eq_missingStartLine_iff {t : Text} :
    readText? t = .error .missingStartLine ↔
      t = [] ∨ ∃ first rest, Text.SplitsInto t (first :: rest) ∧
        ∀ c ∈ first, isBlankChar c = true := by
  simp only [Text.splitsInto_iff, readText?]
  cases h : Text.lines t with
  | nil => simp [Text.lines_eq_nil_iff.1 h]
  | cons first rest =>
    have hne : t ≠ [] := by
      rintro rfl
      cases h
    simp only [hne, false_or, List.cons.injEq]
    by_cases hblank : Text.isBlank first = true
    · rw [if_pos hblank]
      exact ⟨fun _ => ⟨first, rest, ⟨rfl, rfl⟩, Text.isBlank_iff.1 hblank⟩, fun _ => rfl⟩
    · rw [if_neg hblank]
      refine ⟨nofun, ?_⟩
      rintro ⟨first', rest', ⟨rfl, rfl⟩, hall⟩
      exact absurd (Text.isBlank_iff.2 hall) hblank

/-- A text with a first line that is not blank stands for a message. -/
theorem readText?_of_splitsInto {t first : Text} {rest : List Text}
    (h : Text.SplitsInto t (first :: rest)) (hfirst : ¬Text.isBlank first = true) :
    ∃ skipped, readText? t =
      .ok ⟨⟨Text.trim first, ⟨Headers.placeAll [] (Headers.told rest)⟩⟩, skipped⟩ := by
  have hlf : ∀ line ∈ rest, '\n' ∉ line := (List.forall_mem_cons.1 h.lf_not_mem).2
  refine ⟨(Headers.empty.read rest).2, ?_⟩
  simp only [readText?, Text.splitsInto_iff.1 h, if_neg hfirst, Headers.read_eq _ hlf]
  rfl

/-- The start line of a message that was read is a trimmed line. -/
theorem exists_of_readText?_eq_ok {t : Text} {reading : Reading}
    (h : readText? t = .ok reading) : ∃ first rest, Text.SplitsInto t (first :: rest) ∧
      ¬Text.isBlank first = true ∧ reading.message.startLine = Text.trim first := by
  have hsplit : Text.SplitsInto t (Text.lines t) := Text.splitsInto_lines t
  unfold readText? at h
  split at h
  · cases h
  · rename_i first rest hlines
    split at h
    · cases h
    · rename_i hblank
      obtain rfl := Except.ok.inj h
      exact ⟨first, rest, hlines ▸ hsplit, hblank, rfl⟩

/-- No start line that was read holds a line feed. -/
theorem lf_not_mem_startLine {t : Text} {reading : Reading} (h : readText? t = .ok reading) :
    '\n' ∉ reading.message.startLine := by
  obtain ⟨first, rest, hsplit, -, hstart⟩ := exists_of_readText?_eq_ok h
  rw [hstart]
  exact fun hm => hsplit.lf_not_mem first List.mem_cons_self (Text.mem_of_mem_trim hm)

/-- What follows a blank line is not read. -/
theorem readText?_append_blank {before blank : Text}
    (hbefore : before = [] ∨ before.getLast? = some '\n') (hlf : '\n' ∉ blank)
    (hblank : ∀ c ∈ blank, isBlankChar c = true) (after after' : Text) :
    readText? (before ++ blank ++ '\n' :: after) =
      readText? (before ++ blank ++ '\n' :: after') := by
  have hchomp : Text.isBlank (Text.chomp blank) = true :=
    Text.isBlank_iff.2 fun c hc => hblank c (Text.mem_of_mem_chomp hc)
  simp only [readText?, List.append_assoc, Text.lines_append hbefore, Text.lines_append_lf hlf]
  cases Text.lines before with
  | nil => simp [hchomp]
  | cons first rest => simp only [List.cons_append, Headers.read_append_blank _ _ hchomp]

/-- What makes the bytes of a text valid when joined to them is valid itself. -/
theorem isValidUTF8_of_append {t : Text} {bytes : ByteArray}
    (h : (t.utf8Encode ++ bytes).IsValidUTF8) : bytes.IsValidUTF8 := by
  induction t with
  | nil => simpa using h
  | cons c cs ih =>
    rw [List.utf8Encode_cons, ByteArray.append_assoc,
      ByteArray.isValidUTF8_utf8Encode_singleton_append_iff] at h
    exact ih h

/-- The grammar of messages. A datagram is no text if it is not valid UTF-8; a text is
cut into lines in one way, and has no start line if it is empty or its first line is
blank; and any other stands for a message, whose start line is the first line,
trimmed, and whose headers are determined by the lines after the first and before the
first blank one. What comes after a blank line makes no difference as long as the
datagram is a text. -/
theorem read?_grammar (datagram : ByteArray) :
    (read? datagram = .error .notUtf8 ↔ ¬datagram.IsValidUTF8) ∧
    (∀ t : Text, datagram = t.utf8Encode →
      (∃! ls, Text.SplitsInto t ls) ∧
      (read? datagram = .error .missingStartLine ↔
        t = [] ∨ ∃ first rest, Text.SplitsInto t (first :: rest) ∧
          ∀ c ∈ first, isBlankChar c = true) ∧
      ∀ first rest, Text.SplitsInto t (first :: rest) → (∃ c ∈ first, isBlankChar c = false) →
        ∃ reading, read? datagram = .ok reading ∧ reading.message.startLine = Text.trim first ∧
          reading.message.headers.DeterminedBy (Headers.told rest)) ∧
    ∀ (before blank : Text) (after after' : ByteArray),
      (before = [] ∨ before.getLast? = some '\n') → '\n' ∉ blank →
      (∀ c ∈ blank, isBlankChar c = true) →
      datagram = (before ++ blank ++ ['\n']).utf8Encode ++ after → datagram.IsValidUTF8 →
      ((before ++ blank ++ ['\n']).utf8Encode ++ after').IsValidUTF8 →
      read? ((before ++ blank ++ ['\n']).utf8Encode ++ after') = read? datagram := by
  refine ⟨read?_eq_notUtf8_iff, ?_, ?_⟩
  · rintro t rfl
    rw [read?_utf8Encode]
    refine ⟨Text.existsUnique_splitsInto t, readText?_eq_missingStartLine_iff,
      fun first rest hsplit hfirst => ?_⟩
    obtain ⟨skipped, hread⟩ := readText?_of_splitsInto hsplit (Text.not_isBlank_iff.2 hfirst)
    exact ⟨_, hread, rfl, Headers.determinedBy_placeAll _⟩
  · rintro before blank after after' hbefore hlf hblank rfl hvalid hvalid'
    obtain ⟨t, rfl⟩ := isValidUTF8_of_append hvalid
    obtain ⟨t', rfl⟩ := isValidUTF8_of_append hvalid'
    simp only [← List.utf8Encode_append, read?_utf8Encode]
    simpa using readText?_append_blank hbefore hlf hblank t' t

theorem read?_repeated_name : ∃ reading,
    read? "NOTIFY \r\nA: 1\r\na : 2\r\n\r\nB: 3".toList.utf8Encode = .ok reading ∧
      reading.message.startLine = "NOTIFY".toList ∧
      reading.message.headers.get? "A".toList = some "2".toList ∧
      reading.message.headers.entries.map Header.key = ["a".toList] ∧
      read? "NOTIFY \r\nA: 1\r\na : 2\r\n\r\n".toList.utf8Encode = .ok reading := by
  have hsplit : Text.SplitsInto "NOTIFY \r\nA: 1\r\na : 2\r\n\r\nB: 3".toList
      ["NOTIFY ".toList, "A: 1".toList, "a : 2".toList, [], "B: 3".toList] :=
    Text.splitsInto_iff.2 (by decide)
  obtain ⟨reading, hread, hstart, hheaders⟩ :=
    ((read?_grammar _).2.1 _ rfl).2.2 _ _ hsplit ⟨'N', by decide, by decide⟩
  refine ⟨reading, hread, hstart.trans (by decide), ?_, ?_, ?_⟩
  · rw [hheaders.value]
    decide
  · rw [hheaders.order]
    decide
  · have hjoined : "NOTIFY \r\nA: 1\r\na : 2\r\n\r\nB: 3".toList =
        "NOTIFY \r\nA: 1\r\na : 2\r\n".toList ++ ['\r'] ++ ['\n'] ++ "B: 3".toList := by decide
    have hencoded := (congrArg List.utf8Encode hjoined).trans List.utf8Encode_append
    have hcut := (read?_grammar _).2.2 "NOTIFY \r\nA: 1\r\na : 2\r\n".toList ['\r']
      "B: 3".toList.utf8Encode [].utf8Encode (.inr (by decide)) (by decide)
      (List.forall_mem_singleton.2 (by decide)) hencoded ByteArray.isValidUTF8_utf8Encode
      (ByteArray.isValidUTF8_utf8Encode.append ByteArray.isValidUTF8_utf8Encode)
    rw [hread, ← List.utf8Encode_append] at hcut
    exact hcut

end Message

end Ssdp
