import Ssdp.Proofs.Message.LineEnds

/-!
# Route keys

What a message is dispatched under is made from its start line, which is the first line of
the datagram without the blanks at its ends. Trimming takes all Unicode blanks off, while a
method ends at an ASCII blank only; so a line may hold other blanks, and a key may.

* `Message.firstLine?`, `Message.read?_eq_ok_iff`: a datagram is read as a message if it has
  a first line that is not blank, and that line is the start line;
* `Message.firstLine?_utf8Encode`: what comes after the first line feed does not matter to it;
* `routeKey_ne_nil`, `routeKey_routeKey`: the key of a start line, and the key of the key;
* `routeKey_eq_responseStartLine_iff`, `routeKey_eq_notifyKey_iff`: the start lines of answers
  and of announcements.
-/

namespace Ssdp

namespace Message

/-! ## The first line -/

/-- The first line of a datagram, trimmed, if the datagram is text and has a line. -/
def firstLine? (datagram : ByteArray) : Option Text :=
  datagram.utf8Decode?.bind fun chars => (Text.lines chars.toList).head?.map Text.trim

/-- A datagram whose first line is not blank is read as a message with this start line, and
no other datagram is. -/
theorem read?_eq_ok_iff {datagram : ByteArray} {line : Text} :
    (∃ reading, read? datagram = .ok reading ∧ reading.message.startLine = line) ↔
      firstLine? datagram = some line ∧ line ≠ [] := by
  unfold read? firstLine?
  cases datagram.utf8Decode? with
  | none => simp
  | some chars =>
    simp only [readText?, Option.bind_some]
    cases Text.lines chars.toList with
    | nil => simp
    | cons first rest =>
      by_cases hblank : Text.isBlank first = true
      · have hempty : Text.trim first = [] := Text.isBlank_eq_true_iff_trim.1 hblank
        simp only [if_pos hblank, List.head?_cons, Option.map_some, Option.some.injEq, hempty]
        constructor
        · rintro ⟨_, hread, -⟩
          cases hread
        · rintro ⟨rfl, hne⟩
          exact absurd rfl hne
      · have hne : Text.trim first ≠ [] := mt Text.isBlank_eq_true_iff_trim.2 hblank
        simp only [if_neg hblank, List.head?_cons, Option.map_some, Option.some.injEq]
        constructor
        · rintro ⟨reading, hread, rfl⟩
          obtain rfl := Except.ok.inj hread
          exact ⟨rfl, hne⟩
        · rintro ⟨rfl, -⟩
          exact ⟨_, rfl, rfl⟩

/-- A first line is trimmed. -/
theorem trim_firstLine? {datagram : ByteArray} {line : Text}
    (h : firstLine? datagram = some line) : Text.trim line = line := by
  obtain ⟨chars, -, hfirst⟩ := Option.bind_eq_some_iff.1 h
  obtain ⟨first, -, rfl⟩ := Option.map_eq_some_iff.1 hfirst
  exact Text.trim_trim first

/-- What comes after the first line feed is not looked at. -/
theorem firstLine?_utf8Encode {first : Text} (h : '\n' ∉ first) (rest : Text) :
    firstLine? (first ++ '\n' :: rest).utf8Encode = some (Text.trim first) := by
  have hchomp : Text.trim (Text.chomp first) = Text.trim first := by
    rw [← Text.trim_trimEnd, Text.trimEnd_chomp, Text.trim_trimEnd]
  rw [firstLine?, List.utf8Decode?_utf8Encode]
  simp [Text.lines_append_lf h, hchomp]

end Message

/-! ## Methods -/

/-- The characters up to the first ASCII blank. -/
def untilAsciiBlank (t : Text) : Text :=
  t.takeWhile fun c => !isAsciiBlank c

/-- A line that does not begin with a blank. -/
theorem exists_cons_of_trim_eq {line : Text} (htrim : Text.trim line = line) (hne : line ≠ []) :
    ∃ c cs, line = c :: cs ∧ isAsciiBlank c = false := by
  obtain ⟨c, cs, rfl⟩ := List.exists_cons_of_ne_nil hne
  have hstart : Text.trimStart (c :: cs) = c :: cs := by
    rw [← htrim]
    exact Text.trimStart_trim _
  refine ⟨c, cs, rfl, Bool.eq_false_iff.2 fun hblank => ?_⟩
  rw [Text.trimStart, List.dropWhile_cons_of_pos (isBlankChar_of_isAsciiBlank hblank)] at hstart
  have hshorter := (List.dropWhile_suffix isBlankChar (l := cs)).length_le
  rw [hstart, List.length_cons] at hshorter
  omega

/-- The key of a line that does not begin with a blank: the line as it is, or its method. -/
theorem routeKey_cons {c : Char} (h : isAsciiBlank c = false) (cs : Text) :
    routeKey (c :: cs) =
      if "HTTP/".toList.isPrefixOf (c :: cs) then c :: cs else untilAsciiBlank (c :: cs) := by
  have hdrop : (c :: cs).dropWhile isAsciiBlank = c :: cs :=
    List.dropWhile_cons_of_neg (by simp [h])
  have hne : (untilAsciiBlank (c :: cs)).isEmpty = false := by simp [untilAsciiBlank, h]
  rw [untilAsciiBlank] at hne
  simp only [routeKey, firstToken?, hdrop, hne, Bool.false_eq_true, if_false, Option.getD_some,
    untilAsciiBlank]

section

variable {line : Text}

theorem routeKey_ne_nil (htrim : Text.trim line = line) (hne : line ≠ []) :
    routeKey line ≠ [] := by
  obtain ⟨c, cs, rfl, hc⟩ := exists_cons_of_trim_eq htrim hne
  rw [routeKey_cons hc]
  split
  · exact hne
  · simp [untilAsciiBlank, hc]

theorem routeKey_routeKey (htrim : Text.trim line = line) (hne : line ≠ []) :
    routeKey (routeKey line) = routeKey line := by
  obtain ⟨c, cs, rfl, hc⟩ := exists_cons_of_trim_eq htrim hne
  by_cases hhttp : "HTTP/".toList.isPrefixOf (c :: cs) = true
  · rw [routeKey_cons hc, if_pos hhttp, routeKey_cons hc, if_pos hhttp]
  · -- A method that began like a response would begin a line that does.
    have hmethod : untilAsciiBlank (c :: cs) = c :: untilAsciiBlank cs := by
      simp [untilAsciiBlank, hc]
    have hhttp' : ¬"HTTP/".toList.isPrefixOf (c :: untilAsciiBlank cs) = true := by
      rw [← hmethod, List.isPrefixOf_iff_prefix]
      rw [List.isPrefixOf_iff_prefix] at hhttp
      exact fun hbegins => hhttp (hbegins.trans (List.takeWhile_prefix _))
    rw [routeKey_cons hc, if_neg hhttp, hmethod, routeKey_cons hc, if_neg hhttp', ← hmethod]
    exact List.takeWhile_idem

/-- A method has no blank in it, so the key is that of answers only for their whole start
line. -/
theorem routeKey_eq_responseStartLine_iff (htrim : Text.trim line = line) (hne : line ≠ []) :
    routeKey line = responseStartLine ↔ line = responseStartLine := by
  constructor
  · obtain ⟨c, cs, rfl, hc⟩ := exists_cons_of_trim_eq htrim hne
    intro h
    rw [routeKey_cons hc] at h
    split at h
    · exact h
    · have hspace : ' ' ∈ untilAsciiBlank (c :: cs) := by
        rw [h]
        decide
      exact absurd (List.mem_takeWhile_imp hspace) (by decide)
  · rintro rfl
    decide

/-- The start lines of announcements: their method, alone or before an ASCII blank. -/
def IsNotifyLine (line : Text) : Prop :=
  line = notifyKey ∨
    ∃ blank more, isAsciiBlank blank = true ∧ line = notifyKey ++ blank :: more

theorem routeKey_eq_notifyKey_iff (htrim : Text.trim line = line) (hne : line ≠ []) :
    routeKey line = notifyKey ↔ IsNotifyLine line := by
  constructor
  · obtain ⟨c, cs, rfl, hc⟩ := exists_cons_of_trim_eq htrim hne
    intro h
    rw [routeKey_cons hc] at h
    split at h
    · exact .inl h
    · have hparts : notifyKey ++ (c :: cs).dropWhile (fun c => !isAsciiBlank c) = c :: cs := by
        rw [← h]
        exact List.takeWhile_append_dropWhile
      cases hdrop : (c :: cs).dropWhile (fun c => !isAsciiBlank c) with
      | nil =>
        rw [hdrop, List.append_nil] at hparts
        exact .inl hparts.symm
      | cons blank more =>
        have hblank := List.head?_dropWhile_not (fun c => !isAsciiBlank c) (c :: cs)
        rw [hdrop] at hblank hparts
        exact .inr ⟨blank, more, by simpa using hblank, hparts.symm⟩
  · rintro (rfl | ⟨blank, more, hblank, rfl⟩)
    · decide
    · have hbegin : isAsciiBlank 'N' = false := by decide
      have hall : ∀ c ∈ notifyKey, (!isAsciiBlank c) = true := List.all_eq_true.1 (by decide)
      have hmethod : untilAsciiBlank (notifyKey ++ blank :: more) = notifyKey := by
        rw [untilAsciiBlank, List.takeWhile_append_of_pos hall,
          List.takeWhile_cons_of_neg (by simp [hblank]), List.append_nil]
      exact (routeKey_cons hbegin _).trans hmethod

/-- No line is one of both. -/
theorem IsNotifyLine.ne_responseStartLine (h : IsNotifyLine line) : line ≠ responseStartLine := by
  rintro rfl
  obtain h | ⟨blank, more, -, h⟩ := h
  · exact absurd h (by decide)
  · cases h

/-- Whether a line is one of an announcement is seen from the character after the method. -/
theorem isNotifyLine_iff : IsNotifyLine line ↔ line = notifyKey ∨
    notifyKey <+: line ∧ (line.drop notifyKey.length).head?.any isAsciiBlank = true := by
  refine or_congr_right ⟨?_, ?_⟩
  · rintro ⟨blank, more, hblank, rfl⟩
    exact ⟨⟨_, rfl⟩, by simpa using hblank⟩
  · rintro ⟨⟨after, rfl⟩, hafter⟩
    rw [List.drop_left] at hafter
    cases after with
    | nil => cases hafter
    | cons blank more => exact ⟨blank, more, by simpa using hafter, rfl⟩

instance : DecidablePred IsNotifyLine :=
  fun _ => decidable_of_iff' _ isNotifyLine_iff

end

end Ssdp
