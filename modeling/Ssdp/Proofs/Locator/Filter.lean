import Ssdp.Locator.Filter
import Ssdp.Proofs.Text.Search

/-!
# Filters as texts

A filter is compared with a notification type byte by byte, and the bytes compared are cut
off where the filter ends, in the middle of a character if it comes to that. It is
nevertheless a comparison of texts: no character of several bytes has a part of another one
in it, and none of its bytes is an ASCII letter.

* `utf8Bytes_isPrefix_iff`: a text begins another one if its bytes do;
* `map_foldByte_utf8Bytes`: small letters in the bytes are small letters in the text;
* `beginsWith_utf8Bytes_iff`: one filter, read as a text;
* `filters_agree_with_text`: all of them.
-/

namespace Ssdp

/-! ## Texts and their bytes -/

theorem utf8Bytes_append (s t : Text) : utf8Bytes (s ++ t) = utf8Bytes s ++ utf8Bytes t :=
  List.flatMap_append

/-- Bytes that begin those of a text are the bytes of a text only if that text begins it. -/
theorem utf8Bytes_isPrefix_iff {s t : Text} : utf8Bytes s <+: utf8Bytes t ↔ s <+: t := by
  constructor
  · rintro ⟨rest, hrest⟩
    have hencoded : s.utf8Encode ++ rest.toByteArray = t.utf8Encode := by
      have hjoined := congrArg List.toByteArray hrest
      rwa [List.toByteArray_append] at hjoined
    exact List.isPrefix_of_utf8Encode_append_eq_utf8Encode _ hencoded
  · rintro ⟨rest, rfl⟩
    exact ⟨utf8Bytes rest, (utf8Bytes_append s rest).symm⟩

/-- An ASCII character has one byte. -/
theorem utf8EncodeChar_of_le {c : Char} (h : c.toNat ≤ 127) :
    String.utf8EncodeChar c = [UInt8.ofNat c.toNat] :=
  if_pos h

/-- Any other one has bytes beyond ASCII alone. -/
theorem le_of_mem_utf8EncodeChar {c : Char} (h : 127 < c.toNat) {b : UInt8}
    (hb : b ∈ String.utf8EncodeChar c) : 128 ≤ b.toNat := by
  have hascii : ¬c.val.toNat ≤ 127 := Nat.not_le.2 h
  simp only [String.utf8EncodeChar, hascii, if_false] at hb
  split at hb
  · simp only [List.mem_cons, List.not_mem_nil, or_false] at hb
    rcases hb with rfl | rfl <;> rw [UInt8.toNat_ofNat'] <;> omega
  · split at hb
    · simp only [List.mem_cons, List.not_mem_nil, or_false] at hb
      rcases hb with rfl | rfl | rfl <;> rw [UInt8.toNat_ofNat'] <;> omega
    · simp only [List.mem_cons, List.not_mem_nil, or_false] at hb
      rcases hb with rfl | rfl | rfl | rfl <;> rw [UInt8.toNat_ofNat'] <;> omega

/-! ## Bytes without case -/

theorem toNat_foldByte (b : UInt8) :
    (foldByte b).toNat = if 65 ≤ b.toNat ∧ b.toNat ≤ 90 then b.toNat + 32 else b.toNat := by
  have hcapital : (0x41 ≤ b && b ≤ 0x5a) = true ↔ 65 ≤ b.toNat ∧ b.toNat ≤ 90 := by
    simp only [Bool.and_eq_true, decide_eq_true_eq, UInt8.le_iff_toNat_le]
    rfl
  by_cases h : 65 ≤ b.toNat ∧ b.toNat ≤ 90
  · have hsum : (b + 0x20).toNat = (b.toNat + 32) % 2 ^ 8 := UInt8.toNat_add b 0x20
    rw [foldByte, if_pos (hcapital.2 h), if_pos h, hsum]
    exact Nat.mod_eq_of_lt (by omega)
  · rw [foldByte, if_neg (mt hcapital.1 h), if_neg h]

/-- The bytes of a character, with a small letter for a capital, are those of its small
letter. -/
theorem map_foldByte_utf8EncodeChar (c : Char) :
    (String.utf8EncodeChar c).map foldByte = String.utf8EncodeChar c.toLower := by
  have hlower := toNat_toLower c
  by_cases hascii : c.toNat ≤ 127
  · have hascii' : c.toLower.toNat ≤ 127 := by
      rw [hlower]
      split <;> omega
    rw [utf8EncodeChar_of_le hascii, utf8EncodeChar_of_le hascii', List.map_singleton,
      List.singleton_inj, ← UInt8.toNat_inj, toNat_foldByte, hlower,
      UInt8.toNat_ofNat', UInt8.toNat_ofNat', Nat.mod_eq_of_lt (by omega)]
    split <;> omega
  · have hsame : c.toLower = c := by
      rw [← Char.toNat_inj, hlower, if_neg (by omega)]
    rw [hsame]
    refine (List.map_congr_left fun b hb => ?_).trans (List.map_id _)
    have hbeyond := le_of_mem_utf8EncodeChar (by omega) hb
    rw [← UInt8.toNat_inj, toNat_foldByte, if_neg (by omega), id]

theorem map_foldByte_utf8Bytes (t : Text) :
    (utf8Bytes t).map foldByte = utf8Bytes (Text.foldCase t) := by
  induction t with
  | nil => rfl
  | cons c cs ih =>
    rw [Text.foldCase, List.map_cons, ← Text.foldCase]
    simp only [utf8Bytes, List.flatMap_cons, List.map_append] at ih ⊢
    rw [ih, map_foldByte_utf8EncodeChar]

/-- The bytes of a text are as many in small letters. -/
theorem length_utf8Bytes_foldCase (t : Text) :
    (utf8Bytes (Text.foldCase t)).length = (utf8Bytes t).length := by
  rw [← map_foldByte_utf8Bytes, List.length_map]

/-! ## One filter -/

/-- As many bytes as asked for from the front, if there are so many. -/
def firstBytes? (n : Nat) (bytes : List UInt8) : Option (List UInt8) :=
  if n ≤ bytes.length then some (bytes.take n) else none

/-- The bytes compared are those in front, where there are enough. -/
theorem beginsWith_eq (filter bytes : List UInt8) :
    beginsWith filter bytes = (firstBytes? filter.length bytes).any fun start =>
      start.map foldByte == filter.map foldByte := by
  unfold firstBytes?
  split
  · rfl
  · rename_i hshort
    refine Bool.eq_false_iff.2 fun h => hshort ?_
    have hlength := congrArg List.length (beq_iff_eq.1 h)
    rw [List.length_map, List.length_map, List.length_take] at hlength
    omega

theorem beginsWith_iff {filter bytes : List UInt8} :
    beginsWith filter bytes = true ↔ filter.map foldByte <+: bytes.map foldByte := by
  rw [beginsWith, beq_iff_eq, List.map_take, List.prefix_iff_eq_take, List.length_map, eq_comm]

/-- A filter lets a type through if it begins the type, both in small letters. -/
theorem beginsWith_utf8Bytes_iff {filter t : Text} :
    beginsWith (utf8Bytes filter) (utf8Bytes t) = true ↔
      Text.foldCase filter <+: Text.foldCase t := by
  rw [beginsWith_iff, map_foldByte_utf8Bytes, map_foldByte_utf8Bytes, utf8Bytes_isPrefix_iff]

/-- Where a filter begins a type, the bytes compared end where a character of the type does. -/
theorem exists_take_of_isPrefix {filter t : Text} (h : Text.foldCase filter <+: Text.foldCase t) :
    ∃ before, before <+: t ∧ Text.foldCase before = Text.foldCase filter ∧
      (utf8Bytes t).take (utf8Bytes filter).length = utf8Bytes before := by
  have hbefore : Text.foldCase (t.take filter.length) = Text.foldCase filter := by
    have htaken := List.prefix_iff_eq_take.1 h
    rw [htaken]
    simp only [Text.foldCase, List.map_take, List.length_map]
  refine ⟨t.take filter.length, List.take_prefix _ _, hbefore, ?_⟩
  have hlength : (utf8Bytes filter).length = (utf8Bytes (t.take filter.length)).length := by
    rw [← length_utf8Bytes_foldCase, ← hbefore, length_utf8Bytes_foldCase]
  rw [hlength]
  exact (List.prefix_iff_eq_take.1 (utf8Bytes_isPrefix_iff.2 (List.take_prefix _ _))).symm

/-- Where the bytes compared end within a character of the type, the filter does not begin
it. -/
theorem beginsWith_eq_false_of_cut {filter before after : Text} {c : Char}
    (hbefore : (utf8Bytes before).length < (utf8Bytes filter).length)
    (hafter : (utf8Bytes filter).length < (utf8Bytes (before ++ [c])).length) :
    beginsWith (utf8Bytes filter) (utf8Bytes (before ++ c :: after)) = false := by
  refine Bool.eq_false_iff.2 fun h => ?_
  obtain ⟨whole, hwhole, -, hslice⟩ := exists_take_of_isPrefix (beginsWith_utf8Bytes_iff.1 h)
  have hcut : before ++ [c] <+: before ++ c :: after := ⟨after, by simp⟩
  have hlength : (utf8Bytes whole).length = (utf8Bytes filter).length := by
    have hcovered := (utf8Bytes_isPrefix_iff.2 hcut).length_le
    rw [← hslice, List.length_take]
    omega
  rcases List.prefix_or_prefix_of_prefix hwhole hcut with hshort | hlong
  · rcases List.prefix_concat_iff.1 hshort with rfl | hshort
    · omega
    · have hle := (utf8Bytes_isPrefix_iff.2 hshort).length_le
      omega
  · have hle := (utf8Bytes_isPrefix_iff.2 hlong).length_le
    omega

/-! ## All filters -/

theorem matchesFilter_iff {filters : List Text} {t : Text} : matchesFilter filters t = true ↔
    ∃ filter ∈ filters, Text.foldCase filter <+: Text.foldCase t := by
  simp only [matchesFilter, List.any_eq_true, beginsWith_utf8Bytes_iff]

/-- Filters in another order and another case, some of them repeated, let through the same. -/
theorem matchesFilter_of_sameName {filters filters' : List Text} {t t' : Text}
    (h : ∀ filter ∈ filters, ∃ filter' ∈ filters', Text.sameName filter filter' = true)
    (ht : Text.sameName t t' = true) (hmatches : matchesFilter filters t = true) :
    matchesFilter filters' t' = true := by
  obtain ⟨filter, hfilter, hbegins⟩ := matchesFilter_iff.1 hmatches
  obtain ⟨filter', hfilter', hsame⟩ := h filter hfilter
  refine matchesFilter_iff.2 ⟨filter', hfilter', ?_⟩
  rwa [← Text.sameName_iff.1 hsame, ← Text.sameName_iff.1 ht]

/-- Filters are compared with a notification type as texts. The bytes of the type that are
compared with a filter are cut off wherever the filter ends, and there are none if the type
has too few. Nevertheless a type is let through just if one of the filters begins it,
character by character, with small letters for ASCII capitals in both. So it is not where
the bytes of a filter end within a character of the type, nor where the type has fewer bytes
than the filter. It makes no difference if filters stand in another order, or more than once,
or have other ASCII case, or the type has. More filters let more types through, with a type
all longer ones that it begins are let through, and no filters let nothing through. -/
theorem filters_agree_with_text (filters : List Text) (t : Text) :
    (matchesFilter filters t = filters.any fun filter =>
      (firstBytes? (utf8Bytes filter).length (utf8Bytes t)).any fun start =>
        start.map foldByte == (utf8Bytes filter).map foldByte) ∧
    (matchesFilter filters t = true ↔
      ∃ filter ∈ filters, Text.foldCase filter <+: Text.foldCase t) ∧
    (∀ filter before c after, t = before ++ c :: after →
      (utf8Bytes before).length < (utf8Bytes filter).length →
      (utf8Bytes filter).length < (utf8Bytes (before ++ [c])).length →
      matchesFilter [filter] t = false) ∧
    (∀ filter, (utf8Bytes t).length < (utf8Bytes filter).length →
      matchesFilter [filter] t = false) ∧
    (∀ filters' t',
      (∀ filter ∈ filters, ∃ filter' ∈ filters', Text.sameName filter filter' = true) →
      (∀ filter' ∈ filters', ∃ filter ∈ filters, Text.sameName filter filter' = true) →
      Text.sameName t t' = true → matchesFilter filters' t' = matchesFilter filters t) ∧
    (∀ filters' t', filters ⊆ filters' → t <+: t' → matchesFilter filters t = true →
      matchesFilter filters' t' = true) ∧
    matchesFilter [] t = false := by
  refine ⟨?_, matchesFilter_iff, ?_, fun filter hshort => ?_, fun filters' t' h h' ht => ?_,
    fun filters' t' hfilters ht hmatches => ?_, rfl⟩
  · simp only [matchesFilter, beginsWith_eq]
  · rintro filter before c after rfl hbefore hafter
    simpa [matchesFilter] using beginsWith_eq_false_of_cut hbefore hafter
  · refine Bool.eq_false_iff.2 fun hmatches => ?_
    obtain ⟨_, hmem, hbegins⟩ := matchesFilter_iff.1 hmatches
    obtain rfl := List.mem_singleton.1 hmem
    have hle := (utf8Bytes_isPrefix_iff.2 hbegins).length_le
    rw [length_utf8Bytes_foldCase, length_utf8Bytes_foldCase] at hle
    omega
  · refine Bool.eq_iff_iff.2 ⟨matchesFilter_of_sameName (fun filter' hfilter' => ?_) ?_,
      matchesFilter_of_sameName h ht⟩
    · obtain ⟨filter, hfilter, hsame⟩ := h' filter' hfilter'
      exact ⟨filter, hfilter, by rwa [Text.sameName_comm]⟩
    · rwa [Text.sameName_comm]
  · obtain ⟨filter, hfilter, hbegins⟩ := matchesFilter_iff.1 hmatches
    refine matchesFilter_iff.2 ⟨filter, hfilters hfilter, hbegins.trans ?_⟩
    exact ht.map Char.toLower

/-- A filter lets a type through in spite of its capitals, and of a letter of two bytes. A
filter that ends between these two does not; the same one in another case, twice, does; and
so do more filters for a longer type. -/
theorem accented_filters_agree :
    matchesFilter ["CAFé:".toList] "café:bar".toList = true ∧
    matchesFilter ["cafe".toList] "café:bar".toList = false ∧
    matchesFilter ["café:".toList, "CAFé:".toList] "CAFé:Bar".toList = true ∧
    matchesFilter ["É".toList, "CAFé:".toList] "café:bars".toList = true := by
  obtain ⟨-, hiff, hcut, -, hsame, hmore, -⟩ :=
    filters_agree_with_text ["CAFé:".toList] "café:bar".toList
  have hmatches : matchesFilter ["CAFé:".toList] "café:bar".toList = true :=
    hiff.2 ⟨_, List.mem_singleton_self _, by decide⟩
  refine ⟨hmatches, hcut _ "caf".toList 'é' ":bar".toList (by decide) (by decide) (by decide),
    ?_, hmore _ _ (by simp) (by decide) hmatches⟩
  rw [hsame _ _ (by decide) (by decide) (by decide), hmatches]

end Ssdp
