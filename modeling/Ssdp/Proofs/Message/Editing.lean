import Ssdp.Log
import Ssdp.Proofs.Message.Canonical

/-!
# Editing headers in place

Headers are changed where they stand: an insertion writes over the entry with the
same name or pushes a new one, a removal takes the entry out. What was asked for may
be refused, which is an answer like any other, or end in a panic, and headers are
still there after either. Here the edits are programs over the headers they change,
with a panic as their only exception:

* `Headers.run_tryInsert`, `Headers.run_insertOrPanic`, `Headers.run_takeOut`: in place,
  the edits do what `Headers.insert` and `Headers.remove` do;
* `Headers.Writable`: no name twice, and everything fits on a line of its own;
* `HeaderError.Blames`, `Headers.fault?_eq_some_iff`: what is wrong where an insertion is
  refused;
* `Message.Made`: the messages that come from reading and editing;
* `Message.Made.sound`: whatever was made has sound headers.
-/

namespace Ssdp

/-- A program that changes headers in place, and may panic. -/
abbrev InPlace (α : Type) : Type :=
  EStateM PanicReason Headers α

namespace Headers

/-- Where the first header with this name stands. -/
def position? (h : Headers) (name : Text) : Option Nat :=
  h.entries.findIdx? fun e => Text.sameName e.name name

/-- Inserts a header in place, and answers with the value it replaced, or with what
stands in the way of writing it. -/
def tryInsert (name value : Text) : InPlace (Except HeaderError (Option Text)) := do
  if name.isEmpty then return .error .emptyName
  if name.any fun c => c == ':' || isLineBreak c then return .error (.badName name)
  if value.any isLineBreak then return .error (.badValue name)
  let h ← get
  match h.position? name with
  | some index =>
    set (⟨h.entries.set index ⟨name, value⟩⟩ : Headers)
    return .ok (h.entries[index]?.map (·.value))
  | none =>
    set (⟨h.entries ++ [⟨name, value⟩]⟩ : Headers)
    return .ok none

/-- Inserts a header in place, and panics where it is refused. -/
def insertOrPanic (name value : Text) : InPlace (Option Text) := do
  match ← tryInsert name value with
  | .ok old => return old
  | .error error => throw (.text error.message)

/-- Takes the header with this name out, and answers with its value. -/
def takeOut (name : Text) : InPlace (Option Text) := do
  let h ← get
  match h.position? name with
  | some index =>
    set (⟨h.entries.eraseIdx index⟩ : Headers)
    return h.entries[index]?.map (·.value)
  | none => return none

/-! ## In place and by value -/

section Run

variable (h : Headers) (name value : Text)

/-- Placing a header is writing over the first one with the same name, or pushing it. -/
theorem place_eq (x : Header) (es : List Header) : place x es =
    match es.findIdx? fun e => Text.sameName e.name x.name with
    | some index => (es.set index x, es[index]?.map (·.value))
    | none => (es ++ [x], none) := by
  induction es with
  | nil => rfl
  | cons e rest ih =>
    rw [List.findIdx?_cons]
    by_cases he : Text.sameName e.name x.name
    · simp [place, he]
    · rw [place, if_neg he, ih, if_neg he]
      cases rest.findIdx? fun e => Text.sameName e.name x.name <;> rfl

theorem run_tryInsert : (tryInsert name value).run h =
    match h.insert name value with
    | .ok (h', old) => .ok (.ok old) h'
    | .error error => .ok (.error error) h := by
  unfold insert fault? tryInsert
  split
  · rfl
  split
  · rfl
  split
  · rfl
  simp only [place_eq]
  change EStateM.run (match h.position? name with | some _ => _ | none => _) h = _
  unfold position?
  cases h.entries.findIdx? fun e => Text.sameName e.name name <;> rfl

theorem run_insertOrPanic : (insertOrPanic name value).run h =
    match h.insert name value with
    | .ok (h', old) => .ok old h'
    | .error error => .error (.text error.message) h := by
  rw [insertOrPanic, EStateM.run_bind, run_tryInsert]
  cases h.insert name value <;> rfl

theorem run_takeOut : (takeOut name).run h = .ok (h.remove name).2 (h.remove name).1 := by
  unfold takeOut remove get?
  rw [List.eraseP_eq_eraseIdx, List.find?_eq_bind_findIdx?_getElem?]
  change EStateM.run (match h.position? name with | some _ => _ | none => _) h = _
  unfold position?
  cases h.entries.findIdx? fun e => Text.sameName e.name name <;> rfl

end Run

/-! ## Sequences of edits -/

/-- What a program leaves of headers, whether it comes to an answer or panics. -/
def leftBy {α : Type} (p : InPlace α) (h : Headers) : Headers :=
  match p.run h with
  | .ok _ h' => h'
  | .error _ h' => h'

/-- An edit of headers: an insertion that may be refused, one that panics where it is
refused, or a removal. -/
inductive Edit where
  | tryInsert (name value : Text)
  | insertOrPanic (name value : Text)
  | takeOut (name : Text)
deriving DecidableEq, Repr

/-- The headers after an edit. -/
def edit (h : Headers) : Edit → Headers
  | .tryInsert name value => leftBy (tryInsert name value) h
  | .insertOrPanic name value => leftBy (insertOrPanic name value) h
  | .takeOut name => leftBy (takeOut name) h

/-- The headers that come from none at all by edits one after the other. -/
def edited (edits : List Edit) : Headers :=
  edits.foldl edit empty

/-- An insertion that is refused leaves sound headers as they are, and one that is
accepted leaves them sound. -/
theorem Sound.edit {h : Headers} (hs : h.Sound) (e : Edit) : (h.edit e).Sound := by
  cases e with
  | tryInsert name value =>
    rw [Headers.edit, leftBy, run_tryInsert]
    cases hinsert : h.insert name value with
    | ok r => exact hs.insert hinsert
    | error error => exact hs
  | insertOrPanic name value =>
    rw [Headers.edit, leftBy, run_insertOrPanic]
    cases hinsert : h.insert name value with
    | ok r => exact hs.insert hinsert
    | error error => exact hs
  | takeOut name =>
    rw [Headers.edit, leftBy, run_takeOut]
    exact hs.remove name

theorem Sound.edits {h : Headers} (hs : h.Sound) (edits : List Edit) :
    (edits.foldl Headers.edit h).Sound := by
  induction edits generalizing h with
  | nil => exact hs
  | cons e rest ih => exact ih (hs.edit e)

/-- No two names are the same up to ASCII case, every name is one that ends at its
colon, and names and values fit on a line. -/
structure Writable (h : Headers) : Prop where
  distinct : h.entries.Pairwise fun a b => ¬Text.sameName a.name b.name = true
  names : ∀ e ∈ h.entries, e.name ≠ [] ∧ ':' ∉ e.name ∧ '\r' ∉ e.name ∧ '\n' ∉ e.name
  values : ∀ e ∈ h.entries, '\r' ∉ e.value ∧ '\n' ∉ e.value

theorem Sound.writable {h : Headers} (hs : h.Sound) : h.Writable where
  distinct := (List.pairwise_map.1 hs.distinct).imp fun hne hsame =>
    hne (sameName_iff_key.1 hsame)
  names e he := by
    obtain ⟨hne, hcolon, ⟨hcr, hlf⟩, -⟩ := fault?_eq_none_iff.1 (hs.valid e he)
    exact ⟨hne, hcolon, hcr, hlf⟩
  values e he := (fault?_eq_none_iff.1 (hs.valid e he)).2.2.2

end Headers

/-! ## Faults -/

/-- What is wrong with a name and a value where this error is reported: a value is
blamed only under a good name, and a name that is empty is blamed for nothing else. -/
def HeaderError.Blames (name value : Text) : HeaderError → Prop
  | .emptyName => name = []
  | .badName n => n = name ∧ name ≠ [] ∧ (':' ∈ name ∨ '\r' ∈ name ∨ '\n' ∈ name)
  | .badValue n => n = name ∧ (name ≠ [] ∧ ':' ∉ name ∧ '\r' ∉ name ∧ '\n' ∉ name) ∧
      ('\r' ∈ value ∨ '\n' ∈ value)

namespace Headers

theorem fault?_eq_some_iff {name value : Text} {error : HeaderError} :
    fault? name value = some error ↔ error.Blames name value := by
  have hempty : name.isEmpty = true ↔ name = [] := List.isEmpty_iff
  have hname := any_colon_or_isLineBreak_iff (t := name)
  have hvalue := any_isLineBreak_iff (t := value)
  unfold fault?
  by_cases h₁ : name = []
  · rw [if_pos (hempty.2 h₁)]
    cases error <;> simp [HeaderError.Blames, h₁]
  rw [if_neg (mt hempty.1 h₁)]
  by_cases h₂ : ':' ∈ name ∨ '\r' ∈ name ∨ '\n' ∈ name
  · rw [if_pos (hname.2 h₂)]
    cases error with
    | emptyName => simp [HeaderError.Blames, h₁]
    | badName n => simp [HeaderError.Blames, h₁, h₂, eq_comm]
    | badValue n =>
      refine iff_of_false (by simp) ?_
      rintro ⟨-, ⟨-, hgood⟩, -⟩
      exact h₂.elim hgood.1 fun h => h.elim hgood.2.1 hgood.2.2
  rw [if_neg (mt hname.1 h₂)]
  by_cases h₃ : '\r' ∈ value ∨ '\n' ∈ value
  · rw [if_pos (hvalue.2 h₃)]
    cases error with
    | emptyName => simp [HeaderError.Blames, h₁]
    | badName n => simp [HeaderError.Blames, h₂]
    | badValue n =>
      simp only [not_or] at h₂
      simp [HeaderError.Blames, h₁, h₂, h₃, eq_comm]
  · rw [if_neg (mt hvalue.1 h₃)]
    cases error <;> simp [HeaderError.Blames, h₁, h₂, h₃]

/-- An insertion in place is refused with an error exactly for what the error blames,
and then the headers are as they were. -/
theorem run_tryInsert_eq_error_iff {h h' : Headers} {name value : Text} {error : HeaderError} :
    (tryInsert name value).run h = .ok (.error error) h' ↔ h' = h ∧ error.Blames name value := by
  rw [run_tryInsert, ← fault?_eq_some_iff, ← insert_eq_error_iff (h := h)]
  cases h.insert name value with
  | ok r => simp
  | error e =>
    simp only [EStateM.Result.ok.injEq, Except.error.injEq]
    exact ⟨fun ⟨herror, hstate⟩ => ⟨hstate.symm, herror⟩,
      fun ⟨hstate, herror⟩ => ⟨herror, hstate.symm⟩⟩

end Headers

/-! ## Messages -/

namespace Message

/-- The messages that come from a start line alone or from the bytes of any datagram,
by headers that are added, by edits of their headers in place, and by headers that are
taken over from one another. -/
inductive Made : Message → Prop
  | new (startLine : Text) : Made { startLine }
  | read {datagram : ByteArray} {reading : Reading} (h : read? datagram = .ok reading) :
      Made reading.message
  | withHeader {m m' : Message} {name value : Text} (hm : Made m)
      (h : m.withHeader name value = .ok m') : Made m'
  | edit {m : Message} (hm : Made m) (e : Headers.Edit) :
      Made { m with headers := m.headers.edit e }
  | takeOver {m m' : Message} (hm : Made m) (hm' : Made m') :
      Made { m with headers := m'.headers }

theorem Made.edits {m : Message} (hm : m.Made) (edits : List Headers.Edit) :
    Made { m with headers := edits.foldl Headers.edit m.headers } := by
  induction edits generalizing m with
  | nil => exact hm
  | cons e rest ih => exact ih (hm.edit e)

theorem Made.sound {m : Message} (hm : m.Made) : m.headers.Sound := by
  induction hm with
  | new startLine => exact Headers.sound_empty
  | read h => exact (canonical_of_read? h).sound
  | withHeader _ h ih =>
    unfold Message.withHeader at h
    split at h
    · rename_i hinsert
      obtain rfl := Except.ok.inj h
      exact ih.insert hinsert
    · cases h
  | edit _ e ih => exact ih.edit e
  | takeOver _ _ _ ih' => exact ih'

end Message

/-- Headers as a map, whatever was done to them. Whichever edits came one after the
other, those that were refused and those that panicked included, and wherever a message
comes from, no two names are the same up to ASCII case, no name is empty or has a colon
or a line break, and no value has a line break. An insertion that may be refused always
answers. It is refused for an empty name, else for a bad name, else for a bad value, and
then leaves the headers as they were; the insertion that panics does so exactly where
the other one is refused, with the text of that error and the same headers left, and
does the same as the other one elsewhere. -/
theorem Headers.edited_writable :
    (∀ edits : List Headers.Edit, (Headers.edited edits).Writable) ∧
    (∀ m : Message, m.Made → m.headers.Writable) ∧
    ∀ (h : Headers) (name value : Text),
      (∃ answer h', (Headers.tryInsert name value).run h = .ok answer h') ∧
      (∀ error h', (Headers.tryInsert name value).run h = .ok (.error error) h' ↔
        h' = h ∧ error.Blames name value) ∧
      (∀ reason h', (Headers.insertOrPanic name value).run h = .error reason h' ↔
        ∃ error, reason = .text error.message ∧
          (Headers.tryInsert name value).run h = .ok (.error error) h') ∧
      ∀ old h', (Headers.insertOrPanic name value).run h = .ok old h' ↔
        (Headers.tryInsert name value).run h = .ok (.ok old) h' := by
  refine ⟨fun edits => (Headers.sound_empty.edits edits).writable,
    fun m hm => hm.sound.writable, fun h name value => ⟨?_, ?_, ?_, ?_⟩⟩
  · rw [Headers.run_tryInsert]
    cases h.insert name value with
    | ok r => exact ⟨_, _, rfl⟩
    | error error => exact ⟨_, _, rfl⟩
  · exact fun error h' => Headers.run_tryInsert_eq_error_iff
  · intro reason h'
    rw [Headers.run_insertOrPanic, Headers.run_tryInsert]
    cases h.insert name value with
    | ok r => simp
    | error error => simp [eq_comm]
  · intro old h'
    rw [Headers.run_insertOrPanic, Headers.run_tryInsert]
    cases h.insert name value with
    | ok r => simp
    | error error => simp

/-- A message read from a datagram that spells a name in two ways and has a line
without a name; then a header is respelled, another one added, and one in the middle
taken out. A name with a colon is refused with a panic. -/
theorem Headers.edited_writable_respelled :
    let datagram : Text :=
      "NOTIFY * HTTP/1.1\r\nHost: a\r\nx: 1\r\n: none\r\nHOST: b\r\n\r\n".toList
    let edits : List Headers.Edit := [.insertOrPanic "X".toList "2".toList,
      .tryInsert "y".toList "3".toList, .takeOut "x".toList]
    ∃ reading, Message.read? datagram.utf8Encode = .ok reading ∧
      reading.message.headers.entries =
        [⟨"HOST".toList, "b".toList⟩, ⟨"x".toList, "1".toList⟩] ∧
      let h := edits.foldl Headers.edit reading.message.headers
      h.entries = [⟨"HOST".toList, "b".toList⟩, ⟨"y".toList, "3".toList⟩] ∧ h.Writable ∧
      (Headers.insertOrPanic "a:b".toList "v".toList).run h = .error
        (.text "Header name \"a:b\" contains a colon or line break".toList) h := by
  intro datagram edits
  have hread : Message.read? datagram.utf8Encode = .ok
      ⟨⟨"NOTIFY * HTTP/1.1".toList, ⟨[⟨"HOST".toList, "b".toList⟩, ⟨"x".toList, "1".toList⟩]⟩⟩,
        [.malformed ": none".toList .emptyName]⟩ := by
    rw [Message.read?_utf8Encode]
    rfl
  obtain ⟨-, hmade, hrefused⟩ := Headers.edited_writable
  refine ⟨_, hread, rfl, rfl, ?_, ?_⟩
  · exact hmade _ ((Message.Made.read hread).edits edits)
  · obtain ⟨-, herror, hpanic, -⟩ := hrefused _ "a:b".toList "v".toList
    refine (hpanic _ _).2 ⟨.badName "a:b".toList, by decide +kernel, (herror _ _).2 ⟨rfl, ?_⟩⟩
    exact ⟨rfl, by decide, by decide⟩

end Ssdp
