import Ssdp.Text.Blank
import Ssdp.Text.Quoted

/-!
# Headers

The headers of a message: an ordered map from names to values in which names
are looked up without regard to ASCII case. An insertion under a name that is
present replaces the entry where it stands, with the new spelling of the name;
any other insertion goes to the end.

* `Headers.insert`: accepts a name and a value that can be written on one line;
* `Headers.get?`, `Headers.remove`: look up and remove by name;
* `Headers.agree`: the same names with the same values, in any order.
-/

namespace Ssdp

/-- One header as it is spelled. -/
structure Header where
  name : Text
  value : Text
deriving DecidableEq, Repr

/-- Why a header cannot be written on a line of its own. -/
inductive HeaderError where
  | emptyName
  | badName (name : Text)
  | badValue (name : Text)
deriving DecidableEq, Repr

/-- The text of a header error. -/
def HeaderError.message : HeaderError → Text
  | .emptyName => "Header name must not be empty".toList
  | .badName name =>
    "Header name ".toList ++ name.quoted ++ " contains a colon or line break".toList
  | .badValue name => "Value of header ".toList ++ name.quoted ++ " contains a line break".toList

/-- Line breaks end a header line. -/
def isLineBreak (c : Char) : Bool :=
  c == '\r' || c == '\n'

/-- The headers of a message, in the order of their first insertion. -/
structure Headers where
  entries : List Header := []
deriving DecidableEq, Repr

namespace Headers

/-- No headers at all. -/
def empty : Headers := {}

/-- The number of headers. -/
def size (h : Headers) : Nat :=
  h.entries.length

/-- Whether there are no headers. -/
def isEmpty (h : Headers) : Bool :=
  h.entries.isEmpty

/-- The value of the header with this name. -/
def get? (h : Headers) (name : Text) : Option Text :=
  (h.entries.find? fun e => Text.sameName e.name name).map (·.value)

/-- Whether there is a header with this name. -/
def contains (h : Headers) (name : Text) : Bool :=
  h.entries.any fun e => Text.sameName e.name name

/-- The value of the header with this name, unless it is blank. -/
def getNonBlank? (h : Headers) (name : Text) : Option Text :=
  (h.get? name).filter fun value => !Text.isBlank value

/-- Puts a header in place of the first one with the same name, or at the end,
and gives the value that was replaced. -/
def place (header : Header) : List Header → List Header × Option Text
  | [] => ([header], none)
  | e :: rest =>
    if Text.sameName e.name header.name then (header :: rest, some e.value)
    else
      let (rest', old) := place header rest
      (e :: rest', old)

/-- What stands in the way of writing this header: the name is looked at
before the value, and its emptiness first. -/
def fault? (name value : Text) : Option HeaderError :=
  if name.isEmpty then some .emptyName
  else if name.any fun c => c == ':' || isLineBreak c then some (.badName name)
  else if value.any isLineBreak then some (.badValue name)
  else none

/-- Inserts a header and gives the value it replaced; a header that cannot be
written is refused. -/
def insert (h : Headers) (name value : Text) : Except HeaderError (Headers × Option Text) :=
  match fault? name value with
  | some error => .error error
  | none =>
    let (entries, old) := place ⟨name, value⟩ h.entries
    .ok (⟨entries⟩, old)

/-- Removes the header with this name and gives its value. -/
def remove (h : Headers) (name : Text) : Headers × Option Text :=
  (⟨h.entries.eraseP fun e => Text.sameName e.name name⟩, h.get? name)

/-- Whether both have the same number of headers and every header of the first
has the same value in the second. -/
def agree (a b : Headers) : Bool :=
  a.size == b.size && a.entries.all fun e => b.get? e.name == some e.value

/-- Inserts headers one after the other; the first fault ends the insertion. -/
def insertAll (h : Headers) : List (Text × Text) → Except HeaderError Headers
  | [] => .ok h
  | (name, value) :: rest =>
    match h.insert name value with
    | .ok (h', _) => h'.insertAll rest
    | .error error => .error error

/-- An insertion is refused exactly when the header has a fault. -/
theorem insert_eq_error_iff {h : Headers} {name value : Text} {error : HeaderError} :
    h.insert name value = .error error ↔ fault? name value = some error := by
  unfold insert
  split <;> simp_all

end Headers

end Ssdp
