import Ssdp.Text.Decimal

/-!
# Percent-encoding

A character that may not stand in a part of a URL is replaced by the bytes of
its UTF-8 form, each as a percent sign and two hexadecimal capitals. Every part
has its own set of such characters; all of them hold the controls and every
character beyond ASCII.

* `percentEncode`: a text with the characters of a set encoded;
* `percentDecode`: a text with every encoded ASCII character decoded.
-/

namespace Ssdp

/-- The controls of ASCII, and what lies beyond ASCII. -/
def isControlOrBeyond (c : Char) : Bool :=
  c.toNat ≤ 0x1f || c.toNat ≥ 0x7f

/-- The characters encoded in a fragment. -/
def inFragmentSet (c : Char) : Bool :=
  isControlOrBeyond c || [' ', '"', '<', '>', '\x60'].contains c

/-- The characters encoded in a query. -/
def inQuerySet (c : Char) : Bool :=
  isControlOrBeyond c || [' ', '"', '#', '<', '>'].contains c

/-- The characters encoded in the query of a special scheme. -/
def inSpecialQuerySet (c : Char) : Bool :=
  inQuerySet c || c == '\''

/-- The characters encoded in a path. -/
def inPathSet (c : Char) : Bool :=
  inFragmentSet c || ['#', '?', '\x7b', '\x7d'].contains c

/-- The characters encoded in a user name or a password. -/
def inUserSet (c : Char) : Bool :=
  inPathSet c || ['/', ':', ';', '=', '@', '[', '\\', ']', '^', '|'].contains c

/-- A byte as a percent sign and two digits. -/
def percentByte (b : UInt8) : Text :=
  let digit (n : Nat) : Char := (Nat.digitChar n).toUpper
  ['%', digit (b.toNat / 16), digit (b.toNat % 16)]

/-- The bytes of a character in UTF-8, encoded. -/
def percentChar (c : Char) : Text :=
  (String.utf8EncodeChar c).flatMap percentByte

/-- The text with the characters of a set encoded. -/
def percentEncode (inSet : Char → Bool) (t : Text) : Text :=
  t.flatMap fun c => if inSet c then percentChar c else [c]

/-- The text with every encoded byte replaced by the character of that number;
bytes of several-byte characters are not put together. -/
def percentDecode : Text → Text
  | [] => []
  | '%' :: high :: low :: rest =>
    match Text.valueOf? 16 [high, low] with
    | some n => Char.ofNat n :: percentDecode rest
    | none => '%' :: percentDecode (high :: low :: rest)
  | c :: rest => c :: percentDecode rest

example : percentEncode inPathSet "a b\"é".toList = "a%20b%22%C3%A9".toList := by decide
example : percentDecode "a%41%4g%".toList = "aA%4g%".toList := by decide

end Ssdp
