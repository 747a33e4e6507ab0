import Ssdp.Net.Address

/-!
# Reading addresses

Version 4 is four decimal octets of at most three digits without leading
zeros. Version 6 is up to eight groups of at most four hexadecimal digits; one
`::` stands for one or more zero groups, and the last two groups may be written
as four octets. Each reader of a part gives the rest of the text with the part.

* `Address.read?`: an address that takes up the whole text;
* `SocketAddress.read?`: an address with a port.
-/

namespace Ssdp

/-- A number of at most `places` digits, and what follows them; leading zeros
are refused unless `zeros` is set. -/
def readNumber (base places : Nat) (zeros : Bool) (t : Text) : Option (Nat × Text) :=
  let isDigit c := (Text.digitValue? base c).isSome
  let digits := t.takeWhile isDigit
  if digits.isEmpty || digits.length > places then none
  else if !zeros && digits.length > 1 && digits.head? == some '0' then none
  else (Text.valueOf? base digits).map fun n => (n, t.dropWhile isDigit)

/-- What follows the given character at the front of a text. -/
def readChar (c : Char) : Text → Option Text
  | [] => none
  | d :: rest => if d = c then some rest else none

namespace V4

/-- An octet at the front of a text. -/
def readOctet (t : Text) : Option (Nat × Text) :=
  (readNumber 10 3 false t).filter fun (n, _) => n ≤ 255

/-- Four octets at the front of a text. -/
def readPrefix (t : Text) : Option (V4 × Text) := do
  let (a, t) ← readOctet t
  let (b, t) ← readOctet (← readChar '.' t)
  let (c, t) ← readOctet (← readChar '.' t)
  let (d, t) ← readOctet (← readChar '.' t)
  return (ofOctets a b c d, t)

/-- The address that a whole text stands for. -/
def read? (t : Text) : Option V4 :=
  match readPrefix t with
  | some (ip, []) => some ip
  | _ => none

end V4

namespace V6

/-- The groups at the front of a text, at most `limit` of them, with the text
after them; the flag tells that the last two were written as octets. -/
def readGroups (limit : Nat) (first : Bool) (t : Text) : List Nat × Bool × Text :=
  match limit with
  | 0 => ([], false, t)
  | limit + 1 =>
    match if first then some t else readChar ':' t with
    | none => ([], false, t)
    | some body =>
      match if limit ≥ 1 then V4.readPrefix body else none with
      | some (ip, rest) => ([ip.bits.toNat / 65536, ip.bits.toNat % 65536], true, rest)
      | none =>
        match readNumber 16 4 true body with
        | none => ([], false, t)
        | some (g, rest) =>
          let (groups, octets, rest) := readGroups limit false rest
          (g :: groups, octets, rest)

/-- A version 6 address at the front of a text: all eight groups, or a head and
a tail around `::`. -/
def readPrefix (t : Text) : Option (V6 × Text) := do
  let (head, octets, rest) := readGroups 8 true t
  if head.length = 8 then return (ofGroups head, rest)
  if octets then none
  let rest ← readChar ':' (← readChar ':' rest)
  let (tail, _, rest) := readGroups (7 - head.length) true rest
  return (ofGroups (head ++ List.replicate (8 - head.length - tail.length) 0 ++ tail), rest)

/-- The address that a whole text stands for. -/
def read? (t : Text) : Option V6 :=
  match readPrefix t with
  | some (ip, []) => some ip
  | _ => none

end V6

/-- The address that a whole text stands for. -/
def Address.read? (t : Text) : Option Address :=
  match V4.read? t with
  | some ip => some (.v4 ip)
  | none => (V6.read? t).map .v6

/-- A decimal number below `bound` that takes up digits at the front of a text. -/
def readBelow (bound : Nat) (t : Text) : Option (Nat × Text) :=
  let digits := t.takeWhile Text.isDigitChar
  if digits.isEmpty then none
  else
    ((Text.valueUpTo? 10 bound digits).filter (· < bound)).map fun n =>
      (n, t.dropWhile Text.isDigitChar)

namespace SocketAddress

/-- The port that a text ends with. -/
def readPort (t : Text) : Option UInt16 := do
  let (port, rest) ← readBelow 65536 (← readChar ':' t)
  if rest.isEmpty then some (UInt16.ofNat port) else none

/-- The scope at the front of a text, zero if none is given. -/
def readScope (t : Text) : UInt32 × Text :=
  match (readChar '%' t).bind (readBelow 0x100000000) with
  | some (scope, rest) => (UInt32.ofNat scope, rest)
  | none => (0, t)

/-- The socket address that a whole text stands for. -/
def read? (t : Text) : Option SocketAddress :=
  match V4.readPrefix t with
  | some (ip, rest) => (readPort rest).map (.v4 ip ·)
  | none => do
    let (ip, rest) ← V6.readPrefix (← readChar '[' t)
    let (scope, rest) := readScope rest
    let port ← readPort (← readChar ']' rest)
    return .v6 ip port scope

end SocketAddress

example : V4.read? "10.0.0.05".toList = none := by decide
example : V6.read? "1:2:3:4:5:6:7::".toList = some (.ofGroups [1, 2, 3, 4, 5, 6, 7, 0]) := by decide
example : V6.read? "::1.2.3.4".toList = some (.ofGroups [0, 0, 0, 0, 0, 0, 0x102, 0x304]) := by
  decide
example : V6.read? "1::2::3".toList = none := by decide
example : SocketAddress.read? "[fe80::1%7]:1900".toList =
    some (.v6 (.ofGroups [0xfe80, 0, 0, 0, 0, 0, 0, 1]) 1900 7) := by decide

end Ssdp
