import Ssdp.Net.Address

/-!
# Addresses in text

Version 4 is written as four decimal octets, version 6 as eight groups in
hexadecimal without leading zeros, the longest run of at least two zero groups
(the first of the longest) shortened to `::`. An IPv4-mapped address is written
as `::ffff:` and four octets.

* `V6.hexText`: version 6 with hexadecimal groups alone;
* `Address.text`, `SocketAddress.text`: the written form of an address.
-/

namespace Ssdp

/-- The texts with a separator between any two. -/
def joinWith (separator : Text) : List Text → Text
  | [] => []
  | [t] => t
  | t :: rest => t ++ separator ++ joinWith separator rest

/-- The address as four decimal octets. -/
def V4.text (a : V4) : Text :=
  joinWith ['.'] (a.octets.map Text.decimal)

namespace V6

/-- The number of zeros at the front of a list. -/
def zeroRun (groups : List Nat) : Nat :=
  (groups.takeWhile (· == 0)).length

/-- The start and the length of the first of the longest runs of zeros in a
list whose first element has the given index. -/
def longestZeros (index : Nat) : List Nat → Nat × Nat
  | [] => (index, 0)
  | g :: rest =>
    let here := zeroRun (g :: rest)
    let later := longestZeros (index + 1) rest
    if here ≥ later.2 then (index, here) else later

/-- Groups in hexadecimal, with a colon between any two. -/
def groupsText (groups : List Nat) : Text :=
  joinWith [':'] (groups.map Text.hexadecimal)

/-- The address in hexadecimal groups, with the first of the longest runs of at
least two zeros shortened. -/
def hexText (a : V6) : Text :=
  let (start, length) := longestZeros 0 a.groups
  if length > 1 then
    groupsText (a.groups.take start) ++ [':', ':'] ++ groupsText (a.groups.drop (start + length))
  else groupsText a.groups

/-- The address in text. -/
def text (a : V6) : Text :=
  match a.mapped? with
  | some ip => "::ffff:".toList ++ ip.text
  | none => a.hexText

end V6

/-- The address in text. -/
def Address.text : Address → Text
  | v4 ip => ip.text
  | v6 ip => ip.text

/-- The address with its port, version 6 in brackets and with a scope that is
not zero. -/
def SocketAddress.text : SocketAddress → Text
  | v4 ip port => ip.text ++ ':' :: Text.decimal port.toNat
  | v6 ip port scope =>
    let zone := if scope = 0 then [] else '%' :: Text.decimal scope.toNat
    '[' :: ip.text ++ zone ++ [']', ':'] ++ Text.decimal port.toNat

example : (V4.ofOctets 239 255 255 250).text = "239.255.255.250".toList := by decide
example : (V6.ofGroups [0xff02, 0, 0, 0, 0, 0, 0, 0xc]).text = "ff02::c".toList := by decide
example : (V6.ofGroups [1, 0, 0, 2, 0, 0, 0, 3]).text = "1:0:0:2::3".toList := by decide
example : (V6.ofGroups [1, 0, 2, 3, 4, 5, 6, 7]).text = "1:0:2:3:4:5:6:7".toList := by decide
example : (V6.ofMapped (V4.ofOctets 1 2 3 4)).text = "::ffff:1.2.3.4".toList := by decide

end Ssdp
