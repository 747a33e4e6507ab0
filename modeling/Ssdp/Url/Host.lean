import Ssdp.Url.Basic
import Ssdp.Url.PercentCoding
import Ssdp.Url.Label
import Ssdp.Net.Address.Parser

/-!
# Hosts of URLs

A host in brackets is an address of version 6. The host of a special scheme is
otherwise percent-decoded and put into small letters; it must be free of the
characters that no domain may hold, and if its last label is a number, the
whole is an address of version 4, whose parts may be decimal, octal or
hexadecimal and whose last part fills the remaining octets. Names are of ASCII
characters; a name with others is refused, and so is one whose labels stand for
no domain. Any other scheme takes its host as it is written.
-/

namespace Ssdp

/-- A part of a version 4 address: decimal, octal after `0`, hexadecimal after
`0x`. The prefix alone stands for zero. No larger numbers are told apart than an
address can hold. -/
def hostNumber? (label : Text) : Option Nat :=
  let value? (base : Nat) (digits : Text) := Text.valueUpTo? base 0x100000000 digits
  match label with
  | [] => none
  | '0' :: 'x' :: digits => value? 16 digits
  | '0' :: 'X' :: digits => value? 16 digits
  | '0' :: d :: digits => value? 8 (d :: digits)
  | digits => value? 10 digits

/-- The labels of a domain, without the empty one that a final dot leaves. -/
def domainLabels (domain : Text) : List Text :=
  let labels := Text.splitOnChar '.' domain
  if labels.length > 1 && labels.getLast? == some [] then labels.dropLast else labels

/-- Whether the last label of a domain is a number. -/
def endsInNumber (domain : Text) : Bool :=
  match (domainLabels domain).getLast? with
  | some label => !label.isEmpty && (label.all Text.isDigitChar || (hostNumber? label).isSome)
  | none => false

/-- The address that numbers stand for: all but the last are octets, and the
last fills the octets that are left. -/
def v4OfNumbers? (numbers : List Nat) : Option V4 :=
  match numbers.getLast? with
  | none => none
  | some last =>
    let octets := numbers.dropLast
    let room := Nat.pow 256 (4 - octets.length)
    if octets.length > 3 || last ≥ room || octets.any (· > 255) then none
    else some ⟨BitVec.ofNat 32 (octets.foldl (fun n o => n * 256 + o) 0 * room + last)⟩

/-- The characters that no domain may hold: controls, the space, delete, and
the delimiters of URLs. -/
def isForbiddenInDomain (c : Char) : Bool :=
  isControlOrBeyond c ||
    [' ', '%', '#', '/', ':', '<', '>', '?', '@', '[', '\\', ']', '^', '|'].contains c

/-- The characters that no host may hold, whatever the scheme. -/
def isForbiddenInHost (c : Char) : Bool :=
  ['\x00', '\t', '\n', '\r', ' ', '#', '/', ':', '<', '>', '?', '@', '[', '\\', ']', '^',
    '|'].contains c

namespace UrlHost

/-- The address between brackets, when the text begins with one. -/
def readBracketed (body : Text) : Except WebUrlError UrlHost :=
  if body.getLast? == some ']' then
    match V6.read? body.dropLast with
    | some ip => .ok (.v6 ip)
    | none => .error .invalidV6
  else .error .invalidV6

/-- The host of a special scheme. -/
def readDomain (t : Text) : Except WebUrlError UrlHost :=
  match t with
  | '[' :: body => readBracketed body
  | _ =>
    let domain := Text.foldCase (percentDecode t)
    if domain.any isForbiddenInDomain || !isDomain (domainLabels domain) then
      .error .invalidDomain
    else if domain.isEmpty then .error .emptyHost
    else if endsInNumber domain then
      match ((domainLabels domain).mapM hostNumber?).bind v4OfNumbers? with
      | some ip => .ok (.v4 ip)
      | none => .error .invalidV4
    else .ok (.name domain)

/-- The host of any other scheme. -/
def readPlain (t : Text) : Except WebUrlError UrlHost :=
  match t with
  | '[' :: body => readBracketed body
  | _ =>
    if t.any isForbiddenInHost then .error .invalidHostCharacter
    else .ok (.name (percentEncode isControlOrBeyond t))

end UrlHost

example : (UrlHost.readDomain "0300.0x1".toList).toOption = some (.v4 (.ofOctets 192 0 0 1)) := by
  decide +kernel
example : (UrlHost.readDomain "1.2.3.4.5".toList).toOption = none := by decide +kernel
example : (UrlHost.readDomain "h..X".toList).toOption = some (.name "h..x".toList) := by
  decide +kernel

end Ssdp
