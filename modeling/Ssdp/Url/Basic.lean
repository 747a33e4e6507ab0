import Ssdp.Net.Address.Printer

/-!
# Locations

The absolute URLs under which devices publish their descriptions, in their parts,
and their written form.

* `WebUrl.text`: the URL as it is written;
* `WebUrlError`: why a text is no absolute URL.
-/

namespace Ssdp

/-- Why a text is no absolute URL. -/
inductive WebUrlError where
  | emptyHost
  | invalidDomain
  | invalidPort
  | invalidV4
  | invalidV6
  | invalidHostCharacter
  | withoutScheme
deriving DecidableEq, Repr

/-- The text of a URL error. -/
def WebUrlError.message : WebUrlError → Text
  | .emptyHost => "empty host".toList
  | .invalidDomain => "invalid international domain name".toList
  | .invalidPort => "invalid port number".toList
  | .invalidV4 => "invalid IPv4 address".toList
  | .invalidV6 => "invalid IPv6 address".toList
  | .invalidHostCharacter => "invalid domain character".toList
  | .withoutScheme => "relative URL without a base".toList

/-- The host of a URL. -/
inductive UrlHost where
  | name (text : Text)
  | v4 (ip : V4)
  | v6 (ip : V6)
deriving DecidableEq, Repr

/-- The host as it is written: version 6 in brackets, in hexadecimal alone. -/
def UrlHost.text : UrlHost → Text
  | name text => text
  | v4 ip => ip.text
  | v6 ip => '[' :: ip.hexText ++ [']']

/-- The part of a URL between `//` and the path: the user with an optional
password, the host, and a port other than the scheme's own. -/
structure Authority where
  user : Text := []
  password : Option Text := none
  host : UrlHost
  port : Option Nat := none
deriving DecidableEq, Repr

/-- The authority as it is written. -/
def Authority.text (a : Authority) : Text :=
  let password := match a.password with
    | some text => ':' :: text
    | none => []
  let credentials := a.user ++ password
  let port := match a.port with
    | some n => ':' :: Text.decimal n
    | none => []
  (if credentials.isEmpty then [] else credentials ++ ['@']) ++ a.host.text ++ port

/-- An absolute URL in its parts, percent-encoded. -/
structure WebUrl where
  scheme : Text
  authority : Option Authority := none
  path : Text
  query : Option Text := none
  fragment : Option Text := none
deriving DecidableEq, Repr

/-- The URL as it is written. A path that begins with two slashes is kept apart
from an authority by `/.` in front of it. -/
def WebUrl.text (u : WebUrl) : Text :=
  let authority := match u.authority with
    | some a => "//".toList ++ a.text
    | none => if "//".toList.isPrefixOf u.path then "/.".toList else []
  let query := match u.query with
    | some text => '?' :: text
    | none => []
  let fragment := match u.fragment with
    | some text => '#' :: text
    | none => []
  u.scheme ++ ':' :: authority ++ u.path ++ query ++ fragment

end Ssdp
