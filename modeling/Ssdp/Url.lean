import Ssdp.Text.Basic

/-!
# Locations

Devices publish their descriptions under absolute URLs. Which texts are such URLs,
and how they are written in their normal form, is left to a parser; all that matters
of it here is that the empty text is none.

* `Url`, `UrlError`: a URL, and why a text is none;
* `UrlParser`: what reads URLs;
* `UrlParser.verbatim`: a parser that takes addresses of the web as they are written.
-/

namespace Ssdp

/-- An absolute URL, in its normal form: two URLs are the same if they are written
alike. -/
structure Url where
  text : Text
deriving DecidableEq, Repr

/-- Why a text is no absolute URL, in the words of the parser. -/
structure UrlError where
  message : Text
deriving DecidableEq, Repr

/-- A parser of absolute URLs. Each begins with a scheme, so the empty text is none. -/
class UrlParser where
  read? : Text → Except UrlError Url
  read?_nil (url : Url) : read? [] ≠ .ok url

namespace UrlParser

/-- How the addresses begin that are taken as they are written. -/
def webScheme : Text := "http://".toList

/-- A parser for addresses that are written in their normal form: what begins with
`http://` is taken as it stands, and nothing else. -/
@[reducible] def verbatim : UrlParser where
  read? t :=
    if webScheme.isPrefixOf t then .ok ⟨t⟩ else .error ⟨"relative URL without a base".toList⟩
  read?_nil _ := nofun

end UrlParser

end Ssdp
