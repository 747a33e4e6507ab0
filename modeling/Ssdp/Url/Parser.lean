import Ssdp.Url.Host
import Ssdp.Url.Path

/-!
# Reading URLs

Absolute URLs are read as on the web: controls and spaces around the text are
dropped, tabs and line breaks everywhere; a scheme is required. The special
schemes `http`, `https`, `ws`, `wss` and `ftp` have an authority however many
slashes follow the colon, `file` has a host or none, and any other scheme has an
authority after `//`, a path after `/`, and else a path without segments. A
`file` whose path is on a drive has no host.

* `WebUrl.read?`: the URL that a text stands for.
-/

namespace Ssdp

/-- The port that a scheme uses when none is given. -/
def defaultPort? (scheme : Text) : Option Nat :=
  if scheme = "http".toList ∨ scheme = "ws".toList then some 80
  else if scheme = "https".toList ∨ scheme = "wss".toList then some 443
  else if scheme = "ftp".toList then some 21
  else none

/-- Whether the scheme is special and has a port of its own. -/
def isSpecialScheme (scheme : Text) : Bool :=
  (defaultPort? scheme).isSome

/-- Whether the character may stand in a scheme after its first letter. -/
def isSchemeChar (c : Char) : Bool :=
  c.isAlphanum || c == '+' || c == '-' || c == '.'

/-- The scheme, in small letters, and what follows its colon. -/
def readScheme? (t : Text) : Option (Text × Text) :=
  match t.takeWhile isSchemeChar, t.dropWhile isSchemeChar with
  | c :: scheme, ':' :: rest => if c.isAlpha then some (Text.foldCase (c :: scheme), rest) else none
  | _, _ => none

/-- Whether the character ends the authority. -/
def endsAuthority (special : Bool) (c : Char) : Bool :=
  c == '/' || c == '?' || c == '#' || (special && c == '\\')

/-- The credentials in front of the last `@` of the authority, and the text
after it. -/
def splitCredentials (special : Bool) (t : Text) : Option (Text × Text) :=
  let front := t.takeWhile (!endsAuthority special ·)
  if front.contains '@' then
    let host := (front.reverse.takeWhile (· != '@')).reverse
    some (front.take (front.length - host.length - 1), t.drop (front.length - host.length))
  else none

/-- The user and the password, encoded; an empty password counts as none. -/
def readCredentials (credentials : Text) : Text × Option Text :=
  match Text.splitAtFirst ':' credentials with
  | none => (percentEncode inUserSet credentials, none)
  | some (user, password) =>
    (percentEncode inUserSet user,
      if password.isEmpty then none else some (percentEncode inUserSet password))

/-- The host part of a text and what follows it: it ends at a colon outside
brackets, or with the authority. -/
def splitHost (special : Bool) (inBrackets : Bool) : Text → Text × Text
  | [] => ([], [])
  | c :: rest =>
    if (c == ':' && !inBrackets) || endsAuthority special c then ([], c :: rest)
    else
      let inBrackets := c == '[' || (inBrackets && c != ']')
      let (host, after) := splitHost special inBrackets rest
      (c :: host, after)

/-- The port after a colon, unless it is the scheme's own, and what follows it. -/
def readUrlPort (scheme : Text) (t : Text) : Except WebUrlError (Option Nat × Text) :=
  let digits := t.takeWhile Text.isDigitChar
  let rest := t.dropWhile Text.isDigitChar
  let port := (Text.valueUpTo? 10 65536 digits).getD 0
  let ended := match rest with
    | [] => true
    | c :: _ => endsAuthority true c
  if port > 65535 || !ended then .error .invalidPort
  else .ok (if digits.isEmpty || some port == defaultPort? scheme then none else some port, rest)

/-- The query and the fragment of a URL, encoded. -/
def readQueryAndFragment (special : Bool) (t : Text) : Option Text × Option Text :=
  let fragment (t : Text) := percentEncode inFragmentSet t
  match t with
  | '?' :: rest =>
    let set := if special then inSpecialQuerySet else inQuerySet
    let query := percentEncode set (rest.takeWhile (· != '#'))
    match rest.dropWhile (· != '#') with
    | [] => (some query, none)
    | _ :: rest => (some query, some (fragment rest))
  | '#' :: rest => (none, some (fragment rest))
  | _ => (none, none)

namespace WebUrl

/-- A URL from the parts before its path and the text after them. -/
def withPath (scheme : Text) (authority : Option Authority) (special : Bool) (t : Text) : WebUrl :=
  let (path, rest) := readPath special t
  let (query, fragment) := readQueryAndFragment special rest
  { scheme, authority, path, query, fragment }

/-- The URL of a scheme with an authority, from the text after the slashes. -/
def readAuthority (scheme : Text) (special : Bool) (t : Text) : Except WebUrlError WebUrl := do
  let (credentials, rest) := (splitCredentials special t).getD ([], t)
  let emptyBeforeEnd := match splitCredentials special t, rest with
    | some ([], _), c :: _ => endsAuthority special c
    | _, _ => false
  if emptyBeforeEnd then .error .emptyHost
  let (user, password) := readCredentials credentials
  let (hostText, rest) := splitHost special false rest
  if special && hostText.isEmpty then .error .emptyHost
  let host ← if special then UrlHost.readDomain hostText else UrlHost.readPlain hostText
  if host = .name [] && rest.head? == some ':' then .error .emptyHost
  let (port, rest) ← match rest with
    | ':' :: rest => readUrlPort scheme rest
    | rest => .ok (none, rest)
  if host = .name [] && (!user.isEmpty || password.isSome) then .error .emptyHost
  return withPath scheme (some { user, password, host, port }) special rest

/-- The text without tabs and line breaks. -/
def withoutBreaks (t : Text) : Text :=
  t.filter fun c => !isTabOrBreak c

/-- The URL of the scheme `file` with a host, from the start of its path and the
text after that. On a drive the host is dropped. -/
def withFilePath (host : UrlHost) (start t : Text) : WebUrl :=
  let (path, onDrive, rest) := readFilePath start t
  let (query, fragment) := readQueryAndFragment true (withoutBreaks rest)
  let host := if onDrive then .name [] else host
  { scheme := "file".toList, authority := some { host }, path, query, fragment }

/-- What follows the slash or backslash with which a text begins. -/
def afterSlash? (t : Text) : Option Text :=
  match t.dropWhile isTabOrBreak with
  | c :: rest => if c == '/' || c == '\\' then some rest else none
  | [] => none

/-- The URL of the scheme `file`, from the text after two slashes. A path or a drive
letter may stand there at once, and `localhost` counts as no host; the path then
keeps all slashes that follow, and else begins with the first of them. -/
def readFileHost (t : Text) : Except WebUrlError WebUrl :=
  let hostText := withoutBreaks (t.takeWhile (!endsAuthority true ·))
  let after := t.dropWhile (!endsAuthority true ·)
  if hostText.isEmpty || isDriveLetter hostText then .ok (withFilePath (.name []) ['/'] t)
  else
    (UrlHost.readDomain hostText).map fun host =>
      if host = .name "localhost".toList then withFilePath (.name []) ['/'] after
      else withFilePath host ['/'] ((afterSlash? after).getD after)

/-- The URL of the scheme `file`, from the text after the colon. -/
def readFile (t : Text) : Except WebUrlError WebUrl :=
  match afterSlash? t, (afterSlash? t).bind afterSlash? with
  | none, _ => .ok (withFilePath (.name []) ['/'] t)
  | some _, none => .ok (withFilePath (.name []) [] t)
  | some _, some rest => readFileHost rest

/-- The URL of a scheme whose path has no segments. -/
def readRootless (scheme t : Text) : WebUrl :=
  let path := percentEncode isControlOrBeyond (t.takeWhile (!endsPath ·))
  let (query, fragment) := readQueryAndFragment false (t.dropWhile (!endsPath ·))
  { scheme, path, query, fragment }

/-- The text without controls and spaces around it. -/
def withoutEdges (t : Text) : Text :=
  let isEdge (c : Char) : Bool := c.toNat ≤ 0x20
  Text.dropWhileEnd isEdge (t.dropWhile isEdge)

/-- The absolute URL that a text stands for. The scheme `file` reads its text with
the tabs and line breaks in it. -/
def read? (t : Text) : Except WebUrlError WebUrl :=
  let t := withoutEdges t
  match readScheme? (withoutBreaks t) with
  | none => .error .withoutScheme
  | some (scheme, rest) =>
    if scheme = "file".toList then readFile ((t.dropWhile (· != ':')).drop 1)
    else if isSpecialScheme scheme then
      readAuthority scheme true (rest.dropWhile fun c => c == '/' || c == '\\')
    else
      match rest with
      | '/' :: '/' :: rest => readAuthority scheme false rest
      | '/' :: _ => .ok (withPath scheme none false rest)
      | _ => .ok (readRootless scheme rest)

end WebUrl

end Ssdp
