import Ssdp.Url.PercentCoding

/-!
# Paths of URLs

A path is read segment by segment up to a `?` or `#`. A segment `.` is dropped,
and a segment `..` is dropped together with the segment before it; both may be
written with percent-encoded dots. Special schemes take a backslash for a slash,
and `file` spells the drive letter in a first segment with a colon. The slash
after a drive letter is never taken back. Tabs and line breaks are skipped.

* `readPath`: the path, and what follows it;
* `readFilePath`: the same for the scheme `file`, where a path may be on a drive.
-/

namespace Ssdp

/-- How a scheme reads its paths. -/
structure PathRules where
  special : Bool
  file : Bool
deriving DecidableEq, Repr

/-- Whether the character ends a segment. -/
def PathRules.isSlash (rules : PathRules) (c : Char) : Bool :=
  c == '/' || (rules.special && c == '\\')

/-- Whether the character ends the path. -/
def endsPath (c : Char) : Bool :=
  c == '?' || c == '#'

/-- Whether the character is a tab or a line break. -/
def isTabOrBreak (c : Char) : Bool :=
  c == '\t' || c == '\n' || c == '\r'

/-- A letter and a colon or a bar. -/
def isDriveLetter : Text → Bool
  | [c, d] => c.isAlpha && (d == ':' || d == '|')
  | _ => false

/-- Whether a segment is a drive letter, as far as a backslash in it may end it. -/
def beginsWithDrive (segment : Text) : Bool :=
  isDriveLetter (segment.take 2) && (segment.length = 2 || segment[2]? == some '\\')

/-- A segment that stands for the one above. -/
def isDoubleDot (segment : Text) : Bool :=
  ["..".toList, ".%2e".toList, "%2e.".toList, "%2e%2e".toList].contains (Text.foldCase segment)

/-- A segment that stands for its own place. -/
def isSingleDot (segment : Text) : Bool :=
  [".".toList, "%2e".toList].contains (Text.foldCase segment)

/-- A path as far as it is read, its last character first, and whether its first
segment is the drive letter of a `file`. -/
structure PathSoFar where
  behind : Text
  onDrive : Bool := false
deriving DecidableEq, Repr

namespace PathSoFar

/-- The path from its beginning. -/
def text (path : PathSoFar) : Text :=
  path.behind.reverse

/-- Whether no more than the slash in front of the first segment is read. -/
def atFirstSegment (path : PathSoFar) : Bool :=
  match path.behind with
  | [_] => true
  | _ => false

end PathSoFar

/-- A path, ended by a slash, without its last segment; of any other, what is up to
its last slash. The paths are written with the last character first. -/
def dropSegment (behind : Text) : Text :=
  match behind with
  | '/' :: above =>
    if above.contains '/' && !beginsWithDrive (above.takeWhile (· != '/')).reverse then
      above.dropWhile (· != '/')
    else behind
  | _ => behind.dropWhile (· != '/')

/-- The path so far, with one more segment; `slash` tells whether a slash
follows the segment. -/
def addSegment (rules : PathRules) (path : PathSoFar) (segment : Text) (slash : Bool) :
    PathSoFar :=
  if isDoubleDot segment then
    let up := dropSegment path.behind
    { path with behind := if slash && up.isEmpty then ['/'] else up }
  else if isSingleDot segment then
    { path with behind := if path.behind.isEmpty then ['/'] else path.behind }
  else
    let onDrive := rules.file && path.atFirstSegment && isDriveLetter segment
    let segment := if onDrive then segment.take 1 ++ [':'] else segment
    let behind := segment.reverse ++ path.behind
    { behind := if slash then '/' :: behind else behind, onDrive := path.onDrive || onDrive }

/-- Whether a drive letter is read, the last character first, that a tab or line
break parts from more of the first segment of a `file`: a slash is put there. -/
def isPartedDrive (rules : PathRules) (path : PathSoFar) (segment after : Text) : Bool :=
  match segment with
  | [':', c] =>
    rules.file && path.atFirstSegment && c.isAlpha &&
      match after.dropWhile isTabOrBreak with
      | [] => false
      | c :: _ => !endsPath c && !rules.isSlash c
  | _ => false

/-- The segments of a text added to a path; the text that is left begins with
what ended the path. `segment` holds what has been read of the segment at hand, its
last character first. -/
def readSegments (rules : PathRules) (path : PathSoFar) (segment : Text) :
    Text → PathSoFar × Text
  | [] => (addSegment rules path segment.reverse false, [])
  | c :: rest =>
    if endsPath c then (addSegment rules path segment.reverse false, c :: rest)
    else if rules.isSlash c then
      readSegments rules (addSegment rules path segment.reverse true) [] rest
    else if isTabOrBreak c then
      readSegments rules path
        (if isPartedDrive rules path segment rest then '/' :: segment else segment) rest
    else
      readSegments rules path ((percentEncode inPathSet [c]).reverse ++ segment) rest

/-- The path of a `file`, from the text after `start`, whether it is on a drive, and
what follows it. The path begins with a single slash. -/
def readFilePath (start t : Text) : Text × Bool × Text :=
  let (path, rest) := readSegments ⟨true, true⟩ { behind := start } [] t
  ('/' :: path.text.dropWhile (· == '/'), path.onDrive, rest)

/-- The path of a URL of any other scheme, with an authority or with a slash in
front, and what follows it. -/
def readPath (special : Bool) (t : Text) : Text × Text :=
  let read (start t : Text) : Text × Text :=
    let (path, rest) := readSegments ⟨special, false⟩ { behind := start } [] t
    (path.text, rest)
  match t with
  | [] => (if special then ['/'] else [], [])
  | c :: rest =>
    if special then read ['/'] (if c == '/' || c == '\\' then rest else t)
    else if endsPath c then ([], t)
    else if c == '/' then read [] t
    else read ['/'] t

example : readPath true "/a/%2e%2E/b?q".toList = ("/b".toList, "?q".toList) := by decide
example : readPath true "/..".toList = ("/".toList, []) := by decide
example : readPath true "/C:/../x".toList = ("/C:/x".toList, []) := by decide
example : readPath false "".toList = ([], []) := by decide
example : readFilePath [] "/.//c|/x".toList = ("/c|/x".toList, false, []) := by decide
example : readFilePath ['/'] "./c|/x".toList = ("/c:/x".toList, true, []) := by decide

end Ssdp
