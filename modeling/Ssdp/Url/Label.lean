import Ssdp.Text.Direction
import Ssdp.Text.Joining
import Ssdp.Text.Normal
import Ssdp.Url.LabelCharacter
import Ssdp.Url.Punycode

/-!
# Labels of domains

A label of a domain that begins with `xn--` stands for a label with characters
beyond ASCII, written in Punycode. What it stands for has to be in its plain and
normal form, may not begin with a mark, and has the signs about joining only where
they change how letters are written. If any label of a domain has letters that are
written from right to left, every label has to be of one direction.

* `readLabel?`: the label that is meant;
* `isDomain`: whether labels make up a domain.
-/

namespace Ssdp

/-- The most characters of a label in Punycode after `xn--`. -/
def punycodeLimit : Nat := 2000

/-- The most characters of a label beyond ASCII. -/
def labelLimit : Nat := 1000

/-- Whether the letter after some text joins what is next to it: the next character
that joining does not pass through has to. -/
def meetsJoining (joins : Char → Bool) (t : Text) : Bool :=
  match t.dropWhile isTransparent with
  | c :: _ => joins c
  | [] => false

/-- Whether a sign about joining changes how the letters around it are written: both
do after a virama, and the one against joining where two letters would be joined.
`before` is the text in front of the sign, its last character first. -/
def joinerMatters (before : Text) (c : Char) (after : Text) : Bool :=
  before.head?.any isVirama ||
    (c == nonJoiner && meetsJoining joinsNext before && meetsJoining joinsPrevious after)

/-- Whether every sign about joining in a text matters; `before` is what precedes the
text, its last character first. -/
def joinersMatter (before : Text) : Text → Bool
  | [] => true
  | c :: after =>
    ((c != nonJoiner && c != joiner) || joinerMatters before c after) &&
      joinersMatter (c :: before) after

/-- Whether a label beyond ASCII is written as it should be. -/
def isWellFormedLabel (label : Text) : Bool :=
  label.all isLabelCharacter && !label.head?.any isMark && joinersMatter [] label &&
    label.length ≤ labelLimit && label.normalize == label

/-- The label that is meant by a label of small letters, unless it stands for none. -/
def readLabel? (label : Text) : Option Text :=
  if "xn--".toList.isPrefixOf label then
    let code := label.drop 4
    if code.isEmpty || code.getLast? == some '-' || code.length > punycodeLimit then none
    else (Punycode.decode? code).filter isWellFormedLabel
  else some label

/-- Whether a character is written from right to left. -/
def runsLeft (c : Char) : Bool :=
  direction c == .rightToLeft || direction c == .arabicDigit

/-- The directions of a label, without those of the marks at its end. -/
def labelDirections (label : Text) : List Direction :=
  ((label.map direction).reverse.dropWhile (· == .mark)).reverse

/-- Whether a label that begins with a letter is of the direction of that letter: it
has no letters of the other, ends with a letter or a digit, and from right to left
its digits are of one kind. -/
def hasOneDirection (label : Text) : Bool :=
  match labelDirections label with
  | [] => true
  | .leftToRight :: rest =>
    rest.all (fun d => d != .rightToLeft && d != .arabicDigit) &&
      rest.getLast?.all (fun d => d == .leftToRight || d == .digit)
  | .rightToLeft :: rest =>
    rest.all (· != .leftToRight) && !(rest.contains .digit && rest.contains .arabicDigit) &&
      rest.getLast?.all (fun d => d == .rightToLeft || d == .digit || d == .arabicDigit)
  | _ => false

/-- Whether labels of small letters make up a domain. -/
def isDomain (labels : List Text) : Bool :=
  match labels.mapM readLabel? with
  | some labels => !labels.any (·.any runsLeft) || labels.all hasOneDirection
  | none => false

example : readLabel? "xn--bcher-kva".toList = some "bücher".toList := by decide +kernel
example : readLabel? "xn--bcher-2pa".toList = none := by decide +kernel
example : readLabel? "xn--e-xbb".toList = none := by decide +kernel
example : readLabel? "xn--abc-".toList = none := by decide +kernel
example : isDomain ["a1".toList, "xn--4dbrk0ce".toList] = true := by decide +kernel
example : isDomain ["1".toList, "xn--4dbrk0ce".toList] = false := by decide +kernel

end Ssdp
