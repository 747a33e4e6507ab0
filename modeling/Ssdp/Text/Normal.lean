import Ssdp.Text.CombiningClass
import Ssdp.Text.Composition

/-!
# Normal form

A letter with marks can be written in several ways. In the normal form of
composition every character is first taken apart, then the marks after a letter
are put in the order of their combining classes, and then each is joined to the
letter where the two compose, unless a mark in between is set in the same place.
The compositions are those of small letters and signs; of other texts the form is
not that of the standard.

* `normalize`: the normal form of a text.
-/

namespace Ssdp.Text

/-- The characters that a character is composed of, taken apart so many times. -/
def decomposeChar : Nat → Char → Text
  | 0, c => [c]
  | depth + 1, c =>
    match parts? c with
    | some (first, second) => decomposeChar depth first ++ [second]
    | none => [c]

/-- The text with every character taken apart. No composite has more than two marks. -/
def decompose (t : Text) : Text :=
  t.flatMap (decomposeChar 2)

/-- A character put in front of an ordered text: a mark is moved behind the marks of
lower classes. -/
def insertMark (c : Char) : Text → Text
  | [] => [c]
  | d :: rest =>
    if combiningClass d ≠ 0 ∧ combiningClass d < combiningClass c then d :: insertMark c rest
    else c :: d :: rest

/-- The text with the marks after each letter in the order of their classes. -/
def orderMarks (t : Text) : Text :=
  t.foldr insertMark []

/-- Whether a mark between a letter and a character is set in the same place as the
character, or the character begins anew. -/
def isBlocked (between : Text) (c : Char) : Bool :=
  match between.getLast? with
  | some d => combiningClass c ≤ combiningClass d
  | none => false

/-- What follows a letter, joined to it as far as it composes; the marks between the
letter and the rest did not. -/
def composeAfter (letter : Char) (between : Text) : Text → Text
  | [] => letter :: between
  | c :: rest =>
    match if isBlocked between c then none else compose? letter c with
    | some composite => composeAfter composite between rest
    | none =>
      if combiningClass c = 0 then letter :: between ++ composeAfter c [] rest
      else composeAfter letter (between ++ [c]) rest

/-- The text with marks joined to the letters before them. -/
def composeMarks (t : Text) : Text :=
  let leading := t.takeWhile fun c => combiningClass c != 0
  match t.dropWhile fun c => combiningClass c != 0 with
  | [] => leading
  | letter :: rest => leading ++ composeAfter letter [] rest

/-- The normal form of a text. -/
def normalize (t : Text) : Text :=
  composeMarks (orderMarks (decompose t))

example : normalize "e\u0301".toList = "é".toList := by decide +kernel
example : normalize "â\u0323".toList = "ậ".toList := by decide +kernel
example : normalize "\u1112\u1161\u11ab".toList = "한".toList := by decide +kernel
example : normalize "q\u0301\u0323".toList = "q\u0323\u0301".toList := by decide +kernel

end Ssdp.Text
