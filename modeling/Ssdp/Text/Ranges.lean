/-!
# Ranges of characters

A property that a standard gives to characters one by one is a table of ranges
of code points, in ascending order, ends included.

* `liesIn`: membership in one of the ranges;
* `isEverySecondIn`: the same for ranges of which only every second character is
  meant, as where capitals and small letters alternate.
-/

namespace Ssdp

/-- Whether a character lies in one of the ranges. -/
def liesIn (ranges : List (Nat × Nat)) (c : Char) : Bool :=
  ranges.any fun (low, high) => low ≤ c.toNat && c.toNat ≤ high

/-- Whether a character lies in one of the ranges, an even number of places after
its first character. -/
def isEverySecondIn (ranges : List (Nat × Nat)) (c : Char) : Bool :=
  ranges.any fun (low, high) => low ≤ c.toNat && c.toNat ≤ high && (c.toNat - low) % 2 == 0

end Ssdp
