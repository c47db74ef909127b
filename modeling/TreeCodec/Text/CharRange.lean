/-!
Sets of characters written as ranges of code points. A set has one normal form:
its ranges in ascending order, with gaps between them.
-/

namespace TreeCodec.Text

/-- The characters from one code point to another, both included. -/
structure CharRange where
  first : Nat
  last : Nat
deriving DecidableEq, Repr

def CharRange.contains (r : CharRange) (c : Char) : Bool :=
  r.first ≤ c.toNat && c.toNat ≤ r.last

def CharRange.of (c : Char) : CharRange := ⟨c.toNat, c.toNat⟩

/-- Whether some range of the set holds the character. -/
def inRanges (ranges : List CharRange) (c : Char) : Bool :=
  ranges.any (·.contains c)

/-- Adds a range to a set in normal form, joined with those that it touches. -/
def joinRange (r : CharRange) : List CharRange → List CharRange
  | [] => [r]
  | s :: rest =>
    if s.last + 1 < r.first then s :: joinRange r rest
    else if r.last + 1 < s.first then r :: s :: rest
    else joinRange ⟨min r.first s.first, max r.last s.last⟩ rest

def joinRanges (ranges : List CharRange) : List CharRange :=
  ranges.foldr joinRange []

def lastCodePoint : Nat := 0x10FFFF

/-- The gaps between the ranges of a normal form, from `start` on. -/
def gapsFrom (start : Nat) : List CharRange → List CharRange
  | [] => if start ≤ lastCodePoint then [⟨start, lastCodePoint⟩] else []
  | r :: ranges =>
    if start < r.first then ⟨start, r.first - 1⟩ :: gapsFrom (r.last + 1) ranges
    else gapsFrom (r.last + 1) ranges

/-- The characters outside a set. -/
def otherRanges (ranges : List CharRange) : List CharRange :=
  gapsFrom 0 (joinRanges ranges)

end TreeCodec.Text
