import TreeCodec.Text.CharRange

/-!
Patterns: regular expressions with an order of preference. Of the ways in which
a pattern can match at a place, an alternative on the left goes before one on
the right, a greedy repetition goes on as long as it can, and a lazy one stops
as soon as it can.

A round of a repetition that reads nothing does not start the repetition again.
`Pattern.program` says so by its shape and `Pattern.Program.explore` by visiting
no instruction twice, so the number of ways never matters for the time.
-/

namespace TreeCodec

open Text

/-- A set of characters, as ranges in normal form. -/
structure CharClass where
  ranges : List CharRange
deriving DecidableEq, Repr

namespace CharClass

def contains (cls : CharClass) (c : Char) : Bool :=
  inRanges cls.ranges c

/-- The characters of some ranges, whatever their order. -/
def of (ranges : List CharRange) : CharClass :=
  ⟨joinRanges ranges⟩

def ofChar (c : Char) : CharClass :=
  ⟨[.of c]⟩

def others (cls : CharClass) : CharClass :=
  ⟨otherRanges cls.ranges⟩

/-- The characters of any of the classes. -/
def union (classes : List CharClass) : CharClass :=
  .of (classes.flatMap ranges)

end CharClass

inductive Pattern where
  | empty
  | oneOf (cls : CharClass)
  | startOfText
  | endOfText
  | append (first second : Pattern)
  /-- Prefers `first`. -/
  | either (first second : Pattern)
  /-- At least `low` rounds, at most `high` of them if there is a bound. A
  greedy repetition prefers more rounds. -/
  | repeated (greedy : Bool) (low : Nat) (high : Option Nat) (body : Pattern)
  /-- The group of that number. It matches as its body does. -/
  | group (number : Nat) (body : Pattern)
deriving DecidableEq, Repr

namespace Pattern

/-- Whether no match reads anything. -/
def isSilent : Pattern → Bool
  | empty | startOfText | endOfText => true
  | oneOf _ => false
  | append p q | either p q => p.isSilent && q.isSilent
  | repeated _ _ _ p | group _ p => p.isSilent

/-- The least number of characters that a match reads. There is none if some
part of the pattern is a class without characters. -/
def shortest? : Pattern → Option Nat
  | empty | startOfText | endOfText => some 0
  | oneOf cls => if cls.ranges.isEmpty then none else some 1
  | append p q => do return (← p.shortest?) + (← q.shortest?)
  | either p q => do return min (← p.shortest?) (← q.shortest?)
  | repeated _ low _ p => p.shortest?.map (low * ·)
  | group _ p => p.shortest?

/-- Whether it is known that every match reads something. -/
def readsAlways (p : Pattern) : Bool :=
  p.shortest?.any (0 < ·)

/-- Whether the pattern begins with a demand for the start of the text. -/
def demandsStart : Pattern → Bool
  | startOfText => true
  | append p _ => p.demandsStart
  | group _ p => p.demandsStart
  | _ => false

end Pattern

end TreeCodec
