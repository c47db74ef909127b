import TreeCodec.Pattern

/-!
Putting patterns together in normal form. A sequence within a sequence and a
choice within a choice are written out, alternatives that read one character
each become one class, and a beginning that all alternatives share stands in
front of the choice. Groups keep their boundaries.

The normal form is part of what an expression means. Where a shared beginning
can be read in several ways, all alternatives are tried behind the preferred
reading before any is tried behind the next one.
-/

namespace TreeCodec.Pattern

def parts : Pattern → List Pattern
  | empty => []
  | append p q => p.parts ++ q.parts
  | p => [p]

def branches : Pattern → List Pattern
  | either p q => p.branches ++ q.branches
  | p => [p]

/-- Patterns one after another, as they are. -/
def appendAll : List Pattern → Pattern
  | [] => empty
  | [p] => p
  | p :: rest => append p (appendAll rest)

/-- Patterns as alternatives, the first one preferred, as they are. -/
def eitherOf : List Pattern → Pattern
  | [] => empty
  | [p] => p
  | p :: rest => either p (eitherOf rest)

def sequence (ps : List Pattern) : Pattern :=
  appendAll (ps.flatMap parts)

/-- The class of a pattern that reads one character and nothing else. -/
def class? : Pattern → Option CharClass
  | oneOf cls => some cls
  | _ => none

def choice (ps : List Pattern) : Pattern :=
  let ps := ps.flatMap branches
  match ps, ps.mapM class? with
  | [p], _ => p
  | _, some classes => oneOf (.union classes)
  | _, none => eitherOf ps

/-- The longest beginning that two lists share. -/
def sharedStart : List Pattern → List Pattern → List Pattern
  | p :: ps, q :: qs => if p = q then p :: sharedStart ps qs else []
  | _, _ => []

/-- The longest beginning that all alternatives share. An alternative with
fewer than two parts shares nothing. -/
def commonStart (ps : List Pattern) : List Pattern :=
  match ps.map parts with
  | [] => []
  | first :: others =>
    if (first :: others).all fun ps => 2 ≤ ps.length then
      others.foldl sharedStart first
    else []

/-- Patterns as alternatives, the first one preferred. -/
def alternatives (ps : List Pattern) : Pattern :=
  let ps := ps.flatMap branches
  match ps, commonStart ps with
  | [p], _ => p
  | ps, [] => choice ps
  | ps, start =>
    sequence
      (start ++ [choice (ps.map fun p => appendAll (p.parts.drop start.length))])

/-- From `low` to `high` rounds of a pattern. Of rounds that read nothing one
is as good as many. -/
def rounds (greedy : Bool) (low : Nat) (high : Option Nat) (p : Pattern) :
    Pattern :=
  let (low, high) :=
    if p.isSilent then (min low 1, some (min (high.getD 1) 1)) else (low, high)
  match low, high with
  | 0, some 0 => empty
  | 1, some 1 => p
  | low, high => repeated greedy low high p

end TreeCodec.Pattern
