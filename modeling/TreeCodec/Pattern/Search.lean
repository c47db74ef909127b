import TreeCodec.Pattern.Program

/-!
Running the program of a pattern. All ways are followed at once, character by
character, in the order of preference. At each place `Program.explore` follows
the instructions that read nothing and visits none of them twice: of two ways
that meet, only the preferred one goes on.

`Pattern.find` looks for the leftmost match, the preferred one of those that
begin there.
-/

namespace TreeCodec

namespace Pattern

/-- A set of addresses, as the bits of a number. -/
structure AddressSet where
  bits : Nat
deriving DecidableEq, Repr

namespace AddressSet

def empty : AddressSet := ⟨0⟩

def contains (s : AddressSet) (address : Nat) : Bool :=
  s.bits.testBit address

def insert (s : AddressSet) (address : Nat) : AddressSet :=
  ⟨s.bits ||| 1 <<< address⟩

theorem contains_insert (s : AddressSet) (a b : Nat) :
    (s.insert a).contains b = (s.contains b || decide (a = b)) := by
  simp [contains, insert, Nat.testBit_or, Nat.one_shiftLeft, Nat.testBit_two_pow]

end AddressSet

structure Place where
  atStart : Bool
  atEnd : Bool
deriving DecidableEq, Repr

/-- What is known at a place: the addresses visited, the reading instructions
among them (newest first), and whether a match ends here. What a match that
ends here is preferred to is not visited. -/
structure Frontier where
  visited : AddressSet
  reading : List (CharClass × Nat)
  accepted : Bool
deriving DecidableEq, Repr

namespace Frontier

def initial : Frontier := ⟨.empty, [], false⟩

def visit (f : Frontier) (address : Nat) : Frontier :=
  { f with visited := f.visited.insert address }

def wait (f : Frontier) (cls : CharClass) (next : Nat) : Frontier :=
  { f with reading := (cls, next) :: f.reading }

def accept (f : Frontier) : Frontier :=
  { f with accepted := true }

/-- Where the ways go on that can read the character, preferred ones first. -/
def after (f : Frontier) (c : Char) : List Nat :=
  f.reading.foldl
    (fun addresses way =>
      if way.1.contains c then way.2 :: addresses else addresses)
    []

end Frontier

def Instruction.ways (place : Place) : Instruction → List Nat
  | .ifStart next => if place.atStart then [next] else []
  | .ifEnd next => if place.atEnd then [next] else []
  | .jump next => [next]
  | .fork first second => [first, second]
  | .accept | .read _ _ => []

/-- Visits what can be reached without reading, in order of preference, and
stops at a match. Every round visits an address that has not been visited, so
as many rounds as there are instructions are enough. -/
def Program.explore (program : Program) (place : Place) :
    (rounds : Nat) → (todo : List Nat) → Frontier → Frontier
  | 0, _, f => f
  | rounds + 1, todo, f =>
    match todo.dropWhile f.visited.contains with
    | [] => f
    | address :: todo =>
      match program[address]? with
      | none => program.explore place rounds todo (f.visit address)
      | some .accept => (f.visit address).accept
      | some (.read cls next) =>
        program.explore place rounds todo ((f.visit address).wait cls next)
      | some instruction =>
        program.explore place rounds (instruction.ways place ++ todo)
          (f.visit address)

/-- What is left of the text behind the preferred match of those that go on at
the addresses. A way that reads on is preferred to a match that ends here. -/
def Program.restFrom? (program : Program) (atStart : Bool) (todo : List Nat)
    (text : List Char) : Option (List Char) :=
  let frontier :=
    program.explore ⟨atStart, text.isEmpty⟩ program.size todo .initial
  let here := if frontier.accepted then some text else none
  match text with
  | [] => here
  | c :: rest =>
    match frontier.after c with
    | [] => here
    | todo => (program.restFrom? false todo rest).or here

/-- What is left of a text behind the preferred match that begins with it. -/
def Program.restAfter? (program : Program) (atStart : Bool) (text : List Char) :
    Option (List Char) :=
  program.restFrom? atStart [program.entry] text

end Pattern

/-- A match: the text in front of it, the text matched and the text behind. -/
structure Found where
  before : List Char
  text : List Char
  after : List Char
deriving DecidableEq, Repr

/-- The number of bytes of a text in UTF-8. -/
def byteCount (text : List Char) : Nat :=
  (text.map fun c => c.utf8Size).foldr (· + ·) 0

def Found.span (found : Found) : Nat × Nat :=
  (byteCount found.before, byteCount found.before + byteCount found.text)

namespace Pattern

/-- The match that begins with a text of which `passed`, last character first,
has been passed over. -/
def Program.foundAt? (program : Program) (passed text : List Char) :
    Option Found :=
  (program.restAfter? passed.isEmpty text).map fun after =>
    ⟨passed.reverse, text.take (text.length - after.length), after⟩

/-- The leftmost match in a text of which `passed` has been passed over. -/
def Program.findFrom (program : Program) (passed text : List Char) :
    Option Found :=
  (program.foundAt? passed text).orElse fun _ =>
    match text with
    | [] => none
    | c :: rest => program.findFrom (c :: passed) rest

/-- The leftmost match, the preferred one of those that begin there. A pattern
that demands the start is not tried elsewhere. -/
def find (p : Pattern) (text : List Char) : Option Found :=
  if p.demandsStart then p.program.foundAt? [] text
  else p.program.findFrom [] text

end Pattern

end TreeCodec
