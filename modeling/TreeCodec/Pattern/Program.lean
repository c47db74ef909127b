import TreeCodec.Pattern

/-!
Programs for patterns. A pattern is written as instructions that refer to each
other by address, from its end to its beginning: what stands in front of a
pattern leaves the addresses of the pattern alone. The instruction written last
is where a pattern begins, and `next` is where its matches go on.

An unbounded repetition has a fork behind its last round. If there need be no
round, it begins at this fork as well, unless a round may read nothing: then it
begins at a fork of its own, so that the first round cannot meet the fork where
it began.
-/

namespace TreeCodec.Pattern

inductive Instruction where
  | accept
  | read (cls : CharClass) (next : Nat)
  | ifStart (next : Nat)
  | ifEnd (next : Nat)
  | jump (next : Nat)
  /-- Goes both ways and prefers `first`. -/
  | fork (first second : Nat)
deriving DecidableEq, Repr

abbrev Program := Array Instruction

def Program.entry (program : Program) : Nat :=
  program.size - 1

/-- Another round or what follows, in the order of preference. -/
def roundOr (greedy : Bool) (round next : Nat) : Instruction :=
  if greedy then .fork round next else .fork next round

def size : Pattern → Nat
  | empty | oneOf _ | startOfText | endOfText => 1
  | append p q => p.size + q.size
  | either p q => p.size + q.size + 1
  | repeated _ low none p =>
    if low = 0 then p.size + 2 else p.size * low + 1
  | repeated _ low (some high) p =>
    1 + (p.size + 1) * (high - low) + p.size * low
  | group _ p => p.size

def writeTo : Pattern → (next : Nat) → Program → Program
  | empty, next, program => program.push (.jump next)
  | oneOf cls, next, program => program.push (.read cls next)
  | startOfText, next, program => program.push (.ifStart next)
  | endOfText, next, program => program.push (.ifEnd next)
  | append first second, next, program =>
    let program := second.writeTo next program
    first.writeTo program.entry program
  | either first second, next, program =>
    let program := second.writeTo next program
    let other := program.entry
    let program := first.writeTo next program
    program.push (.fork program.entry other)
  | repeated greedy low none body, next, program =>
    let loop := program.size
    let program :=
      body.writeTo loop (program.push (roundOr greedy (loop + body.size) next))
    if low = 0 then
      program.push
        (if body.readsAlways then .jump loop
        else roundOr greedy program.entry next)
    else
      Nat.repeat (fun program => body.writeTo program.entry program) (low - 1)
        program
  | repeated greedy low (some high) body, next, program =>
    let program :=
      Nat.repeat
        (fun program =>
          let program := body.writeTo program.entry program
          program.push (roundOr greedy program.entry next))
        (high - low) (program.push (.jump next))
    Nat.repeat (fun program => body.writeTo program.entry program) low program
  | group _ body, next, program => body.writeTo next program

/-- Writing the same number of instructions each time. -/
theorem size_repeat {write : Program → Program} {size : Nat}
    (h : ∀ program, (write program).size = program.size + size) (count : Nat)
    (program : Program) :
    (Nat.repeat write count program).size = program.size + size * count := by
  induction count with
  | zero => simp [Nat.repeat]
  | succ count ih =>
    rw [Nat.repeat, h, ih, Nat.mul_succ]
    omega

/-- A pattern is written with as many instructions as its size, so the fork of
a repetition is where it says that the round begins. -/
theorem size_writeTo (p : Pattern) (next : Nat) (program : Program) :
    (p.writeTo next program).size = program.size + p.size := by
  induction p generalizing next program with
  | empty | oneOf _ | startOfText | endOfText => simp [writeTo, size]
  | append first second ihFirst ihSecond =>
    simp only [writeTo, size, ihFirst, ihSecond]
    omega
  | either first second ihFirst ihSecond =>
    simp only [writeTo, size, Array.size_push, ihFirst, ihSecond]
    omega
  | group _ body ih => exact ih next program
  | repeated greedy low high body ih =>
    have rounds := @size_repeat (fun program => body.writeTo program.entry program)
      body.size fun program => ih program.entry program
    cases high with
    | none =>
      rcases low with - | low
      · simp only [writeTo, size, ↓reduceIte, Array.size_push, ih]
        omega
      · simp only [writeTo, size, Nat.add_one_ne_zero, ↓reduceIte, rounds, ih,
          Array.size_push, Nat.add_one_sub_one, Nat.mul_succ]
        omega
    | some high =>
      have optional := @size_repeat
        (fun program =>
          let program := body.writeTo program.entry program
          program.push (roundOr greedy program.entry next))
        (body.size + 1) fun program => by
          simp only [Array.size_push, ih]
          omega
      simp only [writeTo, size, rounds, optional, Array.size_push]
      omega

/-- The program of a pattern. It accepts at address 0. -/
def program (p : Pattern) : Program :=
  p.writeTo 0 #[.accept]

end TreeCodec.Pattern
