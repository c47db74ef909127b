import TreeCodec.Proofs.Pattern.Exploration

/-!
The instructions that a pattern is written with. They are put behind those that
are there, and they lead below any bound that they themselves and the address
they go on to are below. So the program of a pattern is closed. Where every
alternative of a pattern begins with a demand for the start, so does every way
from where the program begins.
-/

namespace TreeCodec.Pattern

namespace Program

/-- The second program is the first one with instructions behind it that lead
below the bound. -/
def GrowsBelow (bound : Nat) (program program' : Program) : Prop :=
  ∃ added : Program, program' = program ++ added ∧ added.StaysBelow bound

namespace GrowsBelow

variable {bound : Nat} {program program' program'' : Program}

theorem refl (program : Program) : GrowsBelow bound program program :=
  ⟨#[], Array.append_empty.symm, fun _ => nofun⟩

theorem trans (h : GrowsBelow bound program program')
    (h' : GrowsBelow bound program' program'') :
    GrowsBelow bound program program'' := by
  obtain ⟨first, rfl, hfirst⟩ := h
  obtain ⟨second, rfl, hsecond⟩ := h'
  refine ⟨first ++ second, Array.append_assoc, ?_⟩
  intro i hi
  rcases Array.mem_append.mp hi with hi | hi
  · exact hfirst i hi
  · exact hsecond i hi

theorem push {i : Instruction} (h : GrowsBelow bound program program')
    (hi : ∀ address ∈ i.targets, address < bound) :
    GrowsBelow bound program (program'.push i) := by
  refine h.trans ⟨#[i], Array.push_eq_append, ?_⟩
  intro other hother
  rwa [Array.mem_singleton.mp hother]

theorem staysBelow (h : GrowsBelow bound program program')
    (hprogram : program.StaysBelow bound) : program'.StaysBelow bound := by
  obtain ⟨added, rfl, hadded⟩ := h
  intro i hi
  rcases Array.mem_append.mp hi with hi | hi
  · exact hprogram i hi
  · exact hadded i hi

/-- Writing several times. Each time writes as many instructions, and finds
them below the bound. -/
theorem repeated {write : Program → Program} (size : Nat)
    (hsize : ∀ program, (write program).size = program.size + size)
    (hwrite : ∀ program : Program, program.size + size ≤ bound →
      GrowsBelow bound program (write program))
    (count : Nat) (hbound : program.size + size * count ≤ bound) :
    GrowsBelow bound program (Nat.repeat write count program) := by
  induction count with
  | zero => exact .refl program
  | succ count ih =>
    rw [Nat.mul_succ] at hbound
    refine (ih (by omega)).trans (hwrite _ ?_)
    rw [size_repeat hsize]
    omega

end GrowsBelow

end Program

open Program

theorem roundOr_targets {greedy : Bool} {round next bound : Nat}
    (hround : round < bound) (hnext : next < bound) :
    ∀ address ∈ (roundOr greedy round next).targets, address < bound := by
  rw [roundOr]
  split <;> simp [Instruction.targets, hround, hnext]

theorem Program.entry_lt {program : Program} {next bound : Nat}
    (hnext : next < bound) (hsize : program.size ≤ bound) :
    program.entry < bound := by
  rw [Program.entry]
  omega

section Repeated

/-- A round in front of what was written last. -/
def writeRound (body : Pattern) (program : Program) : Program :=
  body.writeTo program.entry program

/-- A round in front of which the repetition may end. -/
def writeOptional (body : Pattern) (greedy : Bool) (next : Nat)
    (program : Program) : Program :=
  let program := body.writeRound program
  program.push (roundOr greedy program.entry next)

/-- A round that goes on to the fork behind it. -/
def writeLoop (body : Pattern) (greedy : Bool) (next : Nat)
    (program : Program) : Program :=
  body.writeTo program.size
    (program.push (roundOr greedy (program.size + body.size) next))

variable {body : Pattern} {greedy : Bool} {bound next : Nat}

theorem size_writeRound (program : Program) :
    (body.writeRound program).size = program.size + body.size :=
  size_writeTo body program.entry program

theorem size_writeOptional (program : Program) :
    (body.writeOptional greedy next program).size
      = program.size + (body.size + 1) := by
  rw [writeOptional, Array.size_push, size_writeRound, Nat.add_assoc]

theorem size_writeLoop (program : Program) :
    (body.writeLoop greedy next program).size
      = program.size + (body.size + 1) := by
  rw [writeLoop, size_writeTo, Array.size_push]
  omega

variable (hnext : next < bound)
  (hbody : ∀ {next : Nat} {program : Program}, next < bound →
    program.size + body.size ≤ bound →
    GrowsBelow bound program (body.writeTo next program))

include hnext hbody

theorem growsBelow_writeRound {program : Program}
    (hsize : program.size + body.size ≤ bound) :
    GrowsBelow bound program (body.writeRound program) :=
  hbody (entry_lt hnext (by omega)) hsize

theorem growsBelow_rounds (count : Nat) {program : Program}
    (hsize : program.size + body.size * count ≤ bound) :
    GrowsBelow bound program (Nat.repeat body.writeRound count program) :=
  .repeated body.size size_writeRound (fun _ => growsBelow_writeRound hnext hbody)
    count hsize

theorem growsBelow_writeOptional {program : Program}
    (hsize : program.size + (body.size + 1) ≤ bound) :
    GrowsBelow bound program (body.writeOptional greedy next program) := by
  have hround : (body.writeRound program).size = program.size + body.size :=
    size_writeRound program
  exact (growsBelow_writeRound hnext hbody (by omega)).push
    (roundOr_targets (entry_lt hnext (by omega)) hnext)

theorem growsBelow_writeLoop {program : Program}
    (hsize : program.size + (body.size + 1) ≤ bound) :
    GrowsBelow bound program (body.writeLoop greedy next program) := by
  have hfork : GrowsBelow bound program
      (program.push (roundOr greedy (program.size + body.size) next)) :=
    (GrowsBelow.refl program).push (roundOr_targets (by omega) hnext)
  refine hfork.trans (hbody (by omega) ?_)
  rw [Array.size_push]
  omega

theorem growsBelow_unbounded (low : Nat) {program : Program}
    (hsize : program.size + (repeated greedy low none body).size ≤ bound) :
    GrowsBelow bound program
      ((repeated greedy low none body).writeTo next program) := by
  have hloop : (body.writeLoop greedy next program).size
      = program.size + (body.size + 1) := size_writeLoop program
  rw [size] at hsize
  rcases low with - | low
  · rw [if_pos rfl] at hsize
    refine (growsBelow_writeLoop hnext hbody (by omega)).push ?_
    split
    · exact List.forall_mem_singleton.mpr (by omega)
    · exact roundOr_targets (entry_lt hnext (hloop.trans_le (by omega))) hnext
  · rw [if_neg (by omega), Nat.mul_succ] at hsize
    refine (growsBelow_writeLoop hnext hbody (by omega)).trans
      (growsBelow_rounds hnext hbody low ?_)
    rw [hloop]
    omega

theorem growsBelow_bounded (low high : Nat) {program : Program}
    (hsize : program.size + (repeated greedy low (some high) body).size ≤ bound) :
    GrowsBelow bound program
      ((repeated greedy low (some high) body).writeTo next program) := by
  rw [size] at hsize
  have hjump : GrowsBelow bound program (program.push (.jump next)) :=
    (GrowsBelow.refl program).push (List.forall_mem_singleton.mpr hnext)
  have hoptional : GrowsBelow bound (program.push (.jump next))
      (Nat.repeat (body.writeOptional greedy next) (high - low)
        (program.push (.jump next))) := by
    apply GrowsBelow.repeated (body.size + 1) size_writeOptional
      (fun _ => growsBelow_writeOptional hnext hbody)
    rw [Array.size_push]
    omega
  refine (hjump.trans hoptional).trans (growsBelow_rounds hnext hbody low ?_)
  rw [size_repeat size_writeOptional, Array.size_push]
  omega

end Repeated

/-- A pattern is written below the bound if its instructions have room there. -/
theorem writeTo_growsBelow (p : Pattern) {bound next : Nat} {program : Program}
    (hnext : next < bound) (hsize : program.size + p.size ≤ bound) :
    GrowsBelow bound program (p.writeTo next program) := by
  induction p generalizing next program with
  | empty | oneOf | startOfText | endOfText =>
    exact (GrowsBelow.refl program).push (List.forall_mem_singleton.mpr hnext)
  | append first second ihFirst ihSecond =>
    rw [size] at hsize
    have hsecond := size_writeTo second next program
    exact (ihSecond hnext (by omega)).trans
      (ihFirst (entry_lt hnext (by omega)) (by omega))
  | either first second ihFirst ihSecond =>
    rw [size] at hsize
    have hsecond := size_writeTo second next program
    have hfirst := size_writeTo first next (second.writeTo next program)
    refine ((ihSecond hnext (by omega)).trans (ihFirst hnext (by omega))).push ?_
    exact List.forall_mem_cons.mpr ⟨entry_lt hnext (by omega),
      List.forall_mem_singleton.mpr (entry_lt hnext (by omega))⟩
  | group _ body ih => exact ih hnext hsize
  | repeated greedy low high body ih =>
    cases high with
    | none => exact growsBelow_unbounded hnext ih low hsize
    | some high => exact growsBelow_bounded hnext ih low high hsize

theorem size_program (p : Pattern) : p.program.size = 1 + p.size :=
  size_writeTo p 0 #[.accept]

theorem Program.staysBelow_accept (bound : Nat) :
    Program.StaysBelow #[.accept] bound := by
  intro i hi
  rw [Array.mem_singleton.mp hi]
  exact fun _ => nofun

/-- No instruction of a pattern leads out of its program. -/
theorem program_closed (p : Pattern) : p.program.Closed := by
  have hgrows : GrowsBelow p.program.size #[.accept] p.program := by
    rw [size_program]
    exact writeTo_growsBelow p (by omega) le_rfl
  exact hgrows.staysBelow (Program.staysBelow_accept _)

/-- Whether every alternative begins with a demand for the start. -/
def demandsStartEverywhere : Pattern → Bool
  | startOfText => true
  | append p _ => p.demandsStartEverywhere
  | either p q => p.demandsStartEverywhere && q.demandsStartEverywhere
  | group _ p => p.demandsStartEverywhere
  | _ => false

theorem demandsStartEverywhere_of_demandsStart {p : Pattern}
    (h : p.demandsStart = true) : p.demandsStartEverywhere = true := by
  induction p with
  | startOfText => rfl
  | append first second ihFirst _ => exact ihFirst h
  | group _ body ih => exact ih h
  | empty | oneOf | endOfText | either | repeated => cases h

theorem writeTo_eq_append (p : Pattern) (next : Nat) (program : Program) :
    ∃ added : Program, p.writeTo next program = program ++ added := by
  let bound := program.size + p.size + next + 1
  have hgrows : GrowsBelow bound program (p.writeTo next program) :=
    writeTo_growsBelow p (by omega) (by omega)
  obtain ⟨added, hadded, -⟩ := hgrows
  exact ⟨added, hadded⟩

/-- Away from the start no way of such a pattern leads on. -/
theorem isShut_entry {p : Pattern} (h : p.demandsStartEverywhere = true)
    (next : Nat) (program : Program) :
    (p.writeTo next program).IsShut (p.writeTo next program).entry := by
  induction p generalizing next program with
  | startOfText =>
    rw [writeTo, entry_push]
    exact .ifStart Array.getElem?_push_size
  | append first second ihFirst _ => exact ihFirst h _ _
  | group _ body ih => exact ih h next program
  | either first second ihFirst ihSecond =>
    obtain ⟨hfirst, hsecond⟩ := Bool.and_eq_true_iff.mp h
    obtain ⟨added, hadded⟩ :=
      writeTo_eq_append first next (second.writeTo next program)
    rw [writeTo, entry_push]
    refine .fork Array.getElem?_push_size ?_ ?_
    · rw [Array.push_eq_append]
      exact (ihFirst hfirst next _).append _
    · rw [Array.push_eq_append, hadded]
      exact ((ihSecond hsecond next program).append added).append _
  | empty | oneOf | endOfText | repeated => cases h

end TreeCodec.Pattern
