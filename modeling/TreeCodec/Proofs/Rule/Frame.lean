import TreeCodec.Proofs.Rule.Run

/-!
What was produced before a run has no say in it. A sequence hands the nodes on
from rule to rule, while a choice and the reductions begin anew at the same
text and put the results together afterwards. Both come to the same: a run
from any state is the run from the text alone with the earlier nodes put in
front of what it produced.
-/

namespace TreeCodec

variable {α : Type}

namespace State

/-- The state with nodes in front of those it has produced. -/
def prepend (done : List (Node α)) (s : State α) : State α :=
  ⟨s.rest, done ++ s.done⟩

variable (done : List (Node α)) (s : State α)

@[simp]
theorem rest_prepend : (s.prepend done).rest = s.rest := rfl

@[simp]
theorem done_prepend : (s.prepend done).done = done ++ s.done := rfl

/-- Every state is the beginning of its text with its nodes in front. -/
theorem prepend_start (text : List Char) :
    (start text).prepend done = ⟨text, done⟩ := by
  simp [prepend, start]

theorem absorb_eq_prepend (produced : State α) :
    s.absorb produced = produced.prepend s.done :=
  s.absorb_eq produced

theorem push_prepend (rest : List Char) (node : Node α) :
    (s.prepend done).push rest node = (s.push rest node).prepend done := by
  simp [push, prepend]

theorem absorb_prepend (produced : State α) :
    (s.prepend done).absorb produced = (s.absorb produced).prepend done := by
  simp [absorb_eq, prepend]

end State

namespace Outcome

theorem map_bind (o : Outcome α) (next : State α → Outcome α)
    (f : State α → State α) :
    (o.bind next).map f = o.bind fun s => (next s).map f :=
  bind_assoc o next _

theorem bind_map (o : Outcome α) (f : State α → State α)
    (next : State α → Outcome α) :
    (o.map f).bind next = o.bind fun s => next (f s) :=
  bind_assoc o _ next

theorem map_map (o : Outcome α) (f g : State α → State α) :
    (o.map f).map g = o.map fun s => g (f s) :=
  bind_assoc o _ _

theorem map_orElse (o : Outcome α) (other : Unit → Outcome α)
    (f : State α → State α) :
    (o.orElse other).map f = (o.map f).orElse fun _ => (other ()).map f := by
  cases o with
  | unfinished => rfl
  | failed => rfl
  | parsed s => rfl

end Outcome

/-- A run from a state with nodes put in front is the run from the state
itself, with the nodes put in front of its outcome. -/
def Frames (run : State α → Outcome α) : Prop :=
  ∀ done s, run (s.prepend done) = (run s).map (State.prepend done)

/-- Such a run is known from its runs on texts alone. -/
theorem Frames.eq_map_start {run : State α → Outcome α} (h : Frames run)
    (s : State α) :
    run s = (run (.start s.rest)).map (State.prepend s.done) := by
  have hs : (State.start s.rest).prepend s.done = s := State.prepend_start s.done s.rest
  rw [← h, hs]

namespace Rule

/-- One level of the frame law: the rule is as blind to earlier nodes as the
runs of its references are. -/
theorem applyWith_frames {resolve : Nat → State α → Outcome α}
    (hresolve : ∀ declaration, Frames (resolve declaration)) (rule : Rule α) :
    Frames (rule.applyWith resolve) := by
  intro done
  induction rule with
  | literal text =>
    intro s
    simp only [applyWith, State.rest_prepend]
    cases text.isPrefixOf? s.rest with
    | none => rfl
    | some rest => exact congrArg Outcome.parsed (s.push_prepend done rest _)
  | pattern p =>
    intro s
    simp only [applyWith, State.rest_prepend]
    cases p.find s.rest with
    | none => rfl
    | some found =>
      by_cases hstart : found.before.isEmpty
      · simp only [hstart, ↓reduceIte, State.push_prepend]
        rfl
      · simp only [hstart]
        rfl
  | epsilon => exact fun _ => rfl
  | never => exact fun _ => rfl
  | andThen first second ihFirst ihSecond =>
    intro s
    simp only [applyWith]
    rw [ihFirst, Outcome.bind_map, Outcome.map_bind]
    exact congrArg _ (funext ihSecond)
  | orElse first second ihFirst ihSecond =>
    intro s
    simp only [applyWith, State.rest_prepend]
    rw [Outcome.map_map]
    exact congrArg _ (funext (s.absorb_prepend done))
  | map rule reduce ih =>
    intro s
    simp only [applyWith, State.rest_prepend, State.push_prepend]
    rw [Outcome.map_map]
  | tryMap rule reduce ih =>
    intro s
    simp only [applyWith, State.rest_prepend]
    rw [Outcome.map_bind]
    refine congrArg _ (funext ?_)
    intro produced
    cases reduce produced.done with
    | none => rfl
    | some value =>
      exact congrArg Outcome.parsed (s.push_prepend done produced.rest _)
  | discard rule ih =>
    intro s
    simp only [applyWith, State.rest_prepend, State.done_prepend]
    rw [Outcome.map_map]
    rfl
  | reference declaration => exact hresolve declaration done

/-- References are looked up and run on the whole state, so the law passes from
one bound to the next. -/
theorem applyWithin_frames (store : Store α) (depth : Nat) (rule : Rule α) :
    Frames (rule.applyWithin store depth) := by
  induction depth generalizing rule with
  | zero => exact applyWith_frames (fun _ _ _ => rfl) rule
  | succ depth ih =>
    apply applyWith_frames
    intro declaration done s
    cases store.rule? declaration with
    | none => rfl
    | some rule => exact ih rule done s

/-- A rule that is run after other nodes were produced fails where it fails on
the text alone, and otherwise leaves the same rest and puts its nodes behind
the earlier ones. This holds of the bounded run for every bound, so neither of
the two runs ends without the other. -/
theorem parse_eq_runOn_prepend (store : Store α) (rule : Rule α)
    (text : List Char) (done : List (Node α)) :
    (rule.parse store ⟨text, done⟩
      = (rule.runOn store text).map fun s => ⟨s.rest, done ++ s.done⟩) ∧
    ∀ depth, rule.applyWithin store depth ⟨text, done⟩
      = (rule.applyWithin store depth (.start text)).map fun s =>
          ⟨s.rest, done ++ s.done⟩ := by
  have hwithin (depth : Nat) : rule.applyWithin store depth ⟨text, done⟩
      = (rule.applyWithin store depth (.start text)).map fun s =>
          ⟨s.rest, done ++ s.done⟩ :=
    (applyWithin_frames store depth rule).eq_map_start ⟨text, done⟩
  exact ⟨hwithin _, hwithin⟩

end Rule

end TreeCodec
