import TreeCodec.Proofs.Rule.Algebra
import TreeCodec.Rule.Reducer

/-!
How the reductions of a rule go together with sequence and choice. A reduction
runs its rule on the text alone and changes only what was produced, so it passes
into both alternatives of a choice, and reductions that follow each other are
one. Only a reduction that is refused is a failure, and then a failure of its
own alternative: the other one is run as if nothing had been tried before.
-/

namespace TreeCodec

variable {α : Type}

namespace Rule

section Runs

variable {resolve : Nat → State α → Outcome α}

/-- A refused reduction fails, however far its rule came. -/
theorem applyWith_tryMap_refused {rule : Rule α}
    {reduce : List (Node α) → Option α} {s produced : State α}
    (hrun : rule.applyWith resolve (.start s.rest) = .parsed produced)
    (hrefused : reduce produced.done = none) :
    (tryMap rule reduce).applyWith resolve s = .failed := by
  simp only [applyWith, hrun, Outcome.bind, hrefused]

variable (hresolve : ∀ declaration, Frames (resolve declaration))
include hresolve

/-- What is done with the outcome of a choice may be done in each alternative. -/
theorem map_applyWith_orElse (first second : Rule α) (s : State α)
    (f : State α → State α) :
    ((orElse first second).applyWith resolve s).map f
      = ((first.applyWith resolve s).map f).orElse fun _ =>
          (second.applyWith resolve s).map f := by
  rw [applyWith_orElse hresolve, Outcome.map_orElse]

end Runs

section Laws

variable (a b : Rule α) (f g : List (Node α) → α)

theorem map_orElse :
    (map (orElse a b) f).Equivalent (orElse (map a f) (map b f)) := by
  apply Equivalent.of_frames
  intro resolve hresolve s
  rw [applyWith_orElse hresolve, applyWith, map_applyWith_orElse hresolve]
  rfl

theorem map_map :
    (map (map a f) g).Equivalent (map a fun nodes => g [.data (f nodes)]) := by
  apply Equivalent.of_frames
  intro resolve _ s
  exact Outcome.map_map _ _ _

theorem tryMap_of_isSome {reduce : List (Node α) → Option α}
    (htotal : ∀ nodes, (reduce nodes).isSome) :
    (tryMap a reduce).Equivalent
      (map a fun nodes => (reduce nodes).get (htotal nodes)) := by
  apply Equivalent.of_frames
  intro resolve _ s
  refine congrArg (Outcome.bind _) (funext fun produced => ?_)
  obtain ⟨value, hvalue⟩ := Option.isSome_iff_exists.mp (htotal produced.done)
  simp only [hvalue, Option.get_some]

/-- The second rule leaves the same rest whether or not it sees the nodes of the
first one. -/
theorem discard_andThen :
    (discard (andThen a b)).Equivalent (andThen (discard a) (discard b)) := by
  apply Equivalent.of_frames
  intro resolve hresolve s
  simp only [applyWith]
  rw [Outcome.map_bind, Outcome.bind_map]
  refine congrArg (Outcome.bind _) (funext fun produced => ?_)
  rw [(applyWith_frames hresolve b).eq_map_start produced, Outcome.map_map]
  rfl

theorem discard_orElse :
    (discard (orElse a b)).Equivalent (orElse (discard a) (discard b)) := by
  apply Equivalent.of_frames
  intro resolve hresolve s
  rw [applyWith_orElse hresolve, applyWith, map_applyWith_orElse hresolve]
  rfl

theorem discard_map : (discard (map a f)).Equivalent (discard a) := by
  apply Equivalent.of_frames
  intro resolve _ s
  exact Outcome.map_map _ _ _

/-- If the rule of the first alternative succeeds and its reduction is refused,
the choice ends as its second alternative does. -/
theorem orElse_tryMap_refused {reduce : List (Node α) → Option α}
    {store : Store α} {depth : Nat} {s produced : State α}
    (hrun : a.applyWithin store depth (.start s.rest) = .parsed produced)
    (hrefused : reduce produced.done = none) :
    (orElse (tryMap a reduce) b).applyWithin store depth s
      = b.applyWithin store depth s := by
  have hreferences (declaration : Nat) :
      Frames fun s => (reference declaration).applyWithin store depth s :=
    applyWithin_frames store depth (reference declaration)
  rw [applyWithin_eq_applyWith] at hrun
  rw [applyWithin_eq_applyWith, applyWith_orElse hreferences,
    applyWith_tryMap_refused hrun hrefused, applyWithin_eq_applyWith store depth b]
  rfl

/-- The reductions and the ways to put rules together. `map` and `discard` pass
into a choice, and `discard` into a sequence too; a reduction of a reduction is
one reduction; a reduction that always has a value is a `map`; of a reduction
that is discarded nothing is seen; and a choice whose first alternative is
refused its value ends as the second one, on every state, whatever stood there
before. -/
theorem reductions_commute :
    (map (orElse a b) f).Equivalent (orElse (map a f) (map b f)) ∧
      (map (map a f) g).Equivalent (map a fun nodes => g [.data (f nodes)]) ∧
      (∀ (reduce : List (Node α) → Option α)
        (htotal : ∀ nodes, (reduce nodes).isSome),
        (tryMap a reduce).Equivalent
          (map a fun nodes => (reduce nodes).get (htotal nodes))) ∧
      (discard (andThen a b)).Equivalent (andThen (discard a) (discard b)) ∧
      (discard (orElse a b)).Equivalent (orElse (discard a) (discard b)) ∧
      (discard (map a f)).Equivalent (discard a) ∧
      ∀ (reduce : List (Node α) → Option α) (store : Store α) (depth : Nat)
        (s produced : State α),
        a.applyWithin store depth (.start s.rest) = .parsed produced →
        reduce produced.done = none →
        (orElse (tryMap a reduce) b).applyWithin store depth s
          = b.applyWithin store depth s := by
  refine ⟨map_orElse a b f, map_map a f g, ?_, discard_andThen a b,
    discard_orElse a b, discard_map a f, ?_⟩
  · intro reduce htotal
    exact tryMap_of_isSome a htotal
  · intro reduce store depth s produced hrun hrefused
    exact orElse_tryMap_refused a b hrun hrefused

end Laws

/-- A letter whose reduction always has a value, and one whose reduction wants a
value where there is a terminal and leaves the letter to the other alternative. -/
theorem reductions_commute_letter :
    let letter : Rule (List Char) := .literal ['x']
    let s : State (List Char) := ⟨['x', 'y'], [.data ['z']]⟩
    (tryMap letter (Selector.always .joined).reduce?).Equivalent
        (map letter Reducer.joined.reduce) ∧
      (orElse (tryMap letter Selector.firstData.reduce?) letter).parse Store.empty s
        = .parsed ⟨['y'], [.data ['z'], .terminal ['x']]⟩ := by
  intro letter s
  obtain ⟨-, -, htotal, -, -, -, hrefused⟩ :=
    reductions_commute letter letter Reducer.joined.reduce Reducer.joined.reduce
  constructor
  · exact htotal (Selector.always .joined).reduce? fun _ => rfl
  · exact hrefused Selector.firstData.reduce? Store.empty _ s
      ⟨['y'], [.terminal ['x']]⟩ rfl rfl

end Rule

end TreeCodec
