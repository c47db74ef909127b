import TreeCodec.Proofs.Rule.Frame

/-!
The laws of sequence and choice. A choice runs its rules on the text alone, so
its laws on arbitrary states rest on the frame law: run where they stand, the
rules of a choice are tried one after another on the whole state. After that a
law about rules is a law about outcomes.

Two rules are equivalent if no run can tell them apart, for any meaning of the
declarations and any bound on the nesting of references.
-/

namespace TreeCodec

variable {α : Type}

/-- Absorbing the run on the text alone is the run on the whole state. -/
theorem Frames.map_absorb {run : State α → Outcome α} (h : Frames run)
    (s : State α) : (run (.start s.rest)).map s.absorb = run s := by
  rw [h.eq_map_start s]
  exact congrArg _ (funext s.absorb_eq_prepend)

namespace Outcome

/-- What both alternatives begin with needs to be run only once. -/
theorem bind_orElse_bind (o : Outcome α) (second third : State α → Outcome α) :
    ((o.bind second).orElse fun _ => o.bind third)
      = o.bind fun s => (second s).orElse fun _ => third s := by
  cases o with
  | unfinished => rfl
  | failed => rfl
  | parsed s => rfl

/-- What has failed once fails again. -/
theorem orElse_orElse_self (o between after : Outcome α) :
    (o.orElse fun _ => between.orElse fun _ => o.orElse fun _ => after)
      = o.orElse fun _ => between.orElse fun _ => after := by
  cases o with
  | unfinished => rfl
  | failed => rfl
  | parsed s => rfl

end Outcome

namespace Rule

section Runs

variable {resolve : Nat → State α → Outcome α}

theorem applyWith_sequence_append (first second : List (Rule α)) (s : State α) :
    (sequence (first ++ second)).applyWith resolve s
      = ((sequence first).applyWith resolve s).bind fun s =>
          (sequence second).applyWith resolve s := by
  rw [sequence, List.foldl_append, applyWith_foldl_andThen]
  rfl

theorem applyWith_sequence_singleton (rule : Rule α) (s : State α) :
    (sequence [rule]).applyWith resolve s = rule.applyWith resolve s := by
  rw [applyWith_sequence_cons]
  simp only [applyWith_sequence_nil, Outcome.bind_parsed]

variable (hresolve : ∀ declaration, Frames (resolve declaration))
include hresolve

theorem applyWith_orElse (first second : Rule α) (s : State α) :
    (orElse first second).applyWith resolve s
      = (first.applyWith resolve s).orElse fun _ =>
          second.applyWith resolve s := by
  have hfirst := (applyWith_frames hresolve first).map_absorb s
  have hsecond := (applyWith_frames hresolve second).map_absorb s
  rw [applyWith, Outcome.map_orElse, hfirst, hsecond]

theorem applyWith_choice_append (first second : List (Rule α)) (s : State α) :
    (choice (first ++ second)).applyWith resolve s
      = ((choice first).applyWith resolve s).orElse fun _ =>
          (choice second).applyWith resolve s := by
  have hfirst := (applyWith_frames hresolve (choice first)).map_absorb s
  have hsecond := (applyWith_frames hresolve (choice second)).map_absorb s
  rw [applyWith_choice, choice, List.foldl_append, applyWith_foldl_orElse,
    Outcome.map_orElse, hsecond]
  exact congrArg (Outcome.orElse · _) hfirst

theorem applyWith_choice_singleton (rule : Rule α) (s : State α) :
    (choice [rule]).applyWith resolve s = rule.applyWith resolve s :=
  applyWith_orElse hresolve never rule s

end Runs

/-- No run tells the rules apart: for all declarations, every bound on the
nesting of references and every state both end alike, or neither ends. Runs by
`parse` are among these. -/
def Equivalent (first second : Rule α) : Prop :=
  ∀ (store : Store α) (depth : Nat) (s : State α),
    first.applyWithin store depth s = second.applyWithin store depth s

/-- References are blind to earlier nodes, whatever they are bound to. -/
theorem Equivalent.of_frames {first second : Rule α}
    (h : ∀ resolve : Nat → State α → Outcome α,
      (∀ declaration, Frames (resolve declaration)) →
        ∀ s, first.applyWith resolve s = second.applyWith resolve s) :
    first.Equivalent second := by
  intro store depth s
  have hreferences (declaration : Nat) :
      Frames fun s => (reference declaration).applyWithin store depth s :=
    applyWithin_frames store depth (reference declaration)
  calc first.applyWithin store depth s
      = first.applyWith (fun declaration s =>
          (reference declaration).applyWithin store depth s) s :=
        applyWithin_eq_applyWith store depth first s
    _ = second.applyWith (fun declaration s =>
          (reference declaration).applyWithin store depth s) s :=
        h _ hreferences s
    _ = second.applyWithin store depth s :=
        (applyWithin_eq_applyWith store depth second s).symm

section Laws

variable (xs ys zs : List (Rule α)) (a b c : Rule α)

theorem sequence_sequence :
    (sequence (xs ++ [sequence ys] ++ zs)).Equivalent
      (sequence (xs ++ ys ++ zs)) := by
  apply Equivalent.of_frames
  intro resolve _ s
  simp only [applyWith_sequence_append, applyWith_sequence_singleton]

theorem choice_choice :
    (choice (xs ++ [choice ys] ++ zs)).Equivalent (choice (xs ++ ys ++ zs)) := by
  apply Equivalent.of_frames
  intro resolve hresolve s
  simp only [applyWith_choice_append hresolve,
    applyWith_choice_singleton hresolve]

theorem epsilon_andThen : (andThen epsilon a).Equivalent a := by
  apply Equivalent.of_frames
  intro resolve _ s
  rfl

theorem andThen_epsilon : (andThen a epsilon).Equivalent a := by
  apply Equivalent.of_frames
  intro resolve _ s
  exact Outcome.bind_parsed _

theorem never_orElse : (orElse never a).Equivalent a := by
  apply Equivalent.of_frames
  intro resolve hresolve s
  rw [applyWith_orElse hresolve]
  rfl

theorem orElse_never : (orElse a never).Equivalent a := by
  apply Equivalent.of_frames
  intro resolve hresolve s
  rw [applyWith_orElse hresolve]
  exact Outcome.orElse_failed _

theorem never_andThen : (andThen never a).Equivalent never := by
  apply Equivalent.of_frames
  intro resolve _ s
  rfl

/-- The first rule is run all the same, and the whole fails once it has ended. -/
theorem andThen_never (store : Store α) (depth : Nat) (s : State α) :
    (andThen a never).applyWithin store depth s = .failed ∨
      (andThen a never).applyWithin store depth s = .unfinished ∧
        a.applyWithin store depth s = .unfinished := by
  have hrun : (andThen a never).applyWithin store depth s
      = (a.applyWithin store depth s).bind fun _ => .failed := by
    rw [applyWithin_eq_applyWith, applyWithin_eq_applyWith store depth a]
    rfl
  rw [hrun]
  cases a.applyWithin store depth s with
  | unfinished => exact .inr ⟨rfl, rfl⟩
  | failed => exact .inl rfl
  | parsed s => exact .inl rfl

theorem choice_cons_retried :
    (choice (xs ++ [a] ++ ys ++ [a] ++ zs)).Equivalent
      (choice (xs ++ [a] ++ ys ++ zs)) := by
  apply Equivalent.of_frames
  intro resolve hresolve s
  simp only [applyWith_choice_append hresolve,
    applyWith_choice_singleton hresolve, Outcome.orElse_assoc,
    Outcome.orElse_orElse_self]

theorem andThen_orElse_andThen :
    (orElse (andThen a b) (andThen a c)).Equivalent
      (andThen a (orElse b c)) := by
  apply Equivalent.of_frames
  intro resolve hresolve s
  rw [applyWith_orElse hresolve]
  simp only [applyWith]
  rw [Outcome.bind_orElse_bind]
  exact congrArg _ (funext fun s => (applyWith_orElse hresolve b c s).symm)

/-- The algebra of sequence and choice. Nested sequences and choices may be
flattened; `epsilon` is the identity of sequence and `never` that of choice, on
both sides; `never` annihilates a sequence on both sides, unless the rule in
front of it does not end; a rule that was tried need not be tried again; and a
common beginning may be taken out of a choice. -/
theorem sequence_choice_algebra :
    (sequence (xs ++ [sequence ys] ++ zs)).Equivalent
        (sequence (xs ++ ys ++ zs)) ∧
      (choice (xs ++ [choice ys] ++ zs)).Equivalent
        (choice (xs ++ ys ++ zs)) ∧
      ((andThen epsilon a).Equivalent a ∧ (andThen a epsilon).Equivalent a) ∧
      ((orElse never a).Equivalent a ∧ (orElse a never).Equivalent a) ∧
      ((andThen never a).Equivalent never ∧
        ∀ (store : Store α) (depth : Nat) (s : State α),
          (andThen a never).applyWithin store depth s = .failed ∨
            (andThen a never).applyWithin store depth s = .unfinished ∧
              a.applyWithin store depth s = .unfinished) ∧
      (choice (xs ++ [a] ++ ys ++ [a] ++ zs)).Equivalent
        (choice (xs ++ [a] ++ ys ++ zs)) ∧
      (orElse (andThen a b) (andThen a c)).Equivalent
        (andThen a (orElse b c)) := by
  refine ⟨sequence_sequence xs ys zs, choice_choice xs ys zs, ?_, ?_, ?_,
    choice_cons_retried xs ys zs a, andThen_orElse_andThen a b c⟩
  · exact ⟨epsilon_andThen a, andThen_epsilon a⟩
  · exact ⟨never_orElse a, orElse_never a⟩
  · exact ⟨never_andThen a, andThen_never a⟩

end Laws

end Rule

end TreeCodec
