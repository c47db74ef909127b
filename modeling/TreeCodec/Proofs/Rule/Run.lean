import TreeCodec.Rule

/-!
How runs of rules are put together. A sequence runs its rules one after
another, and a choice takes the first of its rules that does not fail, although
both are built by folding from the left. A bounded run is a run whose
references are bounded in the same way, and a bound that was enough for a run
to end can be raised without a change to how it ends.
-/

namespace TreeCodec

variable {α : Type}

namespace State

@[simp]
theorem start_absorb (text : List Char) (produced : State α) :
    (start text).absorb produced = produced := by
  simp [absorb_eq, start]

end State

namespace Outcome

@[simp]
theorem map_start_absorb (o : Outcome α) (text : List Char) :
    o.map (State.start text).absorb = o := by
  cases o <;> simp [map, bind]

@[simp]
theorem bind_parsed (o : Outcome α) : (o.bind fun s => .parsed s) = o := by
  cases o <;> rfl

@[simp]
theorem orElse_failed (o : Outcome α) : (o.orElse fun _ => .failed) = o := by
  cases o <;> rfl

theorem bind_eq_parsed {o : Outcome α} {next : State α → Outcome α}
    {s : State α} :
    o.bind next = parsed s ↔ ∃ middle, o = parsed middle ∧ next middle = parsed s := by
  cases o with
  | unfinished => simp [bind]
  | failed => simp [bind]
  | parsed middle => simp [bind]

theorem map_eq_parsed {o : Outcome α} {f : State α → State α} {s : State α} :
    o.map f = parsed s ↔ ∃ middle, o = parsed middle ∧ f middle = s := by
  simp [map, bind_eq_parsed]

theorem orElse_eq_parsed {o : Outcome α} {other : Unit → Outcome α}
    {s : State α} :
    o.orElse other = parsed s ↔
      o = parsed s ∨ o = failed ∧ other () = parsed s := by
  cases o with
  | unfinished => simp [orElse]
  | failed => simp [orElse]
  | parsed middle => simp [orElse]

/-- The second outcome is what a longer run may make of the first. -/
def Approximates (o longer : Outcome α) : Prop :=
  o = unfinished ∨ o = longer

theorem Approximates.refl (o : Outcome α) : o.Approximates o := .inr rfl

theorem Approximates.bind {o longer : Outcome α}
    {next longerNext : State α → Outcome α} (h : o.Approximates longer)
    (hnext : ∀ s, (next s).Approximates (longerNext s)) :
    (o.bind next).Approximates (longer.bind longerNext) := by
  rcases h with rfl | rfl
  · exact .inl rfl
  · cases o with
    | unfinished => exact .inl rfl
    | failed => exact .inr rfl
    | parsed s => exact hnext s

theorem Approximates.orElse {o longer : Outcome α}
    {other longerOther : Unit → Outcome α} (h : o.Approximates longer)
    (hother : (other ()).Approximates (longerOther ())) :
    (o.orElse other).Approximates (longer.orElse longerOther) := by
  rcases h with rfl | rfl
  · exact .inl rfl
  · cases o with
    | unfinished => exact .inl rfl
    | failed => exact hother
    | parsed s => exact .inr rfl

theorem bind_assoc (o : Outcome α) (second third : State α → Outcome α) :
    (o.bind second).bind third = o.bind fun s => (second s).bind third := by
  cases o <;> rfl

theorem orElse_assoc (o : Outcome α) (second third : Unit → Outcome α) :
    (o.orElse second).orElse third
      = o.orElse fun _ => (second ()).orElse third := by
  cases o <;> rfl

end Outcome

namespace Rule

variable {resolve : Nat → State α → Outcome α}

@[simp]
theorem applyWith_sequence_nil (s : State α) :
    (sequence []).applyWith resolve s = .parsed s := rfl

/-- Folding rules onto a first one runs the first one and then their sequence. -/
theorem applyWith_foldl_andThen (first : Rule α) (rules : List (Rule α))
    (s : State α) :
    (rules.foldl andThen first).applyWith resolve s
      = (first.applyWith resolve s).bind fun s =>
          (sequence rules).applyWith resolve s := by
  induction rules generalizing first s with
  | nil => simp only [List.foldl_nil, applyWith_sequence_nil, Outcome.bind_parsed]
  | cons rule rules ih =>
    have hrules (s : State α) : (sequence (rule :: rules)).applyWith resolve s
        = (rule.applyWith resolve s).bind fun s =>
            (sequence rules).applyWith resolve s := by
      rw [sequence, List.foldl_cons, ih]
      rfl
    simp only [List.foldl_cons, ih, applyWith, hrules, Outcome.bind_assoc]

theorem applyWith_sequence_cons (rule : Rule α) (rules : List (Rule α))
    (s : State α) :
    (sequence (rule :: rules)).applyWith resolve s
      = (rule.applyWith resolve s).bind fun s =>
          (sequence rules).applyWith resolve s := by
  rw [sequence, List.foldl_cons, applyWith_foldl_andThen]
  rfl

@[simp]
theorem applyWith_choice_nil (s : State α) :
    (choice []).applyWith resolve s = .failed := rfl

/-- Folding rules onto a first one tries the first one and then their choice. -/
theorem applyWith_foldl_orElse (first : Rule α) (rules : List (Rule α))
    (text : List Char) :
    (rules.foldl orElse first).applyWith resolve (.start text)
      = (first.applyWith resolve (.start text)).orElse fun _ =>
          (choice rules).applyWith resolve (.start text) := by
  induction rules generalizing first with
  | nil => simp only [List.foldl_nil, applyWith_choice_nil, Outcome.orElse_failed]
  | cons rule rules ih =>
    have hfirst (first : Rule α) : (orElse first rule).applyWith resolve (.start text)
        = (first.applyWith resolve (.start text)).orElse fun _ =>
            rule.applyWith resolve (.start text) :=
      Outcome.map_start_absorb _ _
    have hrules : (choice (rule :: rules)).applyWith resolve (.start text)
        = (rule.applyWith resolve (.start text)).orElse fun _ =>
            (choice rules).applyWith resolve (.start text) := by
      rw [choice, List.foldl_cons, ih, hfirst]
      rfl
    rw [List.foldl_cons, ih, hfirst, Outcome.orElse_assoc, hrules]

/-- A choice runs from the text alone and hands on what it produced. -/
theorem applyWith_choice (rules : List (Rule α)) (s : State α) :
    (choice rules).applyWith resolve s
      = ((choice rules).applyWith resolve (.start s.rest)).map s.absorb := by
  rcases List.eq_nil_or_concat rules with rfl | ⟨earlier, last, rfl⟩
  · rfl
  · rw [List.concat_eq_append, choice, List.foldl_append]
    exact congrArg (Outcome.map · s.absorb) (Outcome.map_start_absorb _ _).symm

theorem applyWith_choice_cons (rule : Rule α) (rules : List (Rule α))
    (s : State α) :
    (choice (rule :: rules)).applyWith resolve s
      = ((rule.applyWith resolve (.start s.rest)).orElse fun _ =>
          (choice rules).applyWith resolve (.start s.rest)).map s.absorb := by
  rw [applyWith_choice, choice, List.foldl_cons, applyWith_foldl_orElse]
  exact congrArg (fun o => Outcome.map (Outcome.orElse o _) s.absorb)
    (Outcome.map_start_absorb _ _)

/-- The references of a bounded run are bounded runs as well. -/
theorem applyWithin_eq_applyWith (store : Store α) (depth : Nat) (rule : Rule α)
    (s : State α) :
    rule.applyWithin store depth s
      = rule.applyWith
          (fun declaration s =>
            (reference declaration).applyWithin store depth s) s := by
  cases depth <;> rfl

/-- A run whose references get further gets at least as far. -/
theorem applyWith_approximates {longer : Nat → State α → Outcome α}
    (h : ∀ declaration s,
      (resolve declaration s).Approximates (longer declaration s))
    (rule : Rule α) (s : State α) :
    (rule.applyWith resolve s).Approximates (rule.applyWith longer s) := by
  induction rule generalizing s with
  | literal | pattern | epsilon | never => exact .refl _
  | andThen first second ihFirst ihSecond =>
    exact (ihFirst s).bind ihSecond
  | orElse first second ihFirst ihSecond =>
    exact ((ihFirst _).orElse (ihSecond _)).bind fun _ => .refl _
  | map rule reduce ih => exact (ih _).bind fun _ => .refl _
  | tryMap rule reduce ih => exact (ih _).bind fun _ => .refl _
  | discard rule ih => exact (ih _).bind fun _ => .refl _
  | reference declaration => exact h declaration s

/-- Raising the bound changes nothing about a run that ended. -/
theorem applyWithin_approximates (store : Store α) {depth deeper : Nat}
    (hdepth : depth ≤ deeper) (rule : Rule α) (s : State α) :
    (rule.applyWithin store depth s).Approximates
      (rule.applyWithin store deeper s) := by
  induction depth generalizing deeper rule s with
  | zero =>
    rw [applyWithin_eq_applyWith, applyWithin_eq_applyWith]
    exact applyWith_approximates (fun _ _ => .inl rfl) rule s
  | succ depth ih =>
    cases deeper with
    | zero => omega
    | succ deeper =>
      apply applyWith_approximates
      intro declaration s
      cases store.rule? declaration with
      | none => exact .refl _
      | some rule => exact ih (by omega) rule s

end Rule

end TreeCodec
