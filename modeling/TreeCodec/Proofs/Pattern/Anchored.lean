import Mathlib
import TreeCodec.Proofs.Pattern.Wrapped
import TreeCodec.Proofs.Pattern.Writing
import TreeCodec.Proofs.Rule.Algebra
import TreeCodec.Proofs.Rule.Consumption

/-!
What anchoring does to a pattern. In front of a text it makes no difference,
so a rule may be given the pattern of an expression or its anchored pattern.
Elsewhere the anchored pattern finds nothing, as long as every alternative has
been anchored. An expression that begins with a demand for the start is left
as it is, and its other alternatives may be found anywhere.
-/

namespace TreeCodec

namespace Pattern

section Find

variable {p : Pattern} {program : Program} {passed text : List Char}
  {found : Found}

theorem Program.before_of_foundAt? (h : program.foundAt? passed text = some found) :
    found.before = passed.reverse := by
  obtain ⟨_, -, rfl⟩ := Option.map_eq_some_iff.mp h
  rfl

/-- A match is not found in front of what has been passed over. -/
theorem Program.isPrefix_before (h : program.findFrom passed text = some found) :
    passed.reverse <+: found.before := by
  induction text generalizing passed with
  | nil =>
    rw [findFrom, Option.orElse_eq_or, Option.or_none] at h
    exact (before_of_foundAt? h).symm ▸ List.prefix_rfl
  | cons c rest ih =>
    rw [findFrom, Option.orElse_eq_or] at h
    rcases Option.or_eq_some_iff.mp h with hat | ⟨-, hlater⟩
    · exact (before_of_foundAt? hat).symm ▸ List.prefix_rfl
    · have hbefore := ih hlater
      rw [List.reverse_cons] at hbefore
      exact (List.prefix_append _ _).trans hbefore

/-- A pattern whose alternatives all demand the start is found nowhere else. -/
theorem find_eq_foundAt? (h : p.demandsStartEverywhere = true) (text : List Char) :
    p.find text = p.program.foundAt? [] text := by
  rw [find]
  split
  · rfl
  · exact Program.findFrom_of_shut (isShut_entry h 0 #[.accept]) text

/-- That a pattern which demands the start is tried nowhere else is no more
than a shortcut. -/
theorem find_eq_findFrom (p : Pattern) (text : List Char) :
    p.find text = p.program.findFrom [] text := by
  rw [find]
  split
  · next h =>
    have heverywhere := demandsStartEverywhere_of_demandsStart h
    exact (Program.findFrom_of_shut (isShut_entry heverywhere 0 #[.accept]) text).symm
  · rfl

/-- The matches that begin with the text are those that are looked for there. -/
theorem filter_find (p : Pattern) (text : List Char) :
    ((p.find text).filter fun found => found.before.isEmpty)
      = p.program.foundAt? [] text := by
  have hstart : ((p.program.foundAt? [] text).filter fun found =>
      found.before.isEmpty) = p.program.foundAt? [] text := by
    cases hfound : p.program.foundAt? [] text with
    | none => rfl
    | some found =>
      rw [Option.filter_some, Program.before_of_foundAt? hfound]
      rfl
  rw [find_eq_findFrom]
  cases text with
  | nil => rwa [Program.findFrom, Option.orElse_eq_or, Option.or_none]
  | cons c rest =>
    have hlater : ((p.program.findFrom [c] rest).filter fun found =>
        found.before.isEmpty) = none := by
      rw [Option.filter_eq_none_iff]
      intro found hfound hempty
      have hbefore := Program.isPrefix_before hfound
      rw [List.isEmpty_iff.mp hempty, List.prefix_nil] at hbefore
      cases hbefore
    rw [Program.findFrom, Option.orElse_eq_or]
    cases hhere : p.program.foundAt? [] (c :: rest) with
    | none => exact hlater
    | some found => rwa [hhere] at hstart

end Find

section Anchoring

variable {expression : List Char} {p q : Pattern}

/-- A demand for the start in front of a pattern makes no difference where the
text starts. -/
theorem restAfter?_append_startOfText (p : Pattern) (text : List Char) :
    (append startOfText p).program.restAfter? true text
      = p.program.restAfter? true text := by
  have hsize : 0 < p.program.size := by
    rw [size_program]
    omega
  exact Program.restAfter?_push_ifStart (program_closed p) hsize text

/-- Nor does it take the place of nothing. -/
theorem restAfter?_startOfText (text : List Char) :
    startOfText.program.restAfter? true text
      = empty.program.restAfter? true text := by
  have hclosed : Program.Closed #[.accept] := Program.staysBelow_accept 1
  calc startOfText.program.restAfter? true text
      = Program.restAfter? #[.accept] true text :=
        Program.restAfter?_push_ifStart hclosed (by decide) text
    _ = empty.program.restAfter? true text :=
        (Program.restAfter?_push_jump hclosed (by decide) text).symm

/-- Anchoring makes no difference where the text starts. -/
theorem foundAt?_anchored (hp : parse expression = .ok p)
    (hq : parseAnchored expression = .ok q) (text : List Char) :
    q.program.foundAt? [] text = p.program.foundAt? [] text := by
  obtain ⟨-, rfl⟩ | ⟨-, rfl⟩ := parseAnchored_eq_ok hp hq
  · rfl
  · have hrest : Program.restAfter?
        (if p = empty then startOfText else append startOfText p).program true text
        = p.program.restAfter? true text := by
      split
      · next hempty => rw [hempty, restAfter?_startOfText]
      · exact restAfter?_append_startOfText p text
    exact congrArg (Option.map _) hrest

/-- An anchored expression is found only where a text starts, unless it begins
with a demand for the start and has an alternative that does not. -/
theorem before_of_find_anchored (hp : parse expression = .ok p)
    (hq : parseAnchored expression = .ok q)
    (hstart : expression.head? = some '^' → p.demandsStartEverywhere = true)
    {text : List Char} {found : Found} (hfound : q.find text = some found) :
    found.before = [] := by
  have heverywhere : q.demandsStartEverywhere = true := by
    obtain ⟨hhead, rfl⟩ | ⟨-, rfl⟩ := parseAnchored_eq_ok hp hq
    · exact hstart hhead
    · split <;> rfl
  rw [find_eq_foundAt? heverywhere] at hfound
  exact Program.before_of_foundAt? hfound

/-- Both alternatives demand the start, and the second one is found there. -/
theorem before_of_find_anchored_empty :
    ∃ p found, parse "^a|^".toList = .ok p ∧ parseAnchored "^a|^".toList = .ok p ∧
      p.find ['b', 'a'] = some found ∧ found.before = [] := by
  have hp : parse "^a|^".toList
      = .ok (either (append startOfText (oneOf (.ofChar 'a'))) startOfText) := by
    cbv
  have hfound : find (either (append startOfText (oneOf (.ofChar 'a'))) startOfText)
      ['b', 'a'] = some ⟨[], [], ['b', 'a']⟩ := by
    decide
  exact ⟨_, _, hp, hp, hfound, before_of_find_anchored hp hp (fun _ => rfl) hfound⟩

/-- The second alternative does not demand the start, and is found behind it. -/
theorem find_anchored_behindStart :
    ∃ p, parse "^a|b".toList = .ok p ∧ parseAnchored "^a|b".toList = .ok p ∧
      p.find ['c', 'b'] = some ⟨['c'], ['b'], []⟩ := by
  have hp : parse "^a|b".toList = .ok (either
      (append startOfText (oneOf (.ofChar 'a'))) (oneOf (.ofChar 'b'))) := by
    cbv
  have hfound : find (either (append startOfText (oneOf (.ofChar 'a')))
      (oneOf (.ofChar 'b'))) ['c', 'b'] = some ⟨['c'], ['b'], []⟩ := by
    decide
  exact ⟨_, hp, hp, hfound⟩

end Anchoring

end Pattern

namespace Rule

variable {α : Type} {expression : List Char} {p q : Pattern}

/-- A pattern rule runs on the match that begins with the text, if there is one. -/
theorem applyWith_pattern (resolve : Nat → State α → Outcome α) (p : Pattern)
    (s : State α) :
    (pattern p).applyWith resolve s
      = match p.program.foundAt? [] s.rest with
        | some found => .parsed (s.push found.after (.terminal found.text))
        | none => .failed := by
  rw [← Pattern.filter_find, applyWith]
  cases p.find s.rest with
  | none => rfl
  | some found =>
    by_cases hbefore : found.before.isEmpty
    · simp only [Option.filter_some, if_pos hbefore]
    · simp only [Option.filter_some, if_neg hbefore]

/-- A pattern rule fails, or takes a text away and makes it a terminal. -/
theorem applyWithin_pattern (store : Store α) (depth : Nat) (p : Pattern)
    (s : State α) :
    (pattern p).applyWithin store depth s = .failed ∨
      ∃ text rest, s.rest = text ++ rest ∧
        (pattern p).applyWithin store depth s
          = .parsed (s.push rest (.terminal text)) := by
  rw [applyWithin_eq_applyWith]
  cases hrun : (pattern p).applyWith (fun declaration s =>
      (reference declaration).applyWithin store depth s) s with
  | unfinished =>
    rw [applyWith_pattern] at hrun
    split at hrun <;> cases hrun
  | failed => exact .inl rfl
  | parsed s' =>
    obtain ⟨text, rest, hrest, rfl⟩ := pattern_eq_parsed hrun
    exact .inr ⟨text, rest, hrest, rfl⟩

/-- Anchoring is no more than an optimisation of a pattern rule. The rule of an
expression and that of the anchored expression end alike from every state: both
fail, or both take the same text away and make it a terminal. -/
theorem pattern_anchored_equivalent (hp : Pattern.parse expression = .ok p)
    (hq : Pattern.parseAnchored expression = .ok q) :
    (pattern q : Rule α).Equivalent (pattern p) ∧
      ∀ (store : Store α) (depth : Nat) (s : State α),
        ((pattern q).applyWithin store depth s = .failed ∧
            (pattern p).applyWithin store depth s = .failed) ∨
          ∃ text rest, s.rest = text ++ rest ∧
            (pattern q).applyWithin store depth s
              = .parsed (s.push rest (.terminal text)) ∧
            (pattern p).applyWithin store depth s
              = .parsed (s.push rest (.terminal text)) := by
  have hequivalent : (pattern q : Rule α).Equivalent (pattern p) := by
    apply Equivalent.of_frames
    intro resolve _ s
    rw [applyWith_pattern, applyWith_pattern, Pattern.foundAt?_anchored hp hq]
  refine ⟨hequivalent, ?_⟩
  intro store depth s
  rw [hequivalent store depth s]
  obtain hfailed | ⟨text, rest, hrest, hparsed⟩ :=
    applyWithin_pattern store depth p s
  · exact .inl ⟨hfailed, hfailed⟩
  · exact .inr ⟨text, rest, hrest, hparsed, hparsed⟩

/-- A lazy repetition stops as early with the demand for the start in front. -/
theorem pattern_anchored_equivalent_lazy :
    ∃ p q, Pattern.parse "a+?|b".toList = .ok p ∧
      Pattern.parseAnchored "a+?|b".toList = .ok q ∧ p ≠ q ∧
      (pattern q : Rule Nat).runOn .empty ['a', 'a', 'b']
        = .parsed ⟨['a', 'b'], [.terminal ['a']]⟩ := by
  have hp : Pattern.parse "a+?|b".toList = .ok (.either
      (.repeated false 1 none (.oneOf (.ofChar 'a'))) (.oneOf (.ofChar 'b'))) := by
    cbv
  have hq : Pattern.parseAnchored "a+?|b".toList = .ok (.append .startOfText (.either
      (.repeated false 1 none (.oneOf (.ofChar 'a'))) (.oneOf (.ofChar 'b')))) := by
    cbv
  refine ⟨_, _, hp, hq, by decide, ?_⟩
  obtain ⟨hequivalent, -⟩ := @pattern_anchored_equivalent Nat _ _ _ hp hq
  rw [runOn, parse, hequivalent]
  decide

end Rule

end TreeCodec
