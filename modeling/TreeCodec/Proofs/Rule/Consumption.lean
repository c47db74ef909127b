import Mathlib.Data.List.Basic
import TreeCodec.Proofs.Pattern.Found
import TreeCodec.Proofs.Rule.Run
import TreeCodec.Rule.Written

/-!
What a run takes from the text. Whatever a rule does with its nodes, the text
it leaves is an end of the text it was given. A rule that neither discards nor
reduces, other than by joining, loses nothing either: the texts of the nodes,
one after another, followed by what is left, are the whole text. An
alternative that was given up leaves no trace in this.
-/

namespace TreeCodec

variable {α : Type}

namespace Rule

variable {resolve : Nat → State α → Outcome α} {s s' : State α}

section Successes

/-! What a successful run of each kind of rule consists of. -/

theorem literal_eq_parsed {text : List Char}
    (h : (literal text).applyWith resolve s = .parsed s') :
    ∃ rest, s.rest = text ++ rest ∧ s' = s.push rest (.terminal text) := by
  rw [applyWith] at h
  cases hbegins : text.isPrefixOf? s.rest with
  | none =>
    rw [hbegins] at h
    cases h
  | some rest =>
    rw [hbegins] at h
    cases h
    exact ⟨rest, (List.append_eq_of_isPrefixOf?_eq_some hbegins).symm, rfl⟩

theorem pattern_eq_parsed {p : Pattern}
    (h : (pattern p).applyWith resolve s = .parsed s') :
    ∃ text rest, s.rest = text ++ rest ∧ s' = s.push rest (.terminal text) := by
  rw [applyWith] at h
  cases hfind : p.find s.rest with
  | none =>
    rw [hfind] at h
    cases h
  | some found =>
    rw [hfind] at h
    obtain ⟨hbefore, hparsed⟩ : found.before.isEmpty = true ∧
        Outcome.parsed (s.push found.after (.terminal found.text)) = .parsed s' := by
      by_cases hbefore : found.before.isEmpty
      · exact ⟨hbefore, by simpa only [hbefore, ↓reduceIte] using h⟩
      · simp only [hbefore] at h
        cases h
    cases hparsed
    have hparts := Pattern.append_of_find hfind
    rw [List.isEmpty_iff.mp hbefore, List.nil_append] at hparts
    exact ⟨found.text, found.after, hparts.symm, rfl⟩

theorem orElse_eq_parsed {first second : Rule α}
    (h : (orElse first second).applyWith resolve s = .parsed s') :
    ∃ produced, s' = s.absorb produced ∧
      (first.applyWith resolve (.start s.rest) = .parsed produced ∨
        second.applyWith resolve (.start s.rest) = .parsed produced) := by
  obtain ⟨produced, hproduced, rfl⟩ := Outcome.map_eq_parsed.mp h
  rcases Outcome.orElse_eq_parsed.mp hproduced with hfirst | ⟨-, hsecond⟩
  · exact ⟨produced, rfl, .inl hfirst⟩
  · exact ⟨produced, rfl, .inr hsecond⟩

theorem map_eq_parsed {rule : Rule α} {reduce : List (Node α) → α}
    (h : (map rule reduce).applyWith resolve s = .parsed s') :
    ∃ produced, rule.applyWith resolve (.start s.rest) = .parsed produced ∧
      s' = s.push produced.rest (.data (reduce produced.done)) := by
  obtain ⟨produced, hproduced, rfl⟩ := Outcome.map_eq_parsed.mp h
  exact ⟨produced, hproduced, rfl⟩

theorem tryMap_eq_parsed {rule : Rule α} {reduce : List (Node α) → Option α}
    (h : (tryMap rule reduce).applyWith resolve s = .parsed s') :
    ∃ produced value, rule.applyWith resolve (.start s.rest) = .parsed produced ∧
      reduce produced.done = some value ∧
      s' = s.push produced.rest (.data value) := by
  obtain ⟨produced, hproduced, hreduce⟩ := Outcome.bind_eq_parsed.mp h
  cases hvalue : reduce produced.done with
  | none =>
    rw [hvalue] at hreduce
    cases hreduce
  | some value =>
    rw [hvalue] at hreduce
    cases hreduce
    exact ⟨produced, value, hproduced, hvalue, rfl⟩

theorem discard_eq_parsed {rule : Rule α}
    (h : (discard rule).applyWith resolve s = .parsed s') :
    ∃ produced, rule.applyWith resolve (.start s.rest) = .parsed produced ∧
      s' = ⟨produced.rest, s.done⟩ := by
  obtain ⟨produced, hproduced, rfl⟩ := Outcome.map_eq_parsed.mp h
  exact ⟨produced, hproduced, rfl⟩

end Successes

end Rule

/-- Every success of the run leaves an end of the text it began with. -/
def Advances (run : State α → Outcome α) : Prop :=
  ∀ s s', run s = .parsed s' → s'.rest <:+ s.rest

namespace Rule

theorem applyWith_advances {resolve : Nat → State α → Outcome α}
    (hresolve : ∀ declaration, Advances (resolve declaration)) (rule : Rule α) :
    Advances (rule.applyWith resolve) := by
  intro s s' h
  induction rule generalizing s s' with
  | literal text =>
    obtain ⟨rest, hrest, rfl⟩ := literal_eq_parsed h
    exact ⟨text, hrest.symm⟩
  | pattern p =>
    obtain ⟨text, rest, hrest, rfl⟩ := pattern_eq_parsed h
    exact ⟨text, hrest.symm⟩
  | epsilon =>
    cases h
    exact List.suffix_refl s.rest
  | never => cases h
  | andThen first second ihFirst ihSecond =>
    obtain ⟨middle, hfirst, hsecond⟩ := Outcome.bind_eq_parsed.mp h
    exact (ihSecond _ _ hsecond).trans (ihFirst _ _ hfirst)
  | orElse first second ihFirst ihSecond =>
    obtain ⟨produced, rfl, hfirst | hsecond⟩ := orElse_eq_parsed h
    · rw [State.absorb_eq]
      exact ihFirst (.start s.rest) produced hfirst
    · rw [State.absorb_eq]
      exact ihSecond (.start s.rest) produced hsecond
  | map rule reduce ih =>
    obtain ⟨produced, hproduced, rfl⟩ := map_eq_parsed h
    exact ih (.start s.rest) produced hproduced
  | tryMap rule reduce ih =>
    obtain ⟨produced, value, hproduced, -, rfl⟩ := tryMap_eq_parsed h
    exact ih (.start s.rest) produced hproduced
  | discard rule ih =>
    obtain ⟨produced, hproduced, rfl⟩ := discard_eq_parsed h
    exact ih (.start s.rest) produced hproduced
  | reference declaration => exact hresolve declaration s s' h

theorem applyWithin_advances (store : Store α) (depth : Nat) (rule : Rule α) :
    Advances (rule.applyWithin store depth) := by
  induction depth generalizing rule with
  | zero =>
    apply applyWith_advances
    intro declaration s s' h
    cases h
  | succ depth ih =>
    apply applyWith_advances
    intro declaration s s' h
    cases hrule : store.rule? declaration with
    | none =>
      rw [hrule] at h
      cases h
    | some rule =>
      rw [hrule] at h
      exact ih rule s s' h

end Rule

@[simp]
theorem joinedText_append (first second : List (Node (List Char))) :
    joinedText (first ++ second) = joinedText first ++ joinedText second :=
  List.flatMap_append

@[simp]
theorem joinedText_singleton (node : Node (List Char)) :
    joinedText [node] = node.text := by
  simp [joinedText]

/-- The text that the nodes of a state stand for, and what is left. -/
def State.wholeText (s : State (List Char)) : List Char :=
  joinedText s.done ++ s.rest

namespace State

theorem wholeText_push {s : State (List Char)} {node : Node (List Char)}
    {rest : List Char} (h : node.text ++ rest = s.rest) :
    (s.push rest node).wholeText = s.wholeText := by
  simp [wholeText, push, h]

theorem wholeText_absorb {s produced : State (List Char)}
    (h : produced.wholeText = s.rest) :
    (s.absorb produced).wholeText = s.wholeText := by
  rw [wholeText] at h
  simp [wholeText, absorb_eq, h]

end State

/-- Every success of the run ends with the text that it began with. -/
def Conserves (run : State (List Char) → Outcome (List Char)) : Prop :=
  ∀ s s', run s = .parsed s' → s'.wholeText = s.wholeText

namespace Rule

/-- Built without discarding, and without reductions other than joining. -/
def Joins : Rule (List Char) → Prop
  | literal _ | pattern _ | epsilon | never | reference _ => True
  | andThen first second | orElse first second => first.Joins ∧ second.Joins
  | map rule reduce => rule.Joins ∧ ∀ nodes, reduce nodes = joinedText nodes
  | tryMap _ _ | discard _ => False

end Rule

/-- All rules of declarations are built in this way. -/
def Store.Joins (store : TextStore) : Prop :=
  ∀ declaration rule, store.rule? declaration = some rule → rule.Joins

namespace Rule

theorem applyWith_conserves
    {resolve : Nat → State (List Char) → Outcome (List Char)}
    (hresolve : ∀ declaration, Conserves (resolve declaration))
    {rule : Rule (List Char)} (hrule : rule.Joins) :
    Conserves (rule.applyWith resolve) := by
  intro s s' h
  induction rule generalizing s s' with
  | literal text =>
    obtain ⟨rest, hrest, rfl⟩ := literal_eq_parsed h
    exact State.wholeText_push hrest.symm
  | pattern p =>
    obtain ⟨text, rest, hrest, rfl⟩ := pattern_eq_parsed h
    exact State.wholeText_push hrest.symm
  | epsilon =>
    cases h
    rfl
  | never => cases h
  | andThen first second ihFirst ihSecond =>
    obtain ⟨middle, hfirst, hsecond⟩ := Outcome.bind_eq_parsed.mp h
    exact (ihSecond hrule.2 _ _ hsecond).trans (ihFirst hrule.1 _ _ hfirst)
  | orElse first second ihFirst ihSecond =>
    obtain ⟨produced, rfl, hfirst | hsecond⟩ := orElse_eq_parsed h
    · exact State.wholeText_absorb (ihFirst hrule.1 _ _ hfirst)
    · exact State.wholeText_absorb (ihSecond hrule.2 _ _ hsecond)
  | map rule reduce ih =>
    obtain ⟨produced, hproduced, rfl⟩ := map_eq_parsed h
    apply State.wholeText_push
    rw [hrule.2 produced.done]
    exact ih hrule.1 _ _ hproduced
  | tryMap rule reduce ih => exact hrule.elim
  | discard rule ih => exact hrule.elim
  | reference declaration => exact hresolve declaration s s' h

theorem applyWithin_conserves {store : TextStore} (hstore : store.Joins)
    (depth : Nat) {rule : Rule (List Char)} (hrule : rule.Joins) :
    Conserves (rule.applyWithin store depth) := by
  induction depth generalizing rule with
  | zero =>
    refine applyWith_conserves ?_ hrule
    intro declaration s s' h
    cases h
  | succ depth ih =>
    refine applyWith_conserves ?_ hrule
    intro declaration s s' h
    cases hdeclared : store.rule? declaration with
    | none =>
      rw [hdeclared] at h
      cases h
    | some rule =>
      rw [hdeclared] at h
      exact ih (hstore declaration rule hdeclared) s s' h

/-- Where a rule succeeds, the text that is left is an end of the text it was
given. If the rule and the declarations neither discard nor reduce, other than
by joining, then the nodes and what is left make up what the nodes and the text
were before; from the beginning of a text, they make up that text. A run by
`parse` is one of these bounded runs. -/
theorem joinedText_of_parsed :
    (∀ (store : TextStore) (rule : Rule (List Char)), store.Joins → rule.Joins →
      ∀ depth s s', rule.applyWithin store depth s = .parsed s' →
        joinedText s'.done ++ s'.rest = joinedText s.done ++ s.rest) ∧
    ∀ {β : Type} (store : Store β) (rule : Rule β) depth s s',
      rule.applyWithin store depth s = .parsed s' → s'.rest <:+ s.rest := by
  constructor
  · intro store rule hstore hrule depth s s' h
    exact applyWithin_conserves hstore depth hrule s s' h
  · intro β store rule depth s s' h
    exact applyWithin_advances store depth rule s s' h

/-- Brackets that match, joined into one value. An `x` is tried and given up. -/
def bracketStore : TextStore :=
  Store.empty.recursive fun brackets =>
    choice
      [map (sequence [literal ['('], brackets, literal [')'], brackets]) joinedText,
        sequence [literal ['x'], never],
        epsilon]

theorem bracketStore_joins : bracketStore.Joins := by
  intro declaration rule hrule
  cases declaration with
  | zero =>
    cases hrule
    simp [choice, sequence, Joins]
  | succ declaration => cases hrule

/-- The last bracket is tried and given up as well: it is left with its `x`. -/
theorem joinedText_brackets :
    bracketStore.Joins ∧ (reference 0 : Rule (List Char)).Joins ∧
    (reference 0).applyWithin bracketStore 7 (.start ['(', '(', ')', ')', '(', 'x'])
      = .parsed ⟨['(', 'x'], [.data ['(', '(', ')', ')']]⟩ ∧
    joinedText [.data ['(', '(', ')', ')']] ++ ['(', 'x']
      = joinedText [] ++ ['(', '(', ')', ')', '(', 'x'] ∧
    ['(', 'x'] <:+ ['(', '(', ')', ')', '(', 'x'] := by
  have hrun : (reference 0).applyWithin bracketStore 7
      (.start ['(', '(', ')', ')', '(', 'x'])
      = .parsed ⟨['(', 'x'], [.data ['(', '(', ')', ')']]⟩ := by decide
  refine ⟨bracketStore_joins, trivial, hrun, ?_, ?_⟩
  · exact joinedText_of_parsed.1 bracketStore (reference 0) bracketStore_joins
      trivial 7 _ _ hrun
  · exact joinedText_of_parsed.2 bracketStore (reference 0) 7 _ _ hrun

end Rule

end TreeCodec
