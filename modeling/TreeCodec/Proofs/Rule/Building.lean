import TreeCodec.Proofs.Rule.Growth
import TreeCodec.Rule.Written

/-!
What building a rule does to the store. It only adds declarations, which have
their rules at once, and every reference in what is built is to a declaration
that was made.
-/

namespace TreeCodec

/-- Names stand for declarations that were made, and for rules that refer to
such declarations. -/
structure Scope.Below (count : Nat) (scope : Scope) : Prop where
  declared : ∀ name number, scope.declared.lookup name = some number →
    number < count
  bound : ∀ named ∈ scope.bound, named.2.RefersBelow count

namespace Scope.Below

variable {scope : Scope} {count larger : Nat}

theorem mono (h : scope.Below count) (hcount : count ≤ larger) :
    scope.Below larger := by
  constructor
  · intro name number hnumber
    exact Nat.lt_of_lt_of_le (h.declared name number hnumber) hcount
  · intro named hnamed
    exact (h.bound named hnamed).mono hcount

theorem bind (h : scope.Below count) {rule : Rule (List Char)}
    (hrule : rule.RefersBelow count) (name : String) :
    (scope.bind name rule).Below count := by
  refine ⟨h.declared, ?_⟩
  intro named hnamed
  rcases List.mem_cons.mp hnamed with rfl | hnamed
  · exact hrule
  · exact h.bound named hnamed

theorem lookup (h : scope.Below count) {name : String} {rule : Rule (List Char)}
    (hrule : scope.bound.lookup name = some rule) : rule.RefersBelow count := by
  obtain ⟨_, _, hbound, -⟩ := List.lookup_eq_some_iff.mp hrule
  apply h.bound (name, rule)
  rw [hbound]
  simp

end Scope.Below

/-- The parts of a successful build, with the store in between. -/
theorem Build.bind_eq_ok {β γ : Type} {x : Build β} {next : β → Build γ}
    {store larger : TextStore} {result : γ} :
    (x >>= next).run store = .ok (result, larger) ↔
      ∃ part middle, x.run store = .ok (part, middle) ∧
        (next part).run middle = .ok (result, larger) := by
  rw [StateT.run_bind]
  cases x.run store with
  | error cause => simp [Bind.bind, Except.bind]
  | ok outcome =>
    obtain ⟨part, middle⟩ := outcome
    simp [Bind.bind, Except.bind]

/-- A recursive rule is built from a reference to a new declaration, which is
then given the rule that was built. -/
theorem WrittenRule.build_recursive_eq_ok {scope : Scope}
    {store larger : TextStore} {name : String} {rule : WrittenRule}
    {built : Rule (List Char)}
    (h : ((recursive name rule).build scope).run store = .ok (built, larger)) :
    ∃ inner middle,
      (rule.build (scope.bind name (.reference store.nextDeclaration))).run
        store.declare = .ok (inner, middle) ∧
      built = .reference store.nextDeclaration ∧
      larger = middle.tryDefine store.nextDeclaration inner := by
  rw [build] at h
  obtain ⟨_, _, hget, h⟩ := Build.bind_eq_ok.mp h
  cases hget
  obtain ⟨_, _, hset, h⟩ := Build.bind_eq_ok.mp h
  cases hset
  obtain ⟨inner, middle, hinner, h⟩ := Build.bind_eq_ok.mp h
  cases h
  exact ⟨inner, middle, hinner, rfl, rfl⟩

mutual

/-- Building only adds declarations that have their rules at once. -/
theorem WrittenRule.build_grows {scope : Scope} {store larger : TextStore}
    {built : Rule (List Char)} (hscope : scope.Below store.nextDeclaration) :
    (rule : WrittenRule) →
    (rule.build scope).run store = .ok (built, larger) →
    store.Grows larger ∧ built.RefersBelow larger.nextDeclaration
  | .literal text, h => by
    rw [WrittenRule.build] at h
    cases h
    exact ⟨.refl store, trivial⟩
  | .pattern anchored expression, h => by
    rw [WrittenRule.build] at h
    cases hp : buildPattern anchored expression with
    | error cause =>
      rw [hp] at h
      cases h
    | ok p =>
      rw [hp] at h
      cases h
      exact ⟨.refl store, trivial⟩
  | .epsilon, h => by
    rw [WrittenRule.build] at h
    cases h
    exact ⟨.refl store, trivial⟩
  | .never, h => by
    rw [WrittenRule.build] at h
    cases h
    exact ⟨.refl store, trivial⟩
  | .sequence rules, h => by
    rw [WrittenRule.build] at h
    obtain ⟨parts, middle, hparts, h⟩ := Build.bind_eq_ok.mp h
    cases h
    obtain ⟨hgrows, hbelow⟩ := buildAll_grows hscope rules hparts
    exact ⟨hgrows, .foldl_andThen trivial hbelow⟩
  | .choice rules, h => by
    rw [WrittenRule.build] at h
    obtain ⟨parts, middle, hparts, h⟩ := Build.bind_eq_ok.mp h
    cases h
    obtain ⟨hgrows, hbelow⟩ := buildAll_grows hscope rules hparts
    exact ⟨hgrows, .foldl_orElse trivial hbelow⟩
  | .andThen first second, h => by
    rw [WrittenRule.build] at h
    obtain ⟨left, middle, hleft, h⟩ := Build.bind_eq_ok.mp h
    obtain ⟨right, last, hright, h⟩ := Build.bind_eq_ok.mp h
    cases h
    obtain ⟨hgrows, hbelow⟩ := first.build_grows hscope hleft
    obtain ⟨hgrows', hbelow'⟩ :=
      second.build_grows (hscope.mono hgrows.nextDeclaration_le) hright
    exact ⟨hgrows.trans hgrows', hbelow.mono hgrows'.nextDeclaration_le, hbelow'⟩
  | .orElse first second, h => by
    rw [WrittenRule.build] at h
    obtain ⟨left, middle, hleft, h⟩ := Build.bind_eq_ok.mp h
    obtain ⟨right, last, hright, h⟩ := Build.bind_eq_ok.mp h
    cases h
    obtain ⟨hgrows, hbelow⟩ := first.build_grows hscope hleft
    obtain ⟨hgrows', hbelow'⟩ :=
      second.build_grows (hscope.mono hgrows.nextDeclaration_le) hright
    exact ⟨hgrows.trans hgrows', hbelow.mono hgrows'.nextDeclaration_le, hbelow'⟩
  | .map rule reducer, h => by
    rw [WrittenRule.build] at h
    obtain ⟨part, middle, hpart, h⟩ := Build.bind_eq_ok.mp h
    cases h
    obtain ⟨hgrows, hbelow⟩ := rule.build_grows hscope hpart
    exact ⟨hgrows, hbelow⟩
  | .tryMap rule selector, h => by
    rw [WrittenRule.build] at h
    obtain ⟨part, middle, hpart, h⟩ := Build.bind_eq_ok.mp h
    cases h
    obtain ⟨hgrows, hbelow⟩ := rule.build_grows hscope hpart
    exact ⟨hgrows, hbelow⟩
  | .discard rule, h => by
    rw [WrittenRule.build] at h
    obtain ⟨part, middle, hpart, h⟩ := Build.bind_eq_ok.mp h
    cases h
    obtain ⟨hgrows, hbelow⟩ := rule.build_grows hscope hpart
    exact ⟨hgrows, hbelow⟩
  | .recursive name rule, h => by
    obtain ⟨inner, middle, hinner, rfl, rfl⟩ :=
      WrittenRule.build_recursive_eq_ok h
    have hmade : store.nextDeclaration < store.declare.nextDeclaration := by simp
    have hself : (Rule.reference store.nextDeclaration : Rule (List Char)).RefersBelow
        store.declare.nextDeclaration := hmade
    have hinside := (hscope.mono hmade.le).bind hself name
    obtain ⟨hgrows, hbelow⟩ := rule.build_grows hinside hinner
    refine ⟨hgrows.tryDefine hbelow, ?_⟩
    rw [Store.nextDeclaration_tryDefine]
    exact Nat.lt_of_lt_of_le hmade hgrows.nextDeclaration_le
  | .reference name, h => by
    rw [WrittenRule.build] at h
    cases hnumber : scope.declared.lookup name with
    | none =>
      rw [hnumber] at h
      cases h
    | some number =>
      rw [hnumber] at h
      cases h
      exact ⟨.refl store, hscope.declared name number hnumber⟩
  | .use name, h => by
    rw [WrittenRule.build] at h
    cases hrule : scope.bound.lookup name with
    | none =>
      rw [hrule] at h
      cases h
    | some rule =>
      rw [hrule] at h
      cases h
      exact ⟨.refl store, hscope.lookup hrule⟩

theorem buildAll_grows {scope : Scope} {store larger : TextStore}
    {built : List (Rule (List Char))}
    (hscope : scope.Below store.nextDeclaration) :
    (rules : List WrittenRule) →
    (buildAll scope rules).run store = .ok (built, larger) →
    store.Grows larger ∧ ∀ rule ∈ built, rule.RefersBelow larger.nextDeclaration
  | [], h => by
    rw [buildAll] at h
    cases h
    refine ⟨.refl store, ?_⟩
    intro rule hrule
    cases hrule
  | rule :: rules, h => by
    rw [buildAll] at h
    obtain ⟨first, middle, hfirst, h⟩ := Build.bind_eq_ok.mp h
    obtain ⟨others, last, hothers, h⟩ := Build.bind_eq_ok.mp h
    cases h
    obtain ⟨hgrows, hbelow⟩ := rule.build_grows hscope hfirst
    obtain ⟨hgrows', hbelow'⟩ :=
      buildAll_grows (hscope.mono hgrows.nextDeclaration_le) rules hothers
    refine ⟨hgrows.trans hgrows', ?_⟩
    intro rule hrule
    rcases List.mem_cons.mp hrule with rfl | hrule
    · exact hbelow.mono hgrows'.nextDeclaration_le
    · exact hbelow' rule hrule

end

end TreeCodec
