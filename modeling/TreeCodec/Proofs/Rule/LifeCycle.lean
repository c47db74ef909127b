import TreeCodec.Proofs.Rule.Steps

/-!
The life cycle of a declaration. It has no rule until one is given to it, then
that rule and no other, and none again once it is dropped. References are to
the declaration and not to its name, and look its rule up each time they run.
-/

namespace TreeCodec

variable {α : Type}

/-- How a declaration behaves that has a rule, or has none. -/
structure Store.Lives (store : Store α) (number : Nat) (rule? : Option (Rule α)) :
    Prop where
  /-- A reference runs the rule that there is, and fails without one. -/
  run : ∀ depth s, (Rule.reference number).applyWithin store (depth + 1) s
    = rule?.elim .failed fun rule => rule.applyWithin store depth s
  parse : store.Closed → ∀ s, (Rule.reference number).parse store s
    = rule?.elim .failed fun rule => rule.parse store s
  isDefined : store.isDefined number = rule?.isSome
  /-- Besides the rule that there is, any other is handed back. -/
  define : rule?.isSome → ∀ rule, store.define number rule = .error rule

theorem Store.lives (store : Store α) {number : Nat}
    (hnumber : number < store.nextDeclaration) :
    store.Lives number (store.rule? number) where
  run depth s := Rule.applyWithin_reference_succ store depth number s
  parse hstore s := Rule.parse_reference hstore hnumber s
  isDefined := rfl
  define hdefined rule := by
    obtain ⟨first, hfirst⟩ := Option.isSome_iff_exists.mp hdefined
    exact Store.define_eq_error hfirst rule

namespace Session

/-- How a session answers about a declaration by its name. -/
structure Answers (session : Session) (name : String) (number : Nat)
    (rule? : Option (Rule (List Char))) : Prop where
  declaration : session.declaration? name = some number
  isDefined : session.step (.isDefined name) = (session, .isDefined rule?.isSome)
  parse : ∀ s, session.step (.parseDeclaration name s)
    = (session, .parsed ((Rule.reference number).parse session.store s))
  /-- A rule that can be built is taken if it is the first. If not, the rule
  that is handed back runs on a probe as the one that was built. -/
  define : ∀ rule probe built larger,
    (rule.build session.scope).run session.store = .ok (built, larger) →
    (session.step (.define name rule probe)).2
      = if rule?.isSome then
          .refused (probe.map fun text => built.runOn larger text)
        else .defined
  /-- What is refused has no effect on any reference. -/
  refuse : rule?.isSome → ∀ rule probe built larger,
    (rule.build session.scope).run session.store = .ok (built, larger) →
    (session.step (.define name rule probe)).1 = { session with store := larger } ∧
    ∀ other < session.store.nextDeclaration, ∀ s,
      (Rule.reference other).parse larger s
        = (Rule.reference other).parse session.store s

section Naming

variable {session : Session} {name : String} {number : Nat}
variable {rule : WrittenRule} {built : Rule (List Char)} {larger : TextStore}

theorem step_define (hname : session.declaration? name = some number)
    (hbuild : (rule.build session.scope).run session.store = .ok (built, larger))
    (probe : Option (List Char)) :
    session.step (.define name rule probe)
      = ({ session with store := larger } : Session).defineAs number built probe := by
  rw [step, naming_of_some hname, building_of_ok hbuild]

variable (hsession : session.Sound)
include hsession

/-- A first rule is taken. -/
theorem step_define_of_undefined (hname : session.declaration? name = some number)
    (hundefined : session.store.declarations[number]? = some .undefined)
    (hbuild : (rule.build session.scope).run session.store = .ok (built, larger))
    (probe : Option (List Char)) :
    (session.step (.define name rule probe)).2 = .defined := by
  have hgrows := (rule.build_grows hsession.scope hbuild).1
  have hnumber := hsession.scope.declared name number hname
  rw [step_define hname hbuild, defineAs, Store.define,
    hgrows.getElem?_eq hnumber, hundefined]

/-- A later rule is handed back, and nothing else is done than to build it. -/
theorem step_define_of_defined (hname : session.declaration? name = some number)
    (hdefined : (session.store.rule? number).isSome)
    (hbuild : (rule.build session.scope).run session.store = .ok (built, larger))
    (probe : Option (List Char)) :
    session.step (.define name rule probe)
      = ({ session with store := larger },
          .refused (probe.map fun text => built.runOn larger text)) := by
  have hgrows := (rule.build_grows hsession.scope hbuild).1
  have hnumber := hsession.scope.declared name number hname
  obtain ⟨first, hfirst⟩ := Option.isSome_iff_exists.mp hdefined
  have hrefused : larger.define number built = .error built :=
    Store.define_eq_error ((hgrows.rule?_eq hnumber).trans hfirst) built
  rw [step_define hname hbuild, defineAs, hrefused]

/-- The answers about a declaration that has not been dropped. -/
theorem answers_of_kept (hname : session.declaration? name = some number)
    {life : Declaration (List Char)}
    (hlife : session.store.declarations[number]? = some life)
    (hkept : life ≠ .dropped) :
    session.Answers name number (session.store.rule? number) where
  declaration := hname
  isDefined := naming_of_some hname _
  parse s := naming_of_some hname _
  define rule probe built larger hbuild := by
    cases life with
    | undefined =>
      have hnone : session.store.rule? number = none := by
        rw [Store.rule?, hlife]
      rw [step_define_of_undefined hsession hname hlife hbuild, hnone]
      rfl
    | defined first =>
      have hdefined : (session.store.rule? number).isSome := by
        rw [Store.rule?, hlife]
        rfl
      rw [step_define_of_defined hsession hname hdefined hbuild, if_pos hdefined]
    | dropped => exact absurd rfl hkept
  refuse hdefined rule probe built larger hbuild := by
    have hgrows := (rule.build_grows hsession.scope hbuild).1
    constructor
    · rw [step_define_of_defined hsession hname hdefined hbuild]
    · intro other hother s
      have hbelow : (Rule.reference other : Rule (List Char)).RefersBelow
          session.store.nextDeclaration := hother
      exact hgrows.parse_eq hsession.store hbelow s

end Naming

end Session

/-- The life of a declaration `number`, from when it is made. The rule that it
has is the first one offered to it since, unless it has been dropped.

First for any kind of data and any acts on a store, where a reference within
any rule is run as it is on its own. Then for every session, where this holds
of all rules that were ever bound to a name, and where the declaration can be
asked about by its name as long as it is not dropped. -/
theorem lifeCycle_of_declaration :
    (∀ {β : Type} (earlier : Store β) (acts : List (Act β)),
      let number := earlier.nextDeclaration
      let store := earlier.declare.after acts
      store.Lives number (Act.rule? number acts) ∧
      (∀ (rule : Rule β) depth s, rule.applyWithin store depth s
        = rule.applyWith
            (fun other s => (Rule.reference other).applyWithin store depth s) s) ∧
      ∀ build, earlier.recursive build
        = earlier.declare.after [.define number (build (.reference number))]) ∧
    ∀ (before steps : List Step) (name : String),
      let earlier := Session.initial.after before
      let number := earlier.store.nextDeclaration
      let session := (earlier.declare name).after steps
      let acts := (earlier.declare name).acts steps
      session.store.Closed ∧
      session.store.Lives number (Act.rule? number acts) ∧
      (∀ named ∈ session.scope.bound, ∀ s, named.2.parse session.store s
        = named.2.applyWith
            (fun other s => (Rule.reference other).parse session.store s) s) ∧
      (acts.any (Act.drops number) = false →
        session.Answers name number (Act.rule? number acts)) := by
  constructor
  · intro β earlier acts number store
    have hnumber : number < store.nextDeclaration := by
      have hmade : number < earlier.declare.nextDeclaration := by simp [number]
      exact Nat.lt_of_lt_of_le hmade (earlier.declare.nextDeclaration_after_le acts)
    refine ⟨?_, ?_, earlier.recursive_eq_after⟩
    · rw [← earlier.rule?_after_declare acts]
      exact store.lives hnumber
    · intro rule depth s
      exact rule.applyWithin_eq_applyWith store depth s
  · intro before steps name earlier number session acts
    have hearlier : earlier.Sound := Session.sound_initial.after before
    have hmade := hearlier.declare name
    have hsession : session.Sound := hmade.after steps
    have hlife := Session.getElem?_declare_after hearlier name steps
    have hnumber : number < session.store.nextDeclaration :=
      (List.getElem?_eq_some_iff.mp hlife).1
    rw [← Session.rule?_declare_after hearlier name steps]
    refine ⟨hsession.store, session.store.lives hnumber, ?_, ?_⟩
    · intro named hnamed s
      have hbelow := hsession.scope.bound named hnamed
      exact Rule.parse_eq_applyWith_reference hsession.store hbelow s
    · intro hkept
      have hname : session.declaration? name = some number := by
        refine Session.declaration?_after hmade ?_ hkept
        rw [Session.declaration?_declare, if_pos rfl]
      exact Session.answers_of_kept hsession hname hlife
        (Declaration.foldl_meet_undefined_ne_dropped hkept)

/-- A rule is made of two references, before the declaration has its rule. -/
def twoDigits : List Step :=
  [.bindRule "two" (.sequence [.reference "digit", .reference "digit"]),
    .define "digit" (.literal ['0']) none]

/-- A further rule for the declaration is refused, with a probe that it passes,
and the references in the rule that was bound go on as before. -/
theorem lifeCycle_of_twoDigits :
    let made := Session.initial.declare "digit"
    let session := made.after twoDigits
    let further := Step.define "digit" (.literal ['1']) (some ['1'])
    let store : Store (List Char) := Store.empty.declare.after [.define 0 .epsilon]
    (made.acts twoDigits).any (Act.drops 0) = false ∧
    (Act.rule? 0 (made.acts twoDigits)).isSome ∧
    ((WrittenRule.literal ['1']).build session.scope).run session.store
      = .ok (.literal ['1'], session.store) ∧
    session.step further
      = (session, .refused (some (.parsed ⟨[], [.terminal ['1']]⟩))) ∧
    (Rule.reference 0).parse session.store (.start ['0', '1'])
      = .parsed ⟨['1'], [.terminal ['0']]⟩ ∧
    store.define 0 .never = .error .never := by
  intro made session further store
  have hkept : (made.acts twoDigits).any (Act.drops 0) = false := by rfl
  have hdefined : (Act.rule? 0 (made.acts twoDigits)).isSome := by rfl
  have hbuild : ((WrittenRule.literal ['1']).build session.scope).run session.store
      = .ok (.literal ['1'], session.store) := by rfl
  obtain ⟨hlives, -, -⟩ :=
    lifeCycle_of_declaration.1 Store.empty [.define 0 (.epsilon : Rule (List Char))]
  obtain ⟨hclosed, hsession, -, hanswers⟩ :=
    lifeCycle_of_declaration.2 [] twoDigits "digit"
  have hdefine := (hanswers hkept).define _ (some ['1']) _ _ hbuild
  have hrefuse := (hanswers hkept).refuse hdefined _ (some ['1']) _ _ hbuild
  refine ⟨hkept, hdefined, hbuild, Prod.ext hrefuse.1 hdefine, ?_, ?_⟩
  · exact hsession.parse hclosed (.start ['0', '1'])
  · exact hlives.define rfl .never

/-- Another declaration of the name, with the same rule, does not help those
who refer to the first one. -/
example :
    let steps := twoDigits ++ [.declare "digit", .define "digit" (.literal ['0']) none]
    let session := (Session.initial.declare "digit").after steps
    (Rule.reference 0).parse session.store (.start ['0']) = .failed ∧
    (Rule.reference 1).parse session.store (.start ['0'])
      = .parsed ⟨[], [.terminal ['0']]⟩ := by
  decide

end TreeCodec
