import TreeCodec.Proofs.Rule.Building
import TreeCodec.Rule.Session

/-!
Declarations in a session. What a step does to the declarations that were made
before it is one act at most, on the declaration of a name; all else that it
does to the store is to add declarations. So the life of a declaration is told
by the acts of the steps since it was made, whatever other declarations there
are and whatever names have been used again.
-/

namespace TreeCodec

section Lookup

variable {β : Type}

theorem lookup_cons_ite (entries : List (String × β)) (name other : String)
    (value : β) :
    ((name, value) :: entries).lookup other
      = if other = name then some value else entries.lookup other := by
  rw [List.lookup_cons]
  by_cases hother : other = name
  · simp [hother]
  · have hdiffer : (other == name) = false := beq_false_of_ne hother
    simp [hdiffer, hother]

theorem lookup_filter_bne (entries : List (String × β)) (name other : String) :
    (entries.filter (·.1 != name)).lookup other
      = if other = name then none else entries.lookup other := by
  induction entries with
  | nil => simp
  | cons entry entries ih =>
    obtain ⟨key, value⟩ := entry
    by_cases hkey : key = name
    · rw [List.filter_cons_of_neg (by simp [hkey]), ih, lookup_cons_ite]
      by_cases hother : other = name
      · simp [hother]
      · simp [hother, hkey]
    · rw [List.filter_cons_of_pos (by simp [hkey]), lookup_cons_ite, ih,
        lookup_cons_ite]
      by_cases hother : other = key
      · simp [hother, hkey]
      · simp [hother]

end Lookup

namespace Session

def after (session : Session) (steps : List Step) : Session :=
  steps.foldl (fun session step => (session.step step).1) session

@[simp]
theorem after_nil (session : Session) : session.after [] = session := rfl

@[simp]
theorem after_cons (session : Session) (step : Step) (steps : List Step) :
    session.after (step :: steps) = (session.step step).1.after steps := rfl

/-- What a step does to a declaration that was made before it. Declaring a name
anew drops the declaration that had it. -/
def act? (session : Session) : Step → Option (Act (List Char))
  | .declare name | .drop name => (session.declaration? name).map .drop
  | .define name rule _ =>
    match session.declaration? name, (rule.build session.scope).run session.store with
    | some number, .ok (built, _) => some (.define number built)
    | _, _ => none
  | .bindRule _ _ | .isDefined _ | .describeDeclaration _ | .describeRule _
  | .parse _ _ | .parseDeclaration _ _ => none

/-- The acts of some steps, each in the session that the earlier ones left. -/
def acts : Session → List Step → List (Act (List Char))
  | _, [] => []
  | session, step :: steps =>
    (session.act? step).toList ++ (session.step step).1.acts steps

/-- All references are to declarations that were made. -/
structure Sound (session : Session) : Prop where
  store : session.store.Closed
  scope : session.scope.Below session.store.nextDeclaration

/-- All that a step can do, with its act on the declarations made before. -/
inductive Moves (session : Session) : Option (Act (List Char)) → Session → Prop
  | grown {larger : TextStore} (hgrows : session.store.Grows larger) :
    Moves session none { session with store := larger }
  | bound {larger : TextStore} {built : Rule (List Char)} (name : String)
    (hgrows : session.store.Grows larger)
    (hbuilt : built.RefersBelow larger.nextDeclaration) :
    Moves session none ⟨larger, session.scope.bind name built⟩
  | offered {larger : TextStore} {built : Rule (List Char)} (number : Nat)
    (hgrows : session.store.Grows larger)
    (hbuilt : built.RefersBelow larger.nextDeclaration) :
    Moves session (some (.define number built))
      { session with store := larger.perform (.define number built) }
  | dropped (name : String) :
    Moves session ((session.declaration? name).map .drop) (session.drop name)
  | declared (name : String) :
    Moves session ((session.declaration? name).map .drop) (session.declare name)

section Steps

variable {session later : Session}

/-- A rule is refused, or it is built in a grown store. -/
theorem build_cases (hsession : session.Sound) (rule : WrittenRule) :
    (∃ cause, (rule.build session.scope).run session.store = .error cause) ∨
    ∃ built larger,
      (rule.build session.scope).run session.store = .ok (built, larger) ∧
      session.store.Grows larger ∧ built.RefersBelow larger.nextDeclaration := by
  cases hbuild : (rule.build session.scope).run session.store with
  | error cause => exact .inl ⟨cause, rfl⟩
  | ok outcome =>
    obtain ⟨built, larger⟩ := outcome
    exact .inr ⟨built, larger, rfl, rule.build_grows hsession.scope hbuild⟩

theorem building_of_error {rule : WrittenRule} {cause : BuildError}
    (h : (rule.build session.scope).run session.store = .error cause)
    (next : Session → Rule (List Char) → Session × Answer) :
    session.building rule next = (session, .notBuilt cause) := by
  rw [building, h]

theorem building_of_ok {rule : WrittenRule} {built : Rule (List Char)}
    {larger : TextStore}
    (h : (rule.build session.scope).run session.store = .ok (built, larger))
    (next : Session → Rule (List Char) → Session × Answer) :
    session.building rule next = next { session with store := larger } built := by
  rw [building, h]

theorem naming_of_none {name : String} (h : session.declaration? name = none)
    (next : Nat → Session × Answer) :
    session.naming name next = (session, .unknownName) := by
  rw [naming, h]

theorem naming_of_some {name : String} {number : Nat}
    (h : session.declaration? name = some number)
    (next : Nat → Session × Answer) : session.naming name next = next number := by
  rw [naming, h]

/-- A definition is an act on the store, whether it is refused or not. -/
theorem defineAs_eq (session : Session) (number : Nat) (rule : Rule (List Char))
    (probe : Option (List Char)) :
    (session.defineAs number rule probe).1
      = { session with store := session.store.perform (.define number rule) } := by
  rw [defineAs, Store.perform, Store.tryDefine]
  cases session.store.define number rule with
  | ok store => rfl
  | error refused => rfl

theorem Moves.stay (session : Session) : session.Moves none session :=
  .grown (.refl session.store)

/-- Looking at a declaration changes nothing. -/
theorem Moves.naming {name : String} {next : Nat → Session × Answer}
    (hnext : ∀ number, (next number).1 = session) :
    session.Moves none (session.naming name next).1 := by
  cases hname : session.declaration? name with
  | none =>
    rw [naming_of_none hname]
    exact .stay session
  | some number =>
    rw [naming_of_some hname, hnext]
    exact .stay session

/-- Looking at a rule leaves what was declared to build it. -/
theorem Moves.building (hsession : session.Sound) {rule : WrittenRule}
    {next : Session → Rule (List Char) → Session × Answer}
    (hnext : ∀ session rule, (next session rule).1 = session) :
    session.Moves none (session.building rule next).1 := by
  rcases build_cases hsession rule with
    ⟨cause, hbuild⟩ | ⟨built, larger, hbuild, hgrows, -⟩
  · rw [building_of_error hbuild]
    exact .stay session
  · rw [building_of_ok hbuild, hnext]
    exact .grown hgrows

theorem step_drop (session : Session) (name : String) :
    (session.step (.drop name)).1 = session.drop name := by
  rw [step, naming, drop]
  cases session.declaration? name with
  | none => rfl
  | some number => rfl

/-- The step lemma: nothing else can happen. -/
theorem moves_step (hsession : session.Sound) (step : Step) :
    session.Moves (session.act? step) (session.step step).1 := by
  cases step with
  | declare name => exact .declared name
  | bindRule name rule =>
    rw [step, act?]
    rcases build_cases hsession rule with
      ⟨cause, hbuild⟩ | ⟨built, larger, hbuild, hgrows, hbuilt⟩
    · rw [building_of_error hbuild]
      exact .stay session
    · rw [building_of_ok hbuild]
      exact .bound name hgrows hbuilt
  | define name rule probe =>
    rw [step, act?]
    cases hname : session.declaration? name with
    | none =>
      rw [naming_of_none hname]
      exact .stay session
    | some number =>
      rw [naming_of_some hname]
      rcases build_cases hsession rule with
        ⟨cause, hbuild⟩ | ⟨built, larger, hbuild, hgrows, hbuilt⟩
      · rw [building_of_error hbuild, hbuild]
        exact .stay session
      · rw [building_of_ok hbuild, hbuild, defineAs_eq]
        exact .offered number hgrows hbuilt
  | drop name =>
    rw [step_drop]
    exact .dropped name
  | isDefined name => exact .naming fun _ => rfl
  | describeDeclaration name => exact .naming fun _ => rfl
  | parseDeclaration name state => exact .naming fun _ => rfl
  | describeRule rule => exact .building hsession fun _ _ => rfl
  | parse rule state => exact .building hsession fun _ _ => rfl

end Steps

section Moves

variable {session later : Session} {act : Option (Act (List Char))}

theorem declaration?_drop (session : Session) (name other : String) :
    (session.drop name).declaration? other
      = if other = name then none else session.declaration? other := by
  rw [drop]
  cases hname : session.declaration? name with
  | none =>
    by_cases hother : other = name
    · simp [hother, hname]
    · simp [hother]
  | some number => exact lookup_filter_bne session.scope.declared name other

theorem store_drop (session : Session) (name : String) :
    (session.drop name).store
      = session.store.after ((session.declaration? name).map Act.drop).toList := by
  rw [drop]
  cases session.declaration? name with
  | none => rfl
  | some number => rfl

theorem nextDeclaration_store_drop (session : Session) (name : String) :
    (session.drop name).store.nextDeclaration = session.store.nextDeclaration := by
  rw [drop]
  cases session.declaration? name with
  | none => rfl
  | some number => exact session.store.nextDeclaration_drop number

theorem declaration?_declare (session : Session) (name other : String) :
    (session.declare name).declaration? other
      = if other = name then some session.store.nextDeclaration
        else session.declaration? other := by
  have hlookup : (session.declare name).declaration? other
      = if other = name then some (session.drop name).store.nextDeclaration
        else (session.drop name).declaration? other :=
    lookup_cons_ite _ name other _
  rw [hlookup, nextDeclaration_store_drop, declaration?_drop]
  by_cases hother : other = name
  · simp [hother]
  · simp [hother]

theorem scope_bound_drop (session : Session) (name : String) :
    (session.drop name).scope.bound = session.scope.bound := by
  rw [drop]
  cases session.declaration? name with
  | none => rfl
  | some number => rfl

theorem Sound.drop (hsession : session.Sound) (name : String) :
    (session.drop name).Sound := by
  constructor
  · rw [store_drop]
    cases session.declaration? name with
    | none => exact hsession.store
    | some number =>
      refine hsession.store.perform (.drop number) ?_
      intro other rule hoffer
      cases hoffer
  · rw [nextDeclaration_store_drop]
    constructor
    · intro other number hother
      have hbefore := (declaration?_drop session name other).symm.trans hother
      by_cases hsame : other = name
      · rw [if_pos hsame] at hbefore
        cases hbefore
      · rw [if_neg hsame] at hbefore
        exact hsession.scope.declared other number hbefore
    · rw [scope_bound_drop]
      exact hsession.scope.bound

theorem Sound.declare (hsession : session.Sound) (name : String) :
    (session.declare name).Sound := by
  have hdropped := hsession.drop name
  have hnext : (session.declare name).store.nextDeclaration
      = session.store.nextDeclaration + 1 := by
    rw [← nextDeclaration_store_drop session name]
    exact Store.nextDeclaration_declare _
  constructor
  · refine hdropped.store.perform .declare ?_
    intro number rule hoffer
    cases hoffer
  · rw [hnext]
    constructor
    · intro other number hother
      have hbefore := (declaration?_declare session name other).symm.trans hother
      by_cases hsame : other = name
      · rw [if_pos hsame] at hbefore
        cases hbefore
        exact Nat.lt_succ_self _
      · rw [if_neg hsame] at hbefore
        exact Nat.lt_succ_of_lt (hsession.scope.declared other number hbefore)
    · intro named hnamed
      have hbound := hdropped.scope.bound named hnamed
      rw [nextDeclaration_store_drop] at hbound
      exact hbound.mono (Nat.le_succ _)

theorem Moves.sound (hmoves : session.Moves act later)
    (hsession : session.Sound) : later.Sound := by
  cases hmoves with
  | grown hgrows =>
    exact ⟨hgrows.closed hsession.store,
      hsession.scope.mono hgrows.nextDeclaration_le⟩
  | bound name hgrows hbuilt =>
    exact ⟨hgrows.closed hsession.store,
      (hsession.scope.mono hgrows.nextDeclaration_le).bind hbuilt name⟩
  | @offered larger built number hgrows hbuilt =>
    have hnext := hgrows.nextDeclaration_le.trans
      (larger.nextDeclaration_perform_le (.define number built))
    refine ⟨(hgrows.closed hsession.store).perform _ ?_, hsession.scope.mono hnext⟩
    intro other rule hoffer
    by_cases hother : number = other
    · rw [Act.offer?, if_pos hother] at hoffer
      cases hoffer
      exact hbuilt
    · rw [Act.offer?, if_neg hother] at hoffer
      cases hoffer
  | dropped name => exact hsession.drop name
  | declared name => exact hsession.declare name

theorem Moves.nextDeclaration_le (hmoves : session.Moves act later) :
    session.store.nextDeclaration ≤ later.store.nextDeclaration := by
  cases hmoves with
  | grown hgrows => exact hgrows.nextDeclaration_le
  | bound name hgrows hbuilt => exact hgrows.nextDeclaration_le
  | offered number hgrows hbuilt =>
    exact hgrows.nextDeclaration_le.trans (Store.nextDeclaration_perform_le _ _)
  | dropped name => exact (nextDeclaration_store_drop session name).ge
  | declared name =>
    have hdeclare : (session.declare name).store
      = (session.drop name).store.declare := rfl
    rw [hdeclare, Store.nextDeclaration_declare, nextDeclaration_store_drop]
    exact Nat.le_succ _

/-- Declarations that were there before are as the act leaves them. -/
theorem Moves.getElem?_eq (hmoves : session.Moves act later) {number : Nat}
    (hnumber : number < session.store.nextDeclaration) :
    later.store.declarations[number]?
      = session.store.declarations[number]?.map fun life =>
          act.toList.foldl (Declaration.meet number) life := by
  rw [← Store.getElem?_after hnumber]
  cases hmoves with
  | grown hgrows => exact hgrows.getElem?_eq hnumber
  | bound name hgrows hbuilt => exact hgrows.getElem?_eq hnumber
  | offered offeredTo hgrows hbuilt =>
    have hlarger := Nat.lt_of_lt_of_le hnumber hgrows.nextDeclaration_le
    rw [Store.getElem?_perform hlarger, hgrows.getElem?_eq hnumber]
    exact (Store.getElem?_perform hnumber _).symm
  | dropped name => rw [store_drop]
  | declared name =>
    have hkept : number < (session.drop name).store.nextDeclaration := by
      rwa [nextDeclaration_store_drop]
    rw [← store_drop]
    exact List.getElem?_append_left hkept

/-- A name keeps its declaration until that is dropped. -/
theorem Moves.declaration?_eq (hmoves : session.Moves act later) {name : String}
    {number : Nat} (hname : session.declaration? name = some number)
    (hkept : act.toList.any (Act.drops number) = false) :
    later.declaration? name = some number := by
  -- a move that drops the declaration of another name leaves this one
  have hdiffer {other : String}
      (hother : act = (session.declaration? other).map Act.drop) :
      name ≠ other := by
    rintro rfl
    rw [hother, hname] at hkept
    simp [Act.drops] at hkept
  cases hmoves with
  | grown hgrows => exact hname
  | bound name hgrows hbuilt => exact hname
  | offered number hgrows hbuilt => exact hname
  | dropped other => rw [declaration?_drop, if_neg (hdiffer rfl), hname]
  | declared other => rw [declaration?_declare, if_neg (hdiffer rfl), hname]

end Moves

section Runs

variable {session : Session}

theorem sound_initial : initial.Sound := by
  constructor
  · intro number rule hrule
    cases hrule
  · constructor
    · intro name number hname
      cases hname
    · intro named hnamed
      cases hnamed

theorem Sound.after (hsession : session.Sound) (steps : List Step) :
    (session.after steps).Sound := by
  induction steps generalizing session with
  | nil => exact hsession
  | cons step steps ih => exact ih ((moves_step hsession step).sound hsession)

/-- The run lemma: a declaration goes through the acts of the steps. -/
theorem getElem?_after (hsession : session.Sound) {number : Nat}
    (hnumber : number < session.store.nextDeclaration) (steps : List Step) :
    (session.after steps).store.declarations[number]?
      = session.store.declarations[number]?.map fun life =>
          (session.acts steps).foldl (Declaration.meet number) life := by
  induction steps generalizing session with
  | nil => simp [acts]
  | cons step steps ih =>
    have hmoves := moves_step hsession step
    have hlater := Nat.lt_of_lt_of_le hnumber hmoves.nextDeclaration_le
    rw [after_cons, ih (hmoves.sound hsession) hlater, hmoves.getElem?_eq hnumber,
      Option.map_map, acts]
    simp only [List.foldl_append]
    rfl

theorem declaration?_after (hsession : session.Sound) {name : String}
    {number : Nat} (hname : session.declaration? name = some number)
    {steps : List Step}
    (hkept : (session.acts steps).any (Act.drops number) = false) :
    (session.after steps).declaration? name = some number := by
  induction steps generalizing session with
  | nil => exact hname
  | cons step steps ih =>
    rw [acts, List.any_append, Bool.or_eq_false_iff] at hkept
    have hmoves := moves_step hsession step
    exact ih (hmoves.sound hsession) (hmoves.declaration?_eq hname hkept.1) hkept.2

/-- A declaration that a step made, from the acts of the steps after it. -/
theorem getElem?_declare_after (hsession : session.Sound) (name : String)
    (steps : List Step) :
    let made := session.declare name
    let number := session.store.nextDeclaration
    (made.after steps).store.declarations[number]?
      = some ((made.acts steps).foldl (Declaration.meet number) .undefined) := by
  intro made number
  have hmade : made.store = (session.drop name).store.declare := rfl
  have hnext := nextDeclaration_store_drop session name
  have hundefined : made.store.declarations[number]? = some .undefined := by
    have hlast := (session.drop name).store.getElem?_declare
    rwa [hnext] at hlast
  have hnumber : number < made.store.nextDeclaration := by
    rw [hmade, Store.nextDeclaration_declare, hnext]
    exact Nat.lt_succ_self number
  rw [getElem?_after (hsession.declare name) hnumber, hundefined, Option.map_some]

theorem rule?_declare_after (hsession : session.Sound) (name : String)
    (steps : List Step) :
    ((session.declare name).after steps).store.rule? session.store.nextDeclaration
      = Act.rule? session.store.nextDeclaration
          ((session.declare name).acts steps) := by
  rw [Store.rule?_eq, getElem?_declare_after hsession, Option.bind_some,
    Declaration.rule?_foldl_meet_undefined]

end Runs

end Session

end TreeCodec
