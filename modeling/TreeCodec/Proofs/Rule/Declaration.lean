import TreeCodec.Proofs.Rule.Run

/-!
The life of a declaration, under whatever is done to the store. Only what is
done to the declaration itself matters: the first rule that it is given stays
its rule, and from when it is dropped it has none. The rule is not looked up
when a reference is made but each time the reference is run, so at any time
all references to a declaration run the rule that it has then.
-/

namespace TreeCodec

variable {α : Type}

/-- What can be done to a store. Making references and rules from them, and
running rules, leave it as it is. -/
inductive Act (α : Type) where
  | declare
  /-- Offers a rule to a declaration, which may refuse it. -/
  | define (declaration : Nat) (rule : Rule α)
  | drop (declaration : Nat)

namespace Act

def drops (number : Nat) : Act α → Bool
  | drop declaration => declaration == number
  | _ => false

/-- The rule that is offered to a declaration. -/
def offer? (number : Nat) : Act α → Option (Rule α)
  | define declaration rule => if declaration = number then some rule else none
  | _ => none

/-- The rule that a declaration has after some acts, if it had none before: the
first that was offered, unless one of the acts was to drop it. -/
def rule? (number : Nat) (acts : List (Act α)) : Option (Rule α) :=
  if acts.any (drops number) then none else acts.findSome? (offer? number)

end Act

namespace Store

def perform (store : Store α) : Act α → Store α
  | .declare => store.declare
  | .define declaration rule => store.tryDefine declaration rule
  | .drop declaration => store.drop declaration

def after (store : Store α) (acts : List (Act α)) : Store α :=
  acts.foldl perform store

@[simp]
theorem after_nil (store : Store α) : store.after [] = store := rfl

@[simp]
theorem after_cons (store : Store α) (act : Act α) (acts : List (Act α)) :
    store.after (act :: acts) = (store.perform act).after acts := rfl

/-- A rule made from a reference to itself is declared and then defined. -/
theorem recursive_eq_after (store : Store α) (build : Rule α → Rule α) :
    store.recursive build
      = store.declare.after
          [.define store.nextDeclaration
            (build (.reference store.nextDeclaration))] := by
  simp [perform, tryDefine, define, declare, recursive, nextDeclaration]

end Store

namespace Declaration

def rule? : Declaration α → Option (Rule α)
  | defined rule => some rule
  | undefined | dropped => none

/-- What an act makes of the declaration of a number. -/
def meet (number : Nat) (life : Declaration α) : Act α → Declaration α
  | .declare => life
  | .define declaration rule =>
    match life with
    | undefined => if declaration = number then defined rule else undefined
    | other => other
  | .drop declaration => if declaration = number then dropped else life

theorem rule?_meet_eq_some {number : Nat} {life : Declaration α} {act : Act α}
    {rule : Rule α} (h : (life.meet number act).rule? = some rule) :
    life.rule? = some rule ∨ act.offer? number = some rule := by
  cases act with
  | declare => exact .inl h
  | define declaration other =>
    cases life with
    | undefined =>
      rw [meet] at h
      by_cases hnumber : declaration = number
      · rw [if_pos hnumber] at h
        exact .inr ((if_pos hnumber).trans h)
      · rw [if_neg hnumber] at h
        exact .inl h
    | defined first => exact .inl h
    | dropped => exact .inl h
  | drop declaration =>
    rw [meet] at h
    by_cases hnumber : declaration = number
    · rw [if_pos hnumber] at h
      cases h
    · rw [if_neg hnumber] at h
      exact .inl h

theorem foldl_meet_dropped (number : Nat) (acts : List (Act α)) :
    acts.foldl (meet number) dropped = dropped := by
  induction acts with
  | nil => rfl
  | cons act acts ih =>
    rw [List.foldl_cons]
    cases act with
    | declare => exact ih
    | define declaration rule => exact ih
    | drop declaration =>
      simp only [meet, ite_self]
      exact ih

theorem foldl_meet_defined (number : Nat) (rule : Rule α) (acts : List (Act α)) :
    acts.foldl (meet number) (defined rule)
      = if acts.any (Act.drops number) then dropped else defined rule := by
  induction acts with
  | nil => rfl
  | cons act acts ih =>
    rw [List.foldl_cons, List.any_cons]
    cases act with
    | declare => exact ih
    | define declaration other => exact ih
    | drop declaration =>
      by_cases hnumber : declaration = number
      · simp [meet, Act.drops, hnumber, foldl_meet_dropped]
      · simp [meet, Act.drops, hnumber, ih]

/-- The first rule offered is taken, and no later one replaces it. -/
theorem foldl_meet_undefined (number : Nat) (acts : List (Act α)) :
    acts.foldl (meet number) undefined
      = if acts.any (Act.drops number) then dropped
        else match acts.findSome? (Act.offer? number) with
          | some rule => defined rule
          | none => undefined := by
  induction acts with
  | nil => rfl
  | cons act acts ih =>
    rw [List.foldl_cons, List.any_cons, List.findSome?_cons]
    cases act with
    | declare => exact ih
    | define declaration rule =>
      by_cases hnumber : declaration = number
      · simp [meet, Act.drops, Act.offer?, hnumber, foldl_meet_defined]
      · simpa [meet, Act.drops, Act.offer?, hnumber] using ih
    | drop declaration =>
      by_cases hnumber : declaration = number
      · simp [meet, Act.drops, hnumber, foldl_meet_dropped]
      · simpa [meet, Act.drops, Act.offer?, hnumber] using ih

theorem rule?_foldl_meet_undefined (number : Nat) (acts : List (Act α)) :
    (acts.foldl (meet number) undefined).rule? = Act.rule? number acts := by
  rw [foldl_meet_undefined, Act.rule?]
  split
  · rfl
  · cases acts.findSome? (Act.offer? number) with
    | none => rfl
    | some rule => rfl

theorem foldl_meet_undefined_ne_dropped {number : Nat} {acts : List (Act α)}
    (hkept : acts.any (Act.drops number) = false) :
    acts.foldl (meet number) undefined ≠ dropped := by
  rw [foldl_meet_undefined, hkept]
  cases acts.findSome? (Act.offer? number) with
  | none =>
    intro h
    cases h
  | some rule =>
    intro h
    cases h

end Declaration

namespace Store

section Acts

variable {store : Store α} {number : Nat}

theorem rule?_eq (store : Store α) (number : Nat) :
    store.rule? number = store.declarations[number]?.bind Declaration.rule? := by
  rw [rule?]
  cases store.declarations[number]? with
  | none => rfl
  | some life => cases life <;> rfl

/-- A declaration that has its rule hands back every other. -/
theorem define_eq_error {first : Rule α} (hfirst : store.rule? number = some first)
    (rule : Rule α) : store.define number rule = .error rule := by
  rw [rule?] at hfirst
  rw [define]
  cases hlife : store.declarations[number]? with
  | none => rfl
  | some life =>
    cases life with
    | undefined =>
      rw [hlife] at hfirst
      cases hfirst
    | defined rule => rfl
    | dropped => rfl

@[simp]
theorem nextDeclaration_drop (store : Store α) (number : Nat) :
    (store.drop number).nextDeclaration = store.nextDeclaration := by
  simp [drop, nextDeclaration]

@[simp]
theorem nextDeclaration_declare (store : Store α) :
    store.declare.nextDeclaration = store.nextDeclaration + 1 := by
  simp [declare, nextDeclaration]

theorem getElem?_declare (store : Store α) :
    store.declare.declarations[store.nextDeclaration]? = some .undefined := by
  simp [declare, nextDeclaration]

theorem tryDefine_eq (store : Store α) (number : Nat) (rule : Rule α) :
    store.tryDefine number rule
      = match store.declarations[number]? with
        | some .undefined => ⟨store.declarations.set number (.defined rule)⟩
        | _ => store := by
  rw [tryDefine, define]
  cases store.declarations[number]? with
  | none => rfl
  | some life => cases life <;> rfl

@[simp]
theorem nextDeclaration_tryDefine (store : Store α) (number : Nat) (rule : Rule α) :
    (store.tryDefine number rule).nextDeclaration = store.nextDeclaration := by
  rw [tryDefine_eq]
  split
  · simp [nextDeclaration]
  · rfl

theorem nextDeclaration_perform_le (store : Store α) (act : Act α) :
    store.nextDeclaration ≤ (store.perform act).nextDeclaration := by
  cases act with
  | declare => simp [perform]
  | define declaration rule => simp [perform]
  | drop declaration => simp [perform]

theorem nextDeclaration_after_le (store : Store α) (acts : List (Act α)) :
    store.nextDeclaration ≤ (store.after acts).nextDeclaration := by
  induction acts generalizing store with
  | nil => exact Nat.le_refl _
  | cons act acts ih =>
    exact Nat.le_trans (store.nextDeclaration_perform_le act) (ih _)

/-- What one act makes of each declaration that was made before it. -/
theorem getElem?_perform (hnumber : number < store.nextDeclaration)
    (act : Act α) :
    (store.perform act).declarations[number]?
      = store.declarations[number]?.map fun life => life.meet number act := by
  obtain ⟨life, hlife⟩ : ∃ life, store.declarations[number]? = some life :=
    ⟨_, List.getElem?_eq_getElem hnumber⟩
  cases act with
  | declare =>
    rw [perform, declare, List.getElem?_append_left hnumber, hlife]
    rfl
  | define declaration rule =>
    rw [perform, tryDefine_eq]
    by_cases hsame : declaration = number
    · subst hsame
      cases life <;> simp [hlife, Declaration.meet, List.getElem?_set_self hnumber]
    · have hkept : life.meet number (.define declaration rule) = life := by
        cases life <;> simp [Declaration.meet, hsame]
      split
      · simp [List.getElem?_set_ne hsame, hlife, hkept]
      · simp [hlife, hkept]
  | drop declaration =>
    by_cases hsame : declaration = number
    · subst hsame
      simp [perform, drop, hlife, Declaration.meet, List.getElem?_set_self hnumber]
    · simp [perform, drop, hlife, Declaration.meet, List.getElem?_set_ne hsame, hsame]

theorem getElem?_after (hnumber : number < store.nextDeclaration)
    (acts : List (Act α)) :
    (store.after acts).declarations[number]?
      = store.declarations[number]?.map fun life =>
          acts.foldl (Declaration.meet number) life := by
  induction acts generalizing store with
  | nil => simp
  | cons act acts ih =>
    have hnext := Nat.lt_of_lt_of_le hnumber (store.nextDeclaration_perform_le act)
    rw [after_cons, ih hnext, getElem?_perform hnumber, Option.map_map]
    rfl

/-- A declaration that was made has the rule that the acts since then gave it. -/
theorem rule?_after_declare (store : Store α) (acts : List (Act α)) :
    (store.declare.after acts).rule? store.nextDeclaration
      = Act.rule? store.nextDeclaration acts := by
  rw [rule?_eq, getElem?_after (by simp), getElem?_declare, Option.map_some,
    Option.bind_some, Declaration.rule?_foldl_meet_undefined]

end Acts

end Store

end TreeCodec
