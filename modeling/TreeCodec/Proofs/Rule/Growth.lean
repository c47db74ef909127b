import TreeCodec.Proofs.Rule.Bound
import TreeCodec.Proofs.Rule.Declaration

/-!
Stores in which every reference is to a declaration that was made. They stay
so under every act that offers no other rules, and when declarations are added
together with their rules. A rule that was there before cannot tell the larger
store from the one it was made for.
-/

namespace TreeCodec

variable {α : Type}

namespace Rule

theorem RefersBelow.mono {rule : Rule α} {count larger : Nat}
    (hcount : count ≤ larger) (h : rule.RefersBelow count) :
    rule.RefersBelow larger := by
  induction rule with
  | literal | pattern | epsilon | never => trivial
  | andThen first second ihFirst ihSecond => exact ⟨ihFirst h.1, ihSecond h.2⟩
  | orElse first second ihFirst ihSecond => exact ⟨ihFirst h.1, ihSecond h.2⟩
  | map rule reduce ih => exact ih h
  | tryMap rule reduce ih => exact ih h
  | discard rule ih => exact ih h
  | reference declaration => exact Nat.lt_of_lt_of_le h hcount

theorem RefersBelow.foldl_andThen {count : Nat} {first : Rule α}
    {rules : List (Rule α)} (hfirst : first.RefersBelow count)
    (hrules : ∀ rule ∈ rules, rule.RefersBelow count) :
    (rules.foldl andThen first).RefersBelow count := by
  apply List.foldlRecOn rules andThen hfirst
  intro first hfirst rule hrule
  exact ⟨hfirst, hrules rule hrule⟩

theorem RefersBelow.foldl_orElse {count : Nat} {first : Rule α}
    {rules : List (Rule α)} (hfirst : first.RefersBelow count)
    (hrules : ∀ rule ∈ rules, rule.RefersBelow count) :
    (rules.foldl orElse first).RefersBelow count := by
  apply List.foldlRecOn rules orElse hfirst
  intro first hfirst rule hrule
  exact ⟨hfirst, hrules rule hrule⟩

end Rule

namespace Store

/-- A rule that a declaration has after an act was its rule before or has just
been offered to it. -/
theorem rule?_perform_eq_some {store : Store α} {act : Act α} {number : Nat}
    {rule : Rule α} (h : (store.perform act).rule? number = some rule) :
    store.rule? number = some rule ∨ act.offer? number = some rule := by
  have hlt : number < (store.perform act).nextDeclaration := by
    by_contra hbeyond
    rw [rule?, List.getElem?_eq_none (Nat.le_of_not_lt hbeyond)] at h
    cases h
  by_cases hnumber : number < store.nextDeclaration
  · rw [rule?_eq, getElem?_perform hnumber] at h
    rw [rule?_eq]
    obtain ⟨life, hlife⟩ : ∃ life, store.declarations[number]? = some life :=
      ⟨_, List.getElem?_eq_getElem hnumber⟩
    rw [hlife] at h ⊢
    exact Declaration.rule?_meet_eq_some h
  · cases act with
    | declare =>
      have hlast : number = store.nextDeclaration := by
        rw [perform, nextDeclaration_declare] at hlt
        omega
      rw [hlast, perform, rule?, getElem?_declare] at h
      cases h
    | define declaration other =>
      rw [perform, nextDeclaration_tryDefine] at hlt
      exact absurd hlt hnumber
    | drop declaration =>
      rw [perform, nextDeclaration_drop] at hlt
      exact absurd hlt hnumber

theorem Closed.perform {store : Store α} (hstore : store.Closed) (act : Act α)
    (hact : ∀ number rule, act.offer? number = some rule →
      rule.RefersBelow store.nextDeclaration) : (store.perform act).Closed := by
  intro number rule hrule
  have hle := store.nextDeclaration_perform_le act
  rcases rule?_perform_eq_some hrule with hbefore | hoffered
  · exact (hstore number rule hbefore).mono hle
  · exact (hact number rule hoffered).mono hle

/-- The larger store has further declarations, with rules that refer to
declarations that it has. -/
def Grows (store larger : Store α) : Prop :=
  ∃ rules : List (Rule α),
    larger.declarations = store.declarations ++ rules.map .defined ∧
    ∀ rule ∈ rules, rule.RefersBelow larger.nextDeclaration

namespace Grows

variable {store larger : Store α}

theorem refl (store : Store α) : store.Grows store := by
  refine ⟨[], by simp, ?_⟩
  intro rule hrule
  cases hrule

theorem nextDeclaration_le (h : store.Grows larger) :
    store.nextDeclaration ≤ larger.nextDeclaration := by
  obtain ⟨rules, hlarger, -⟩ := h
  simp [nextDeclaration, hlarger]

theorem trans {largest : Store α} (h : store.Grows larger)
    (hlargest : larger.Grows largest) : store.Grows largest := by
  have hle := hlargest.nextDeclaration_le
  obtain ⟨rules, hrules, hbelow⟩ := h
  obtain ⟨more, hmore, hmoreBelow⟩ := hlargest
  refine ⟨rules ++ more, by simp [hmore, hrules], ?_⟩
  intro rule hrule
  rcases List.mem_append.mp hrule with hrule | hrule
  · exact (hbelow rule hrule).mono hle
  · exact hmoreBelow rule hrule

theorem getElem?_eq (h : store.Grows larger) {number : Nat}
    (hnumber : number < store.nextDeclaration) :
    larger.declarations[number]? = store.declarations[number]? := by
  obtain ⟨rules, hlarger, -⟩ := h
  rw [hlarger, List.getElem?_append_left hnumber]

theorem rule?_eq (h : store.Grows larger) {number : Nat}
    (hnumber : number < store.nextDeclaration) :
    larger.rule? number = store.rule? number := by
  rw [rule?, rule?, h.getElem?_eq hnumber]

theorem closed (h : store.Grows larger) (hstore : store.Closed) :
    larger.Closed := by
  intro number rule hrule
  by_cases hnumber : number < store.nextDeclaration
  · rw [h.rule?_eq hnumber] at hrule
    exact (hstore number rule hrule).mono h.nextDeclaration_le
  · obtain ⟨rules, hlarger, hbelow⟩ := h
    apply hbelow
    rw [rule?, hlarger, List.getElem?_append_right (Nat.le_of_not_lt hnumber),
      List.getElem?_map] at hrule
    cases hadded : rules[number - store.declarations.length]? with
    | none =>
      rw [hadded] at hrule
      cases hrule
    | some added =>
      rw [hadded] at hrule
      cases hrule
      exact List.mem_of_getElem? hadded

/-- A rule that was there before is run as before, under any bound. -/
theorem applyWithin_eq (h : store.Grows larger) (hstore : store.Closed)
    (depth : Nat) {rule : Rule α} (hrule : rule.RefersBelow store.nextDeclaration)
    (s : State α) :
    rule.applyWithin larger depth s = rule.applyWithin store depth s := by
  induction depth generalizing rule s with
  | zero => rfl
  | succ depth ih =>
    rw [Rule.applyWithin_eq_applyWith larger,
      Rule.applyWithin_eq_applyWith store (depth + 1)]
    refine Rule.applyWith_congr ?_ ?_ hrule (List.suffix_refl s.rest)
    · intro number
      exact Rule.applyWithin_advances larger (depth + 1) (.reference number)
    · intro number hnumber s _
      rw [Rule.applyWithin_reference_succ, Rule.applyWithin_reference_succ,
        h.rule?_eq hnumber]
      cases hdefined : store.rule? number with
      | none => rfl
      | some rule => exact ih (hstore number rule hdefined) s

theorem parse_eq (h : store.Grows larger) (hstore : store.Closed)
    {rule : Rule α} (hrule : rule.RefersBelow store.nextDeclaration)
    (s : State α) : rule.parse larger s = rule.parse store s := by
  have hbound : store.nextDeclaration * (s.rest.length + 1)
      ≤ larger.nextDeclaration * (s.rest.length + 1) :=
    Nat.mul_le_mul_right _ h.nextDeclaration_le
  rw [Rule.parse, h.applyWithin_eq hstore _ hrule]
  exact Rule.applyWithin_eq_parse hstore hrule hbound

/-- The declaration of a recursive rule, which has its rule in the end. -/
theorem tryDefine (h : store.declare.Grows larger) {rule : Rule α}
    (hrule : rule.RefersBelow larger.nextDeclaration) :
    store.Grows (larger.tryDefine store.nextDeclaration rule) := by
  obtain ⟨rules, hlarger, hbelow⟩ := h
  have hmade : larger.declarations[store.nextDeclaration]? = some .undefined := by
    simp [hlarger, declare, nextDeclaration]
  refine ⟨rule :: rules, ?_, ?_⟩
  · rw [tryDefine_eq, hmade]
    simp [hlarger, declare, nextDeclaration]
  · rw [nextDeclaration_tryDefine]
    intro other hother
    rcases List.mem_cons.mp hother with rfl | hother
    · exact hrule
    · exact hbelow other hother

end Grows

end Store

end TreeCodec
