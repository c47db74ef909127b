import Mathlib.Data.Finset.Prod
import Mathlib.Order.Monotone.Basic
import TreeCodec.Proofs.Rule.Consumption
import TreeCodec.Proofs.Rule.Frame

/-!
The bound of `Rule.parse` is enough. What a reference makes of a state depends
on the declaration and on the text that is left, and every text met on the way
is an end of the first one. So there are as many different lookups as pairs of
a declaration and a place in the text. Raising the bound by one either lets a
further lookup come to its end or changes nothing from then on, and there are
no more raises of the first kind than pairs.

Hence `parse` gives whatever outcome some bound gives, and a run that it leaves
unfinished never ends. It satisfies the equation in which a reference is looked
up and parsed with no bound in sight.
-/

namespace TreeCodec

variable {α : Type}

namespace Rule

/-- All references are to the first so many declarations. -/
def RefersBelow (count : Nat) : Rule α → Prop
  | literal _ | pattern _ | epsilon | never => True
  | andThen first second | orElse first second =>
    first.RefersBelow count ∧ second.RefersBelow count
  | map rule _ | tryMap rule _ | discard rule => rule.RefersBelow count
  | reference declaration => declaration < count

end Rule

/-- The rules of a store refer to declarations that were made. -/
def Store.Closed (store : Store α) : Prop :=
  ∀ declaration rule, store.rule? declaration = some rule →
    rule.RefersBelow store.nextDeclaration

namespace Rule

/-- A run looks up the declarations its rule refers to, at ends of its text. -/
theorem applyWith_congr {resolve other : Nat → State α → Outcome α}
    {count : Nat} {text : List Char}
    (hadvances : ∀ declaration, Advances (resolve declaration))
    (hsame : ∀ declaration < count, ∀ s, s.rest <:+ text →
      resolve declaration s = other declaration s)
    {rule : Rule α} (hrule : rule.RefersBelow count) {s : State α}
    (hs : s.rest <:+ text) :
    rule.applyWith resolve s = rule.applyWith other s := by
  induction rule generalizing s with
  | literal | pattern | epsilon | never => rfl
  | andThen first second ihFirst ihSecond =>
    simp only [applyWith]
    rw [← ihFirst hrule.1 hs]
    cases hfirst : first.applyWith resolve s with
    | unfinished => rfl
    | failed => rfl
    | parsed middle =>
      have hmiddle := applyWith_advances hadvances first s middle hfirst
      exact ihSecond hrule.2 (hmiddle.trans hs)
  | orElse first second ihFirst ihSecond =>
    simp only [applyWith]
    rw [ihFirst hrule.1 (s := .start s.rest) hs,
      ihSecond hrule.2 (s := .start s.rest) hs]
  | map rule reduce ih =>
    simp only [applyWith]
    rw [ih hrule (s := .start s.rest) hs]
  | tryMap rule reduce ih =>
    simp only [applyWith]
    rw [ih hrule (s := .start s.rest) hs]
  | discard rule ih =>
    simp only [applyWith]
    rw [ih hrule (s := .start s.rest) hs]
  | reference declaration => exact hsame declaration hrule s hs

/-- A lookup under a bound that has been raised by one. -/
theorem applyWithin_reference_succ (store : Store α) (depth declaration : Nat)
    (s : State α) :
    (reference declaration).applyWithin store (depth + 1) s
      = (store.rule? declaration).elim .failed fun rule =>
          rule.applyWithin store depth s := by
  rw [applyWithin, applyWith]
  cases store.rule? declaration with
  | none => rfl
  | some rule => rfl

/-- Raising the bound by one changes no lookup at an end of the text. -/
def Settled (store : Store α) (text : List Char) (depth : Nat) : Prop :=
  ∀ declaration < store.nextDeclaration, ∀ s : State α, s.rest <:+ text →
    (reference declaration).applyWithin store depth s
      = (reference declaration).applyWithin store (depth + 1) s

section Settled

variable {store : Store α} {text : List Char} {depth : Nat}

theorem applyWithin_eq_of_settled (hsettled : Settled store text depth)
    {rule : Rule α} (hrule : rule.RefersBelow store.nextDeclaration)
    {s : State α} (hs : s.rest <:+ text) :
    rule.applyWithin store depth s = rule.applyWithin store (depth + 1) s := by
  rw [applyWithin_eq_applyWith, applyWithin_eq_applyWith store (depth + 1)]
  refine applyWith_congr ?_ hsettled hrule hs
  intro declaration
  exact applyWithin_advances store depth (reference declaration)

theorem Settled.succ (hstore : store.Closed)
    (hsettled : Settled store text depth) :
    Settled store text (depth + 1) := by
  intro declaration _ s hs
  rw [applyWithin_reference_succ, applyWithin_reference_succ]
  cases hrule : store.rule? declaration with
  | none => rfl
  | some rule =>
    exact applyWithin_eq_of_settled hsettled (hstore declaration rule hrule) hs

theorem applyWithin_eq_of_settled_of_le (hstore : store.Closed)
    (hsettled : Settled store text depth) {deeper : Nat}
    (hdeeper : depth ≤ deeper) {rule : Rule α}
    (hrule : rule.RefersBelow store.nextDeclaration)
    {s : State α} (hs : s.rest <:+ text) :
    rule.applyWithin store deeper s = rule.applyWithin store depth s := by
  have hall : Settled store text deeper ∧
      rule.applyWithin store deeper s = rule.applyWithin store depth s := by
    induction deeper, hdeeper using Nat.le_induction with
    | base => exact ⟨hsettled, rfl⟩
    | succ deeper _ ih =>
      obtain ⟨hdeeper, hsame⟩ := ih
      refine ⟨hdeeper.succ hstore, ?_⟩
      rw [← hsame]
      exact (applyWithin_eq_of_settled hdeeper hrule hs).symm
  exact hall.2

end Settled

end Rule

def Outcome.hasEnded : Outcome α → Bool
  | unfinished => false
  | failed | parsed _ => true

theorem Outcome.eq_unfinished_of_hasEnded {o : Outcome α}
    (h : o.hasEnded = false) : o = .unfinished := by
  cases o with
  | unfinished => rfl
  | failed => cases h
  | parsed s => cases h

namespace Rule

/-- The lookups that come to an end under a bound, each a declaration and a
number of characters to pass over. -/
def endedLookups (store : Store α) (text : List Char) (depth : Nat) :
    Finset (Nat × Nat) :=
  (Finset.range store.nextDeclaration ×ˢ Finset.range (text.length + 1)).filter
    fun lookup =>
      ((reference lookup.1).applyWithin store depth
        (.start (text.drop lookup.2))).hasEnded

section Lookups

variable (store : Store α) (text : List Char)

theorem mem_endedLookups {depth : Nat} {lookup : Nat × Nat} :
    lookup ∈ endedLookups store text depth ↔
      (lookup.1 < store.nextDeclaration ∧ lookup.2 < text.length + 1) ∧
        ((reference lookup.1).applyWithin store depth
          (.start (text.drop lookup.2))).hasEnded = true := by
  rw [endedLookups, Finset.mem_filter, Finset.mem_product, Finset.mem_range,
    Finset.mem_range]

theorem card_endedLookups_le (depth : Nat) :
    (endedLookups store text depth).card
      ≤ store.nextDeclaration * (text.length + 1) := by
  calc (endedLookups store text depth).card
      ≤ (Finset.range store.nextDeclaration
          ×ˢ Finset.range (text.length + 1)).card :=
        Finset.card_filter_le _ _
    _ = store.nextDeclaration * (text.length + 1) := by
        rw [Finset.card_product, Finset.card_range, Finset.card_range]

theorem endedLookups_subset (depth : Nat) :
    endedLookups store text depth ⊆ endedLookups store text (depth + 1) := by
  intro lookup hlookup
  obtain ⟨hinside, hended⟩ := (mem_endedLookups store text).mp hlookup
  refine (mem_endedLookups store text).mpr ⟨hinside, ?_⟩
  rcases applyWithin_approximates store (Nat.le_succ depth)
    (reference lookup.1) (.start (text.drop lookup.2)) with hsame | hsame
  · rw [hsame] at hended
    cases hended
  · rwa [hsame] at hended

variable {store text} {depth : Nat}

/-- If no further lookup comes to its end, none changes: one that had ended
stays as it was, on the text alone and hence on every state. -/
theorem settled_of_card_eq
    (hcard : (endedLookups store text depth).card
      = (endedLookups store text (depth + 1)).card) :
    Settled store text depth := by
  have hlookups : endedLookups store text depth
      = endedLookups store text (depth + 1) :=
    Finset.eq_of_subset_of_card_le (endedLookups_subset store text depth) hcard.ge
  intro declaration hdeclaration s hs
  have hstart : (reference declaration).applyWithin store depth (.start s.rest)
      = (reference declaration).applyWithin store (depth + 1) (.start s.rest) := by
    rcases applyWithin_approximates store (Nat.le_succ depth)
      (reference declaration) (.start s.rest) with hunfinished | hsame
    · have hplace : text.drop (text.length - s.rest.length) = s.rest :=
        (List.suffix_iff_eq_drop.mp hs).symm
      have hended : ((reference declaration).applyWithin store depth
            (.start s.rest)).hasEnded
          = ((reference declaration).applyWithin store (depth + 1)
            (.start s.rest)).hasEnded := by
        have hiff := Finset.ext_iff.mp hlookups
          (declaration, text.length - s.rest.length)
        have hpassed : text.length - s.rest.length < text.length + 1 := by omega
        simpa only [mem_endedLookups, hdeclaration, hpassed, hplace, true_and,
          Bool.coe_iff_coe] using hiff
      rw [hunfinished] at hended ⊢
      exact (Outcome.eq_unfinished_of_hasEnded hended.symm).symm
    · exact hsame
  rw [(applyWithin_frames store depth (reference declaration)).eq_map_start s,
    hstart]
  exact ((applyWithin_frames store (depth + 1)
    (reference declaration)).eq_map_start s).symm

theorem card_eq_of_settled (hsettled : Settled store text depth) :
    (endedLookups store text depth).card
      = (endedLookups store text (depth + 1)).card := by
  refine congrArg Finset.card (Finset.filter_congr ?_)
  intro lookup hlookup
  have hdeclaration := Finset.mem_range.mp (Finset.mem_product.mp hlookup).1
  rw [hsettled lookup.1 hdeclaration (.start (text.drop lookup.2))
    (List.drop_suffix lookup.2 text)]

/-- The bound is reached after as many raises as there are lookups. -/
theorem settled_bound (hstore : store.Closed) (text : List Char) :
    Settled store text (store.nextDeclaration * (text.length + 1)) := by
  have hmono : Monotone fun depth => (endedLookups store text depth).card :=
    monotone_nat_of_le_succ fun depth =>
      Finset.card_le_card (endedLookups_subset store text depth)
  have hstable (depth : Nat)
      (hcard : (endedLookups store text depth).card
        = (endedLookups store text (depth + 1)).card) :
      (endedLookups store text (depth + 1)).card
        = (endedLookups store text (depth + 1 + 1)).card :=
    card_eq_of_settled ((settled_of_card_eq hcard).succ hstore)
  exact settled_of_card_eq
    (Nat.stabilises_of_monotone hmono (card_endedLookups_le store text) hstable
      (Nat.le_succ _)).symm

end Lookups

section Closed

variable {store : Store α} {rule : Rule α}

/-- More than the bound of `parse` changes nothing. -/
theorem applyWithin_eq_parse (hstore : store.Closed)
    (hrule : rule.RefersBelow store.nextDeclaration) {s : State α} {depth : Nat}
    (hdepth : store.nextDeclaration * (s.rest.length + 1) ≤ depth) :
    rule.applyWithin store depth s = rule.parse store s :=
  applyWithin_eq_of_settled_of_le hstore (settled_bound hstore s.rest) hdepth
    hrule (List.suffix_refl s.rest)

/-- A run that ends under some bound ends in the same way for `parse`. -/
theorem parse_eq_of_applyWithin (hstore : store.Closed)
    (hrule : rule.RefersBelow store.nextDeclaration) {s : State α} {depth : Nat}
    {o : Outcome α} (h : rule.applyWithin store depth s = o)
    (hended : o ≠ .unfinished) : rule.parse store s = o := by
  have hlonger := applyWithin_approximates store
    (Nat.le_max_left depth (store.nextDeclaration * (s.rest.length + 1))) rule s
  rw [h, applyWithin_eq_parse hstore hrule (Nat.le_max_right _ _)] at hlonger
  rcases hlonger with hunfinished | hsame
  · exact absurd hunfinished hended
  · exact hsame.symm

/-- `parse` takes a rule apart and parses what its references stand for, as if
there were no bound. -/
theorem parse_eq_applyWith (hstore : store.Closed)
    (hrule : rule.RefersBelow store.nextDeclaration) (s : State α) :
    rule.parse store s
      = rule.applyWith
          (fun declaration s =>
            (store.rule? declaration).elim .failed fun rule => rule.parse store s)
          s := by
  rw [← applyWithin_eq_parse hstore hrule (Nat.le_succ _), applyWithin_eq_applyWith]
  refine applyWith_congr ?_ ?_ hrule (List.suffix_refl s.rest)
  · intro declaration
    exact applyWithin_advances store (_ + 1) (reference declaration)
  · intro declaration _ middle hmiddle
    rw [applyWithin_reference_succ]
    cases hdeclared : store.rule? declaration with
    | none => rfl
    | some definition =>
      apply applyWithin_eq_parse hstore (hstore declaration definition hdeclared)
      have hlength := hmiddle.length_le
      exact Nat.mul_le_mul_left _ (by omega)

/-- A reference to a declaration that was made is parsed as its rule is. -/
theorem parse_reference (hstore : store.Closed) {declaration : Nat}
    (hdeclaration : declaration < store.nextDeclaration) (s : State α) :
    (reference declaration).parse store s
      = (store.rule? declaration).elim .failed fun rule => rule.parse store s := by
  have hrule : (reference declaration : Rule α).RefersBelow
      store.nextDeclaration := hdeclaration
  exact parse_eq_applyWith hstore hrule s

/-- The references in a rule are parsed as they are on their own, wherever in
the rule they stand. -/
theorem parse_eq_applyWith_reference (hstore : store.Closed)
    (hrule : rule.RefersBelow store.nextDeclaration) (s : State α) :
    rule.parse store s
      = rule.applyWith
          (fun declaration s => (reference declaration).parse store s) s := by
  rw [parse_eq_applyWith hstore hrule s]
  refine applyWith_congr ?_ ?_ hrule (List.suffix_refl s.rest)
  · intro declaration s s' h
    cases hdeclared : store.rule? declaration with
    | none =>
      rw [hdeclared] at h
      cases h
    | some definition =>
      rw [hdeclared] at h
      exact applyWithin_advances store _ definition s s' h
  · intro declaration hdeclaration s _
    exact (parse_reference hstore hdeclaration s).symm

end Closed

end Rule

end TreeCodec
