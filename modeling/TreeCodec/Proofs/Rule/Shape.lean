import Mathlib.Data.List.Forall2
import TreeCodec.Proofs.Rule.Bound

/-!
What the nodes have no say in. Two rules are of the same shape if they differ
only in the functions that reduce nodes to values and in where nodes are
discarded, and if neither of them can refuse a value. Such rules run side by
side: from the same text both fail, or both succeed and leave the same text, or
neither ends.

The nodes on the two sides need not have anything in common, not even the kind
of their values. The declarations of the two rules are matched by a relation,
so that the two families may stand in one store or in two, in any order.
-/

namespace TreeCodec

variable {α β : Type}

namespace Outcome

/-- Neither run ended, both failed, or both succeeded and left the same text. -/
inductive Agrees : Outcome α → Outcome β → Prop where
  | unfinished : Agrees .unfinished .unfinished
  | failed : Agrees .failed .failed
  | parsed {s : State α} {s' : State β} (hrest : s.rest = s'.rest) :
    Agrees (.parsed s) (.parsed s')

namespace Agrees

variable {o : Outcome α} {o' : Outcome β}

theorem symm (h : o.Agrees o') : o'.Agrees o := by
  cases h with
  | unfinished => exact .unfinished
  | failed => exact .failed
  | parsed hrest => exact .parsed hrest.symm

theorem bind {next : State α → Outcome α} {next' : State β → Outcome β}
    (h : o.Agrees o')
    (hnext : ∀ s s', s.rest = s'.rest → (next s).Agrees (next' s')) :
    (o.bind next).Agrees (o'.bind next') := by
  cases h with
  | unfinished => exact .unfinished
  | failed => exact .failed
  | parsed hrest => exact hnext _ _ hrest

theorem map {f : State α → State α} {f' : State β → State β} (h : o.Agrees o')
    (hf : ∀ s s', s.rest = s'.rest → (f s).rest = (f' s').rest) :
    (o.map f).Agrees (o'.map f') :=
  h.bind fun s s' hrest => .parsed (hf s s' hrest)

/-- What is done to the nodes of one side alone makes no difference. -/
theorem map_left {f : State α → State α} (h : o.Agrees o')
    (hf : ∀ s, (f s).rest = s.rest) : (o.map f).Agrees o' := by
  rw [← o'.bind_parsed]
  exact h.bind fun s s' hrest => .parsed ((hf s).trans hrest)

theorem orElse {other : Unit → Outcome α} {other' : Unit → Outcome β}
    (h : o.Agrees o') (hother : (other ()).Agrees (other' ())) :
    (o.orElse other).Agrees (o'.orElse other') := by
  cases h with
  | unfinished => exact .unfinished
  | failed => exact hother
  | parsed hrest => exact .parsed hrest

end Agrees

end Outcome

/-- From states with the same text left, whatever their nodes, the runs agree. -/
def Tracks (run : State α → Outcome α) (run' : State β → Outcome β) : Prop :=
  ∀ s s', s.rest = s'.rest → (run s).Agrees (run' s')

namespace Rule

/-- The rules differ only in reductions that always have a value, in where
nodes are discarded, and in which of two matching declarations they refer to. -/
inductive SameShape (same : Nat → Nat → Prop) : Rule α → Rule β → Prop where
  | literal (text : List Char) : SameShape same (.literal text) (.literal text)
  | pattern (p : Pattern) : SameShape same (.pattern p) (.pattern p)
  | epsilon : SameShape same .epsilon .epsilon
  | never : SameShape same .never .never
  | andThen {first second : Rule α} {first' second' : Rule β}
    (hfirst : SameShape same first first')
    (hsecond : SameShape same second second') :
    SameShape same (.andThen first second) (.andThen first' second')
  | orElse {first second : Rule α} {first' second' : Rule β}
    (hfirst : SameShape same first first')
    (hsecond : SameShape same second second') :
    SameShape same (.orElse first second) (.orElse first' second')
  | map {rule : Rule α} {rule' : Rule β} (h : SameShape same rule rule')
    (reduce : List (Node α) → α) (reduce' : List (Node β) → β) :
    SameShape same (.map rule reduce) (.map rule' reduce')
  | discardLeft {rule : Rule α} {rule' : Rule β} (h : SameShape same rule rule') :
    SameShape same (.discard rule) rule'
  | discardRight {rule : Rule α} {rule' : Rule β} (h : SameShape same rule rule') :
    SameShape same rule (.discard rule')
  | reference {declaration declaration' : Nat}
    (h : same declaration declaration') :
    SameShape same (.reference declaration) (.reference declaration')

namespace SameShape

variable {same : Nat → Nat → Prop} {rules : List (Rule α)}
  {rules' : List (Rule β)}

theorem sequence (h : List.Forall₂ (SameShape same) rules rules') :
    SameShape same (Rule.sequence rules) (Rule.sequence rules') :=
  List.rel_foldl (fun _ _ hfirst _ _ hsecond => .andThen hfirst hsecond) .epsilon h

theorem choice (h : List.Forall₂ (SameShape same) rules rules') :
    SameShape same (Rule.choice rules) (Rule.choice rules') :=
  List.rel_foldl (fun _ _ hfirst _ _ hsecond => .orElse hfirst hsecond) .never h

end SameShape

end Rule

/-- Matching declarations have rules of the same shape, or neither has one. -/
def Store.SameShape (same : Nat → Nat → Prop) (store : Store α)
    (store' : Store β) : Prop :=
  ∀ declaration declaration', same declaration declaration' →
    Option.Rel (Rule.SameShape same) (store.rule? declaration)
      (store'.rule? declaration')

namespace Rule

variable {same : Nat → Nat → Prop} {rule : Rule α} {rule' : Rule β}

/-- One level: the rules stay side by side as long as their references do. A
discarding rule stands on one side alone, so its run is the run of the rule
within, with other nodes. -/
theorem applyWith_tracks {resolve : Nat → State α → Outcome α}
    {resolve' : Nat → State β → Outcome β}
    (hresolve : ∀ declaration declaration', same declaration declaration' →
      Tracks (resolve declaration) (resolve' declaration'))
    (h : rule.SameShape same rule') :
    Tracks (rule.applyWith resolve) (rule'.applyWith resolve') := by
  intro s s' hs
  induction h generalizing s s' with
  | literal text =>
    simp only [applyWith, hs]
    cases text.isPrefixOf? s'.rest with
    | none => exact .failed
    | some rest => exact .parsed rfl
  | pattern p =>
    simp only [applyWith, hs]
    cases p.find s'.rest with
    | none => exact .failed
    | some found =>
      by_cases hstart : found.before.isEmpty
      · simp only [hstart, ↓reduceIte]
        exact .parsed rfl
      · simp only [hstart]
        exact .failed
  | epsilon => exact .parsed hs
  | never => exact .failed
  | andThen _ _ ihFirst ihSecond => exact (ihFirst s s' hs).bind ihSecond
  | orElse _ _ ihFirst ihSecond =>
    have hfirst := ihFirst (.start s.rest) (.start s'.rest) hs
    have hsecond := ihSecond (.start s.rest) (.start s'.rest) hs
    refine (hfirst.orElse hsecond).map ?_
    intro produced produced' hproduced
    rw [State.absorb_eq, State.absorb_eq]
    exact hproduced
  | map _ reduce reduce' ih =>
    exact (ih (.start s.rest) (.start s'.rest) hs).map fun _ _ hrest => hrest
  | discardLeft _ ih =>
    have hrule := ih (.start s.rest) s' hs
    exact hrule.map_left (f := fun produced => ⟨produced.rest, s.done⟩)
      fun _ => rfl
  | discardRight _ ih =>
    have hrule := ih s (.start s'.rest) hs
    exact (hrule.symm.map_left (f := fun produced => ⟨produced.rest, s'.done⟩)
      fun _ => rfl).symm
  | reference hsame => exact hresolve _ _ hsame s s' hs

theorem applyWithin_tracks {store : Store α} {store' : Store β}
    (hstores : store.SameShape same store') (depth : Nat)
    (h : rule.SameShape same rule') :
    Tracks (rule.applyWithin store depth) (rule'.applyWithin store' depth) := by
  induction depth generalizing rule rule' with
  | zero => exact applyWith_tracks (fun _ _ _ _ _ _ => .unfinished) h
  | succ depth ih =>
    refine applyWith_tracks ?_ h
    intro declaration declaration' hsame s s' hs
    have hrules := hstores declaration declaration' hsame
    generalize store.rule? declaration = found at hrules ⊢
    generalize store'.rule? declaration' = found' at hrules ⊢
    cases hrules with
    | none => exact .failed
    | some hrules => exact ih hrules s s' hs

/-- Both bounds of `parse` are enough, so a larger one than both tells what the
two parses give. -/
theorem parse_tracks {store : Store α} {store' : Store β}
    (hstores : store.SameShape same store') (h : rule.SameShape same rule')
    (hstore : store.Closed) (hstore' : store'.Closed)
    (hrule : rule.RefersBelow store.nextDeclaration)
    (hrule' : rule'.RefersBelow store'.nextDeclaration) :
    Tracks (rule.parse store) (rule'.parse store') := by
  intro s s' hs
  have hdepth := Nat.le_max_left (store.nextDeclaration * (s.rest.length + 1))
    (store'.nextDeclaration * (s'.rest.length + 1))
  have hdepth' := Nat.le_max_right (store.nextDeclaration * (s.rest.length + 1))
    (store'.nextDeclaration * (s'.rest.length + 1))
  rw [← applyWithin_eq_parse hstore hrule hdepth,
    ← applyWithin_eq_parse hstore' hrule' hdepth']
  exact applyWithin_tracks hstores _ h s s' hs

/-- Rules without refusals that differ only in their reductions and in what they
discard succeed on the same texts and leave the same rests, whatever was
produced before: at every bound on the nesting of references, and so when they
are parsed, neither ends without the other. -/
theorem agrees_of_sameShape {store : Store α} {store' : Store β}
    (hstores : store.SameShape same store') (h : rule.SameShape same rule') :
    (∀ depth s s', s.rest = s'.rest →
      (rule.applyWithin store depth s).Agrees
        (rule'.applyWithin store' depth s')) ∧
    (store.Closed → store'.Closed → rule.RefersBelow store.nextDeclaration →
      rule'.RefersBelow store'.nextDeclaration → ∀ s s', s.rest = s'.rest →
        (rule.parse store s).Agrees (rule'.parse store' s')) := by
  constructor
  · intro depth s s' hs
    exact applyWithin_tracks hstores depth h s s' hs
  · intro hstore hstore' hrule hrule' s s' hs
    exact parse_tracks hstores h hstore hstore' hrule hrule' s s' hs

/-- A list is a row in brackets, and a row is any number of lists. -/
def listStore : TextStore :=
  ⟨[.defined (map (sequence [literal ['('], reference 1, literal [')']]) joinedText),
    .defined (choice [sequence [reference 0, reference 1], epsilon])]⟩

/-- Rows and lists in the other order. The brackets are discarded, and the nodes
that are left in a list are counted. -/
def countingStore : Store Nat :=
  ⟨[.defined (choice [sequence [reference 1, reference 0], epsilon]),
    .defined (map
      (sequence [discard (literal ['(']), reference 0, discard (literal [')'])])
      List.length)]⟩

theorem listStore_sameShape :
    listStore.SameShape (fun n m => n + m = 1) countingStore := by
  intro list row hsame
  obtain ⟨rfl, rfl⟩ | ⟨rfl, rfl⟩ : list = 0 ∧ row = 1 ∨ list = 1 ∧ row = 0 := by
    omega
  · refine .some (.map (.sequence ?_) joinedText List.length)
    exact .cons (.discardRight (.literal ['('])) (.cons (.reference rfl)
      (.cons (.discardRight (.literal [')'])) .nil))
  · refine .some (.choice (.cons (.sequence ?_) (.cons .epsilon .nil)))
    exact .cons (.reference rfl) (.cons (.reference rfl) .nil)

theorem listStore_closed : listStore.Closed := by
  intro declaration rule hrule
  match declaration, hrule with
  | 0, rfl => simp [sequence, RefersBelow, listStore, Store.nextDeclaration]
  | 1, rfl =>
    simp [sequence, choice, RefersBelow, listStore, Store.nextDeclaration]

theorem countingStore_closed : countingStore.Closed := by
  intro declaration rule hrule
  match declaration, hrule with
  | 0, rfl =>
    simp [sequence, choice, RefersBelow, countingStore, Store.nextDeclaration]
  | 1, rfl => simp [sequence, RefersBelow, countingStore, Store.nextDeclaration]

/-- The list that is not closed is tried and left by both. -/
theorem agrees_of_listStore :
    let text := ['(', '(', ')', '(', ')', ')', '(']
    let lists := (reference 0).parse listStore ⟨text, [.terminal ['x']]⟩
    let counts := (reference 1).parse countingStore (.start text)
    listStore.SameShape (fun n m => n + m = 1) countingStore ∧
    listStore.Closed ∧ countingStore.Closed ∧
    lists = .parsed ⟨['('], [.terminal ['x'], .data text.dropLast]⟩ ∧
    counts = .parsed ⟨['('], [.data 2]⟩ ∧ lists.Agrees counts ∧
    ((reference 0).applyWithin listStore 1 ⟨text, [.terminal ['x']]⟩).Agrees
      ((reference 1).applyWithin countingStore 1 (.start text)) := by
  intro text lists counts
  have hagrees := agrees_of_sameShape listStore_sameShape
    (.reference (rfl : 0 + 1 = 1))
  refine ⟨listStore_sameShape, listStore_closed, countingStore_closed, by decide,
    by decide, ?_, ?_⟩
  · exact hagrees.2 listStore_closed countingStore_closed (by decide : 0 < 2)
      (by decide : 1 < 2) _ _ rfl
  · exact hagrees.1 1 _ _ rfl

/-- A rule that may refuse a value does depend on what is discarded. -/
example :
    let digit : Rule (List Char) := literal ['7']
    (tryMap digit Selector.only.reduce?).runOn .empty ['7']
      = .parsed ⟨[], [.data ['7']]⟩ ∧
    (tryMap (discard digit) Selector.only.reduce?).runOn .empty ['7'] = .failed := by
  decide

end Rule

end TreeCodec
