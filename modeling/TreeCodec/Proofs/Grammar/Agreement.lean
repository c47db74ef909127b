import Mathlib.Data.List.Forall2
import TreeCodec.Proofs.Grammar.Reader
import TreeCodec.Proofs.Pattern.ClassRun
import TreeCodec.Proofs.Rule.Run
import TreeCodec.Proofs.Text.Numeral

/-!
The rule of trees and the readers written as functions on text agree on every
text. A run of a rule reads as a reader does at a text if it fails where the
reader has no answer, and otherwise adds the tree as one node to whatever was
produced before and leaves the same rest.

Both sides nest on the text behind at least one character, so the induction is
on the number of levels: with more levels than the text has characters the rule
reads as the readers of that level do, and neither runs out.
-/

namespace TreeCodec.Grammar

open Text Reference

/-- What a run shows of a reading: one more node, and what is left. -/
def outcomeOf (done : List (Node Tree)) :
    Option (Tree × List Char) → Outcome Tree
  | some (t, rest) => .parsed ⟨rest, done ++ [.data t]⟩
  | none => .failed

/-- A run does at a text what the reader does, whatever was produced before. -/
def ReadsAs (run : State Tree → Outcome Tree) (reader : Reader)
    (text : List Char) : Prop :=
  ∀ done, run ⟨text, done⟩ = outcomeOf done (reader text)

theorem orElse_outcomeOf (first second : Option (Tree × List Char)) :
    ((outcomeOf [] first).orElse fun _ => outcomeOf [] second)
      = outcomeOf [] (first.or second) := by
  cases first with
  | none => rfl
  | some reading => rfl

/-- Absorbing a reading puts its node behind what was produced before. -/
theorem map_absorb_outcomeOf (text : List Char) (done : List (Node Tree))
    (reading : Option (Tree × List Char)) :
    (outcomeOf [] reading).map (State.absorb ⟨text, done⟩)
      = outcomeOf done reading := by
  cases reading with
  | none => rfl
  | some reading => simp [outcomeOf, Outcome.map, Outcome.bind, State.absorb_eq]

section Pieces

variable {resolve : Nat → State Tree → Outcome Tree}
variable {rules : List (Rule Tree)} {done : List (Node Tree)}

theorem sequence_literal_none {c : Char} {text : List Char}
    (h : expect? c text = none) :
    (Rule.sequence (.literal [c] :: rules)).applyWith resolve ⟨text, done⟩
      = .failed := by
  rw [Rule.applyWith_sequence_cons, Rule.applyWith]
  cases text with
  | nil => rfl
  | cons d rest =>
    have hne : c ≠ d := by
      rintro rfl
      simp [expect?] at h
    simp [List.isPrefixOf?, hne, Outcome.bind]

theorem sequence_literal_some {c : Char} {text rest : List Char}
    (h : expect? c text = some rest) :
    (Rule.sequence (.literal [c] :: rules)).applyWith resolve ⟨text, done⟩
      = (Rule.sequence rules).applyWith resolve
          ⟨rest, done ++ [.terminal [c]]⟩ := by
  rw [Rule.applyWith_sequence_cons, Rule.applyWith]
  cases text with
  | nil => simp [expect?] at h
  | cons d tail =>
    obtain ⟨rfl, rfl⟩ : d = c ∧ tail = rest := by simpa [expect?] using h
    simp [List.isPrefixOf?, State.push, Outcome.bind]

theorem sequence_blanks (text : List Char) :
    (Rule.sequence (blanks :: rules)).applyWith resolve ⟨text, done⟩
      = (Rule.sequence rules).applyWith resolve ⟨skipBlanks text, done⟩ := by
  have hfind := Pattern.find_anyRun ⟨blankRanges⟩ (by decide) text
  simp only [Rule.applyWith_sequence_cons, blanks, blankRun, Rule.applyWith,
    State.start, hfind]
  rfl

variable {tree : Rule Tree} {reader : Reader} {text : List Char}

theorem sequence_tree_some {t : Tree} {rest : List Char}
    (htree : ReadsAs (tree.applyWith resolve) reader (skipBlanks text))
    (h : reader (skipBlanks text) = some (t, rest)) :
    (Rule.sequence (blanks :: tree :: rules)).applyWith resolve ⟨text, done⟩
      = (Rule.sequence rules).applyWith resolve ⟨rest, done ++ [.data t]⟩ := by
  rw [sequence_blanks, Rule.applyWith_sequence_cons, htree done, h]
  rfl

theorem sequence_tree_none
    (htree : ReadsAs (tree.applyWith resolve) reader (skipBlanks text))
    (h : reader (skipBlanks text) = none) :
    (Rule.sequence (blanks :: tree :: rules)).applyWith resolve ⟨text, done⟩
      = .failed := by
  rw [sequence_blanks, Rule.applyWith_sequence_cons, htree done, h]
  rfl

end Pieces

section Alternatives

variable {resolve : Nat → State Tree → Outcome Tree} {text : List Char}

theorem choice_readsAs {rules : List (Rule Tree)} {readers : List Reader}
    (h : List.Forall₂
      (fun rule reader => ReadsAs (rule.applyWith resolve) reader text)
      rules readers) :
    ReadsAs ((Rule.choice rules).applyWith resolve) (choose readers) text := by
  induction h with
  | nil => exact fun _ => rfl
  | @cons rule reader rules readers hrule _ ih =>
    intro done
    have hfirst : rule.applyWith resolve (.start text)
        = outcomeOf [] (reader text) := hrule []
    have hothers : (Rule.choice rules).applyWith resolve (.start text)
        = outcomeOf [] (choose readers text) := ih []
    rw [Rule.applyWith_choice_cons, hfirst, hothers, orElse_outcomeOf,
      map_absorb_outcomeOf]
    simp only [choose, List.findSome?_cons]
    cases reader text with
    | some reading => rfl
    | none => rfl

variable {tree : Rule Tree} {reader : Reader}

theorem bracket_readsAs
    (htree : ∀ inner : List Char, inner.length < text.length →
      ReadsAs (tree.applyWith resolve) reader inner)
    (hshrinks : Shrinks reader) :
    ReadsAs
      ((Rule.tryMap
        (.sequence
          [.literal ['/'], blanks, tree, blanks, .literal ['\\'], blanks, tree])
        nodeOfChildren?).applyWith resolve)
      (bracket reader) text := by
  intro done
  rw [Rule.applyWith, State.start, bracket]
  cases hopen : expect? '/' text with
  | none =>
    rw [sequence_literal_none hopen]
    rfl
  | some inside =>
    have hinside := length_of_expect? hopen
    have hskip := length_skipBlanks_le inside
    have hreads := htree (skipBlanks inside) (by omega)
    rw [sequence_literal_some hopen]
    cases hleft : reader (skipBlanks inside) with
    | none =>
      rw [sequence_tree_none hreads hleft]
      simp [hleft, Outcome.bind, outcomeOf]
    | some leftReading =>
      obtain ⟨left, middle⟩ := leftReading
      have hmiddle := hshrinks _ _ _ hleft
      have hskip' := length_skipBlanks_le middle
      rw [sequence_tree_some hreads hleft, sequence_blanks]
      cases hclose : expect? '\\' (skipBlanks middle) with
      | none =>
        rw [sequence_literal_none hclose]
        simp [hleft, hclose, Outcome.bind, outcomeOf]
      | some behind =>
        have hbehind := length_of_expect? hclose
        have hskip'' := length_skipBlanks_le behind
        have hreads' := htree (skipBlanks behind) (by omega)
        rw [sequence_literal_some hclose]
        cases hright : reader (skipBlanks behind) with
        | none =>
          rw [sequence_tree_none hreads' hright]
          simp [hleft, hclose, hright, Outcome.bind, outcomeOf]
        | some rightReading =>
          rw [sequence_tree_some hreads' hright]
          simp only [Option.bind_eq_bind, Option.bind_some, hleft, hclose, hright]
          rfl

theorem plus_readsAs
    (htree : ∀ inner : List Char, inner.length < text.length →
      ReadsAs (tree.applyWith resolve) reader inner)
    (hshrinks : Shrinks reader) :
    ReadsAs
      ((Rule.tryMap
        (.sequence [.literal ['+'], blanks, tree, blanks, tree])
        nodeOfChildren?).applyWith resolve)
      (plus reader) text := by
  intro done
  rw [Rule.applyWith, State.start, plus]
  cases hopen : expect? '+' text with
  | none =>
    rw [sequence_literal_none hopen]
    rfl
  | some inside =>
    have hinside := length_of_expect? hopen
    have hskip := length_skipBlanks_le inside
    have hreads := htree (skipBlanks inside) (by omega)
    rw [sequence_literal_some hopen]
    cases hleft : reader (skipBlanks inside) with
    | none =>
      rw [sequence_tree_none hreads hleft]
      simp [hleft, Outcome.bind, outcomeOf]
    | some leftReading =>
      obtain ⟨left, middle⟩ := leftReading
      have hmiddle := hshrinks _ _ _ hleft
      have hskip' := length_skipBlanks_le middle
      have hreads' := htree (skipBlanks middle) (by omega)
      rw [sequence_tree_some hreads hleft]
      cases hright : reader (skipBlanks middle) with
      | none =>
        rw [sequence_tree_none hreads' hright]
        simp [hleft, hright, Outcome.bind, outcomeOf]
      | some rightReading =>
        rw [sequence_tree_some hreads' hright]
        simp only [Option.bind_eq_bind, Option.bind_some, hleft, hright]
        rfl

theorem number_readsAs :
    ReadsAs ((Rule.tryMap (.pattern digitRun) treeOfDigits?).applyWith resolve)
      number text := by
  intro done
  have hfind := Pattern.find_someRun ⟨[⟨'0'.toNat, '9'.toNat⟩]⟩ text
  rw [contains_digits] at hfind
  simp only [Rule.applyWith, State.start, digitRun, hfind, number,
    readNumeral?_takeWhile]
  by_cases h : text.takeWhile isDigit = []
  · simp [h, Outcome.bind, outcomeOf]
  · simp [h, Outcome.bind, outcomeOf, State.push, treeOfDigits?, Node.terminal?,
      readNumeral?_takeWhile]

theorem dash_readsAs :
    ReadsAs ((Rule.map (.literal ['-']) fun _ => Tree.empty).applyWith resolve)
      dash text := by
  intro done
  cases text with
  | nil => rfl
  | cons c rest =>
    by_cases h : c = '-'
    · simp [Rule.applyWith, State.start, State.push, Outcome.map, Outcome.bind,
        List.isPrefixOf?, dash, expect?, outcomeOf, h]
    · simp [Rule.applyWith, State.start, Outcome.map, Outcome.bind,
        List.isPrefixOf?, dash, expect?, outcomeOf, h, Ne.symm h]

theorem nothing_readsAs :
    ReadsAs ((Rule.map .epsilon fun _ => Tree.empty).applyWith resolve)
      nothing text :=
  fun _ => rfl

/-- The five alternatives read as the five readers, provided that the rule that
stands for nested trees does so wherever a part can begin. -/
theorem alternatives_readsAs
    (htree : ∀ inner : List Char, inner.length < text.length →
      ReadsAs (tree.applyWith resolve) reader inner)
    (hshrinks : Shrinks reader) :
    ReadsAs ((alternatives tree).applyWith resolve)
      (choose [bracket reader, plus reader, number, dash, nothing]) text :=
  choice_readsAs
    (.cons (bracket_readsAs htree hshrinks)
      (.cons (plus_readsAs htree hshrinks)
        (.cons number_readsAs
          (.cons dash_readsAs (.cons nothing_readsAs .nil)))))

end Alternatives

/-- With more levels than the text has characters, a bounded run of the rule of
trees reads as the readers of that level do. -/
theorem tree_readsAs_level {depth : Nat} {text : List Char}
    (h : text.length < depth) :
    ReadsAs (tree.applyWithin store depth) (level depth) text := by
  induction depth generalizing text with
  | zero => omega
  | succ depth ih =>
    intro done
    have hrule : tree.applyWithin store (depth + 1) ⟨text, done⟩
        = (alternatives tree).applyWithin store depth ⟨text, done⟩ := rfl
    rw [hrule, Rule.applyWithin_eq_applyWith]
    refine alternatives_readsAs ?_ (level_shrinks depth) done
    intro inner hinner
    exact ih (by omega)

/-- On every text both lenient rules come to an end, with the same tree and the
same rest, and no more levels would change that. -/
theorem exists_reading (text : List Char) :
    ∃ t rest, ∀ depth, text.length < depth →
      tree.applyWithin store depth (.start text) = .parsed ⟨rest, [.data t]⟩ ∧
        level depth text = some (t, rest) := by
  obtain ⟨t, rest, hlevel⟩ := exists_level text.length text
  refine ⟨t, rest, ?_⟩
  intro depth hdepth
  have hrun : tree.applyWithin store (text.length + 1) (.start text)
      = .parsed ⟨rest, [.data t]⟩ := by
    have := tree_readsAs_level (Nat.lt_succ_self text.length) []
    rwa [hlevel] at this
  -- The run ended, so the larger bound gives the same outcome, and the readers
  -- of that level have nothing else to show.
  have hdeeper : tree.applyWithin store depth (.start text)
      = .parsed ⟨rest, [.data t]⟩ := by
    rcases Rule.applyWithin_approximates store hdepth tree (.start text) with h | h
    · rw [hrun] at h
      cases h
    · rw [← h, hrun]
  refine ⟨hdeeper, ?_⟩
  have hreads := tree_readsAs_level hdepth []
  rw [State.start] at hdeeper
  rw [hdeeper] at hreads
  cases hread : level depth text with
  | none => simp [hread, outcomeOf] at hreads
  | some reading => simp_all [outcomeOf]

/-- The parser accepts what the readers read up to the end of the text. -/
theorem parse?_of_level {text rest : List Char} {t : Tree}
    (h : level (text.length + 1) text = some (t, rest)) :
    Tree.parse? text
      = if rest = [] then .ok t else .error .notOneTree := by
  have hrun : tree.runOn store text = .parsed ⟨rest, [.data t]⟩ := by
    have hreads := tree_readsAs_level (Nat.lt_succ_self text.length) []
    rw [h] at hreads
    rw [Rule.runOn, Rule.parse]
    simpa [store, Store.recursive, Store.empty, State.start, outcomeOf] using hreads
  rw [Tree.parse?, hrun]
  cases rest <;> rfl

/-- The rule engine and the readers on text agree on every text: both lenient
rules come to an end with the same tree and the same rest, whatever number of
levels above the least one they are given, and both parsers give the same
answer. -/
theorem parse?_eq_reference (text : List Char) :
    (∃ t rest, ∀ depth, text.length < depth →
      tree.applyWithin store depth (.start text) = .parsed ⟨rest, [.data t]⟩ ∧
        level depth text = some (t, rest)) ∧
      Tree.parse? text = Reference.parse? text := by
  obtain ⟨t, rest, hreading⟩ := exists_reading text
  refine ⟨⟨t, rest, hreading⟩, ?_⟩
  obtain ⟨-, hlevel⟩ := hreading (text.length + 1) (by omega)
  rw [parse?_of_level hlevel, Reference.parse?, hlevel]
  cases rest <;> rfl

end TreeCodec.Grammar
