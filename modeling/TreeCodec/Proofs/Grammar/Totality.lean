import Mathlib.Algebra.GroupWithZero.Nat
import TreeCodec.Proofs.Grammar.Agreement
import TreeCodec.Proofs.Rule.Lookups

/-!
The rule of trees is total. Its nested runs begin behind a sign and hence at
less text, so a run ends within as many levels as the text has characters; its
last alternative always matches, so it succeeds, with one tree as its only node
and an end of the text left over. Neither of its reductions can refuse: a
sequence of parts produces one value for each tree among them, and a run of
digits writes a number. What is left of failure is text that is not read.
-/

namespace TreeCodec.Grammar

open Text Reference Rule

/-- How many values the nodes hold. -/
def valueCount (nodes : List (Node Tree)) : Nat :=
  (nodes.filterMap Node.data?).length

@[simp]
theorem valueCount_append (first second : List (Node Tree)) :
    valueCount (first ++ second) = valueCount first + valueCount second := by
  rw [valueCount, List.filterMap_append, List.length_append]
  rfl

theorem nodeOfChildren?_isSome {nodes : List (Node Tree)}
    (h : 2 ≤ valueCount nodes) : (nodeOfChildren? nodes).isSome := by
  rw [valueCount] at h
  rw [nodeOfChildren?]
  match hvalues : nodes.filterMap Node.data? with
  | [] | [_] =>
    rw [hvalues] at h
    simp at h
  | left :: right :: _ => rfl

/-- Every success of the run adds nodes with so many values. -/
def Adds (count : Nat) (run : State Tree → Outcome Tree) : Prop :=
  ∀ s s', run s = .parsed s' → valueCount s'.done = valueCount s.done + count

section Parts

variable {resolve : Nat → State Tree → Outcome Tree}

theorem adds_literal (text : List Char) :
    Adds 0 ((literal text).applyWith resolve) := by
  intro s s' h
  obtain ⟨rest, -, rfl⟩ := literal_eq_parsed h
  exact valueCount_append s.done [.terminal text]

theorem adds_blanks : Adds 0 (blanks.applyWith resolve) := by
  intro s s' h
  obtain ⟨produced, -, rfl⟩ := discard_eq_parsed h
  rfl

theorem adds_sequence {rules : List (Rule Tree)} {counts : List Nat}
    (h : List.Forall₂ (fun rule count => Adds count (rule.applyWith resolve))
      rules counts) :
    Adds counts.sum ((Rule.sequence rules).applyWith resolve) := by
  induction h with
  | nil =>
    intro s s' h
    cases h
    rfl
  | @cons rule count rules counts hrule _ ih =>
    intro s s' h
    rw [applyWith_sequence_cons] at h
    obtain ⟨middle, hfirst, hothers⟩ := Outcome.bind_eq_parsed.mp h
    rw [ih middle s' hothers, hrule s middle hfirst, List.sum_cons, Nat.add_assoc]

variable {tree : Rule Tree} (htree : Adds 1 (tree.applyWith resolve))
include htree

theorem nodeOfChildren?_isSome_of_bracket (text : List Char)
    (produced : State Tree)
    (h : (Rule.sequence [literal ['/'], blanks, tree, blanks, literal ['\\'], blanks,
      tree]).applyWith resolve (.start text) = .parsed produced) :
    (nodeOfChildren? produced.done).isSome := by
  have hcount : valueCount produced.done
      = valueCount [] + [0, 0, 1, 0, 0, 0, 1].sum :=
    adds_sequence
      (.cons (adds_literal _) (.cons adds_blanks (.cons htree (.cons adds_blanks
        (.cons (adds_literal _) (.cons adds_blanks (.cons htree .nil)))))))
      _ produced h
  exact nodeOfChildren?_isSome (by rw [hcount]; decide)

theorem nodeOfChildren?_isSome_of_plus (text : List Char) (produced : State Tree)
    (h : (Rule.sequence [literal ['+'], blanks, tree, blanks, tree]).applyWith resolve
      (.start text) = .parsed produced) :
    (nodeOfChildren? produced.done).isSome := by
  have hcount : valueCount produced.done = valueCount [] + [0, 0, 1, 0, 1].sum :=
    adds_sequence
      (.cons (adds_literal _) (.cons adds_blanks (.cons htree (.cons adds_blanks
        (.cons htree .nil)))))
      _ produced h
  exact nodeOfChildren?_isSome (by rw [hcount]; decide)

omit htree in
/-- A run of digits that was found is not empty, so it is a number. -/
theorem treeOfDigits?_isSome (text : List Char) (produced : State Tree)
    (h : (pattern digitRun).applyWith resolve (.start text) = .parsed produced) :
    (treeOfDigits? produced.done).isSome := by
  have hfind := Pattern.find_someRun ⟨[⟨'0'.toNat, '9'.toNat⟩]⟩ text
  rw [contains_digits] at hfind
  simp only [Rule.applyWith, State.start, digitRun, hfind] at h
  by_cases hdigits : text.takeWhile isDigit = []
  · simp [hdigits] at h
  · simp only [hdigits, ↓reduceIte, List.isEmpty_nil, Outcome.parsed.injEq] at h
    subst h
    simp [treeOfDigits?, State.push, Node.terminal?, readNumeral?_takeWhile, hdigits]

theorem alternatives_neverRefuses (hrefuses : tree.NeverRefuses resolve) :
    (alternatives tree).NeverRefuses resolve := by
  simp only [alternatives, Rule.choice, Rule.sequence, List.foldl_cons, List.foldl_nil,
    NeverRefuses, blanks, hrefuses, and_self, true_and, and_true]
  exact ⟨⟨nodeOfChildren?_isSome_of_bracket htree,
    nodeOfChildren?_isSome_of_plus htree⟩, treeOfDigits?_isSome⟩

end Parts

/-- However few levels it is given, a run of the rule of trees that succeeds
adds one tree. -/
theorem tree_adds (depth : Nat) : Adds 1 (tree.applyWithin store depth) := by
  intro s s' h
  obtain ⟨text, done⟩ := s
  have hdeep := tree_readsAs_level
    (Nat.lt_succ_of_le (Nat.le_max_right depth text.length)) done
  rcases applyWithin_approximates store
    (Nat.le_succ_of_le (Nat.le_max_left depth text.length)) tree ⟨text, done⟩
    with hunfinished | hsame
  · rw [hunfinished] at h
    cases h
  · rw [← hsame, h] at hdeep
    obtain ⟨t, rest, hlevel⟩ := exists_level (max depth text.length) text
    rw [hlevel] at hdeep
    cases hdeep
    exact valueCount_append done [.data t]

/-- The nested runs of the rule of trees begin at less text. -/
theorem length_of_mem_lookups {resolve : Nat → State Tree → Outcome Tree}
    (hresolve : ∀ declaration, Advances (resolve declaration))
    (s : State Tree) :
    ∀ lookup ∈ (alternatives tree).lookups resolve s,
      lookup.2.rest.length < s.rest.length := by
  intro lookup hlookup
  obtain ⟨rule, hrule, hmem⟩ := exists_of_mem_lookups_choice hlookup
  simp only [List.mem_cons, List.not_mem_nil, or_false] at hrule
  rcases hrule with rfl | rfl | rfl | rfl | rfl
  · exact length_of_mem_lookups_literal hresolve (List.cons_ne_nil '/' [])
      (s := .start s.rest) hmem
  · exact length_of_mem_lookups_literal hresolve (List.cons_ne_nil '+' [])
      (s := .start s.rest) hmem
  · cases hmem
  · cases hmem
  · cases hmem

/-- A run of the rule of trees is one of its alternatives with one level less for
the nested runs, and depends on nothing but those that it looks up. -/
theorem applyWith_alternatives_of_lookups {depth : Nat}
    {other : Nat → State Tree → Outcome Tree} (s : State Tree)
    (h : ∀ lookup ∈ (alternatives tree).lookups (resolveWithin store depth) s,
      resolveWithin store depth lookup.1 lookup.2 = other lookup.1 lookup.2) :
    (alternatives tree).applyWith other s = tree.applyWithin store (depth + 1) s := by
  have hrule : tree.applyWithin store (depth + 1) s
      = (alternatives tree).applyWithin store depth s := rfl
  rw [hrule, applyWithin_eq_applyWith]
  exact (applyWith_eq_of_lookups _ s h).1

/-- The rule of trees is total. On every text, with more levels than the text
has characters, it succeeds whatever was produced before, adds one tree and
leaves an end of the text; all its nested runs begin at less text, and they are
all that the run depends on; and no reduction in it ever refuses the nodes it is
given. So the parser is left with one tree and nothing else, and fails exactly
if the rule leaves some text. -/
theorem tree_total (text : List Char) :
    ∃ t rest, rest <:+ text ∧
      (∀ done,
        (∀ depth, text.length < depth →
          tree.applyWithin store depth ⟨text, done⟩
            = .parsed ⟨rest, done ++ [.data t]⟩) ∧
        tree.parse store ⟨text, done⟩ = .parsed ⟨rest, done ++ [.data t]⟩ ∧
        (∀ depth, ∀ lookup ∈
            (alternatives tree).lookups (resolveWithin store depth) ⟨text, done⟩,
          lookup.2.rest.length < text.length) ∧
        ∀ depth (other : Nat → State Tree → Outcome Tree),
          (∀ lookup ∈
              (alternatives tree).lookups (resolveWithin store depth) ⟨text, done⟩,
            resolveWithin store depth lookup.1 lookup.2
              = other lookup.1 lookup.2) →
          (alternatives tree).applyWith other ⟨text, done⟩
            = tree.applyWithin store (depth + 1) ⟨text, done⟩) ∧
      (∀ depth, (alternatives tree).NeverRefuses (resolveWithin store depth)) ∧
      tree.runOn store text = .parsed ⟨rest, [.data t]⟩ ∧
      (Tree.parse? text = .error .notOneTree ↔ rest ≠ []) ∧
      (Tree.parse? text = .ok t ↔ rest = []) := by
  obtain ⟨t, rest, hlevel⟩ := exists_level text.length text
  have hruns (done : List (Node Tree)) (depth : Nat) (hdepth : text.length < depth) :
      tree.applyWithin store depth ⟨text, done⟩
        = .parsed ⟨rest, done ++ [.data t]⟩ := by
    have hrun := tree_readsAs_level (Nat.lt_succ_self text.length) done
    rw [hlevel] at hrun
    rcases applyWithin_approximates store (Nat.succ_le_of_lt hdepth) tree
      ⟨text, done⟩ with h | h
    · rw [hrun] at h
      cases h
    · rw [← h, hrun]
      rfl
  have hparse (done : List (Node Tree)) :
      tree.parse store ⟨text, done⟩ = .parsed ⟨rest, done ++ [.data t]⟩ := by
    refine hruns done _ ?_
    simp [store, Store.recursive, Store.empty]
  have hsuffix : rest <:+ text :=
    applyWithin_advances store _ tree ⟨text, []⟩ _ (hparse [])
  have hanswer := parse?_of_level hlevel
  refine ⟨t, rest, hsuffix, ?_, ?_, hparse [], ?_, ?_⟩
  · intro done
    refine ⟨hruns done, hparse done, ?_, ?_⟩
    · intro depth
      exact length_of_mem_lookups
        (fun declaration => applyWithin_advances store depth (.reference declaration)) _
    · intro depth other hsame
      exact applyWith_alternatives_of_lookups ⟨text, done⟩ hsame
  · intro depth
    exact alternatives_neverRefuses (tree_adds depth) trivial
  · rw [hanswer]
    by_cases hrest : rest = [] <;> simp [hrest]
  · rw [hanswer]
    by_cases hrest : rest = [] <;> simp [hrest]

end TreeCodec.Grammar
