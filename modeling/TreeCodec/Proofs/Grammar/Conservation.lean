import TreeCodec.Proofs.Grammar.Language

/-!
What is read of a text makes as many nodes as its tokens are worth: one for
each `+` and each `/`, and for each number the nodes of the tree with that code.
Every token is used once. A reading takes a beginning of the text, so each step
is an account of what stood there before and of what is left. No number is cut
in two by it, since a reading never stops between two digits.
-/

namespace TreeCodec

open Reference

namespace Text

/-- The runs of digits in a text, each as long as possible. -/
def digitRuns (text : List Char) : List (List Char) :=
  (text.splitOnP fun c => !isDigit c).filter (· ≠ [])

theorem digitRuns_cons {c : Char} (hc : isDigit c = false) (text : List Char) :
    digitRuns (c :: text) = digitRuns text := by
  have hempty : ∀ c ∈ ([] : List Char), (!isDigit c) = false :=
    List.forall_mem_nil _
  have hsplit := List.splitOnP_append_cons_of_forall_mem hempty c (by simp [hc]) text
  rw [List.nil_append] at hsplit
  rw [digitRuns, hsplit, List.filter_cons_of_neg (by simp), digitRuns]

/-- Digits at the beginning, if no others follow, are one of the runs. -/
theorem digitRuns_append {digits rest : List Char} (hne : digits ≠ [])
    (hdigits : ∀ c ∈ digits, isDigit c = true)
    (hrest : beginsWithDigit rest = false) :
    digitRuns (digits ++ rest) = digits :: digitRuns rest := by
  have hinside : ∀ c ∈ digits, (!isDigit c) = false := by simpa using hdigits
  have hkeep (runs : List (List Char)) :
      (digits :: runs).filter (· ≠ []) = digits :: runs.filter (· ≠ []) :=
    List.filter_cons_of_pos (decide_eq_true hne)
  cases rest with
  | nil =>
    rw [List.append_nil, digitRuns, List.splitOnP_eq_singleton hinside, hkeep]
    rfl
  | cons c rest =>
    have hc : isDigit c = false := hrest
    rw [digitRuns, List.splitOnP_append_cons_of_forall_mem hinside c (by simp [hc]),
      hkeep, digitRuns_cons hc, digitRuns]

example : digitRuns ['0', '7', ' ', '1', '\\', '-', '2', '3']
    = [['0', '7'], ['1'], ['2', '3']] := by
  decide

end Text

open Text

/-- What does not depend on blanks in front of a text may skip them. -/
theorem apply_skipBlanks {β : Type} (f : List Char → β)
    (hblank : ∀ c text, isBlank c = true → f (c :: text) = f text)
    (text : List Char) : f (skipBlanks text) = f text := by
  induction text with
  | nil => rfl
  | cons c text ih =>
    cases hc : isBlank c with
    | true =>
      rw [hblank c text hc, ← ih]
      exact congrArg f (List.dropWhile_cons_of_pos hc)
    | false => exact congrArg f (List.dropWhile_cons_of_neg (by simp [hc]))

theorem count_skipBlanks {c : Char} (hc : isBlank c = false) (text : List Char) :
    (skipBlanks text).count c = text.count c := by
  refine apply_skipBlanks (List.count c) (fun d text hd => ?_) text
  exact List.count_cons_of_ne (ne_of_apply_ne isBlank (by simp [hd, hc]))

/-- The number of nodes that the tokens of a text are worth. -/
def nodesWritten (text : List Char) : Nat :=
  text.count '+' + text.count '/'
    + ((digitRuns text).map fun run => (Tree.ofCode (numeralValue run)).size).sum

section Tokens

variable (text : List Char)

theorem nodesWritten_cons_other {c : Char} (hplus : c ≠ '+') (hslash : c ≠ '/')
    (hdigit : isDigit c = false) : nodesWritten (c :: text) = nodesWritten text := by
  rw [nodesWritten, List.count_cons_of_ne hplus, List.count_cons_of_ne hslash,
    digitRuns_cons hdigit, nodesWritten]

theorem nodesWritten_cons_sign {c : Char} (hc : c = '+' ∨ c = '/') :
    nodesWritten (c :: text) = 1 + nodesWritten text := by
  obtain rfl | rfl := hc
  all_goals
    rw [nodesWritten, List.count_cons_self, List.count_cons_of_ne (by decide),
      digitRuns_cons (by decide), nodesWritten]
    omega

theorem nodesWritten_skipBlanks : nodesWritten (skipBlanks text) = nodesWritten text := by
  refine apply_skipBlanks nodesWritten (fun c text hc => ?_) text
  have hne {d : Char} (hd : isBlank d = false) : c ≠ d :=
    ne_of_apply_ne isBlank (by simp [hc, hd])
  exact nodesWritten_cons_other text (hne (by decide)) (hne (by decide))
    (isDigit_of_isBlank hc)

end Tokens

section Digits

variable {digits rest : List Char} (hdigits : ∀ c ∈ digits, isDigit c = true)
include hdigits

theorem count_digits_append {c : Char} (hc : isDigit c = false) :
    (digits ++ rest).count c = rest.count c := by
  have hnone : digits.count c = 0 :=
    List.count_eq_zero.mpr fun hmem => ne_of_isDigit (hdigits c hmem) hc rfl
  rw [List.count_append, hnone, Nat.zero_add]

theorem nodesWritten_digits_append (hne : digits ≠ [])
    (hrest : beginsWithDigit rest = false) :
    nodesWritten (digits ++ rest)
      = (Tree.ofCode (numeralValue digits)).size + nodesWritten rest := by
  rw [nodesWritten, count_digits_append hdigits (by decide),
    count_digits_append hdigits (by decide), digitRuns_append hne hdigits hrest,
    List.map_cons, List.sum_cons, nodesWritten]
  omega

end Digits

namespace Predictive.Reads

variable {text rest : List Char} {t : Tree}

/-- A reading takes from the text what the tree is worth in tokens. -/
theorem nodesWritten_eq (h : Reads text t rest) :
    nodesWritten text = t.size + nodesWritten rest := by
  induction h with
  | @bracket inside middle behind rest left right _ hclose _ ihLeft ihRight =>
    rw [nodesWritten_skipBlanks] at ihLeft ihRight
    have hmiddle := nodesWritten_skipBlanks middle
    rw [hclose, nodesWritten_cons_other behind (by decide) (by decide) (by decide)]
      at hmiddle
    rw [nodesWritten_cons_sign inside (.inr rfl), Tree.size]
    omega
  | plus _ _ ihLeft ihRight =>
    rw [nodesWritten_skipBlanks] at ihLeft ihRight
    rw [nodesWritten_cons_sign _ (.inl rfl), Tree.size]
    omega
  | number hne hdigits hrest => exact nodesWritten_digits_append hdigits hne hrest
  | dash rest =>
    rw [nodesWritten_cons_other rest (by decide) (by decide) (by decide), Tree.size,
      Nat.zero_add]
  | omitted => exact (Nat.zero_add _).symm

/-- A reading takes as many closing signs from the text as opening ones. -/
theorem count_closing_add (h : Reads text t rest) :
    text.count '\\' + rest.count '/' = text.count '/' + rest.count '\\' := by
  induction h with
  | @bracket inside middle behind rest left right _ hclose _ ihLeft ihRight =>
    have hopening : (skipBlanks middle).count '/' = behind.count '/' := by
      rw [hclose, count_opening_cons_closing]
    have hclosing : (skipBlanks middle).count '\\' = behind.count '\\' + 1 := by
      rw [hclose, List.count_cons_self]
    rw [count_skipBlanks (by decide)] at hopening hclosing
    rw [count_skipBlanks (by decide), count_skipBlanks (by decide)] at ihLeft ihRight
    rw [count_closing_cons_opening, List.count_cons_self]
    omega
  | plus _ _ ihLeft ihRight =>
    rw [count_skipBlanks (by decide), count_skipBlanks (by decide)] at ihLeft ihRight
    rw [List.count_cons_of_ne (by decide), List.count_cons_of_ne (by decide)]
    omega
  | number _ hdigits =>
    rw [count_digits_append hdigits (by decide), count_digits_append hdigits (by decide),
      Nat.add_comm]
  | dash rest =>
    rw [List.count_cons_of_ne (by decide), List.count_cons_of_ne (by decide),
      Nat.add_comm]
  | omitted => exact Nat.add_comm _ _

end Predictive.Reads

/-- The nodes of a tree that is parsed are those that the tokens of its text are
worth, whatever notations the text mixes: one for each `+`, one for each `/`,
and for each run of digits those of the tree whose code it is. Each `/` has its
`\\`. -/
theorem Tree.size_eq_of_parse? {text : List Char} {t : Tree}
    (h : Tree.parse? text = .ok t) :
    t.size = text.count '+' + text.count '/'
      + ((digitRuns text).map fun run => (Tree.ofCode (numeralValue run)).size).sum ∧
    text.count '\\' = text.count '/' := by
  have hreads := Predictive.parse?_eq_ok_iff.mp h
  exact ⟨hreads.nodesWritten_eq.symm, hreads.count_closing_add⟩

/-- A bracket behind a `+`, three numbers, and a zero in front of the last one. -/
theorem Tree.size_eq_of_parse?_threeNumbers :
    let text := ['+', '/', '1', '\\', ' ', '2', '\n', '0', '3']
    let t : Tree := .node (.node (.ofCode 1) (.ofCode 2)) (.ofCode 3)
    Tree.parse? text = .ok t ∧ t.size = 8 ∧ text.count '\\' = 1 := by
  intro text t
  have hone := @Predictive.Reads.number ['1'] ['\\', ' ', '2', '\n', '0', '3']
    (List.cons_ne_nil _ _) (List.all_eq_true.mp rfl) rfl
  have htwo := @Predictive.Reads.number ['2'] ['\n', '0', '3']
    (List.cons_ne_nil _ _) (List.all_eq_true.mp rfl) rfl
  have hthree := @Predictive.Reads.number ['0', '3'] []
    (List.cons_ne_nil _ _) (List.all_eq_true.mp rfl) rfl
  have hreads : Predictive.Reads text t [] := .plus (.bracket hone rfl htwo) hthree
  have hparsed := Predictive.parse?_eq_ok_iff.mpr hreads
  obtain ⟨hsize, hcount⟩ := Tree.size_eq_of_parse? hparsed
  have hruns : digitRuns text = [['1'], ['2'], ['0', '3']] := by decide
  let leaf : Tree := .node .empty .empty
  have hsizes : (Tree.ofCode 1).size = 1 ∧ (Tree.ofCode 2).size = 2 ∧
      (Tree.ofCode 3).size = 3 :=
    ⟨congrArg Tree.size leaf.ofCode_code,
      congrArg Tree.size (Tree.node .empty leaf).ofCode_code,
      congrArg Tree.size (Tree.node leaf leaf).ofCode_code⟩
  have hsum : ((digitRuns text).map fun run => (Tree.ofCode (numeralValue run)).size).sum
      = (Tree.ofCode 1).size + ((Tree.ofCode 2).size + ((Tree.ofCode 3).size + 0)) := by
    rw [hruns]
    rfl
  refine ⟨hparsed, ?_, hcount⟩
  rw [hsize, hsum, hsizes.1, hsizes.2.1, hsizes.2.2]
  rfl

end TreeCodec
