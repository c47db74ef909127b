import TreeCodec.Proofs.Format.Notation
import TreeCodec.Proofs.Grammar.Derivation

/-!
The texts over the signs of one notation that are parsed, and as which tree. Of
the texts over `/` and `\` these are the bracket texts of trees, which are the
balanced ones; a number is parsed as the tree whose code it is, with zeros in
front of it or without.

What begins with the bracket text of a tree goes on with a `\` that nothing has
opened, or ends. A text over the two signs that does not begin so has an opening
sign too many.
-/

namespace TreeCodec

open Text Reference

/-- Both signs occur equally often, and from the beginning up to any place there
are no more closing signs than opening ones. -/
structure Balanced (text : List Char) : Prop where
  count_eq : text.count '\\' = text.count '/'
  count_take_le (n : Nat) : (text.take n).count '\\' ≤ (text.take n).count '/'

section Signs

theorem count_closing_cons_opening (text : List Char) :
    ('/' :: text).count '\\' = text.count '\\' :=
  List.count_cons_of_ne (by decide)

theorem count_opening_cons_closing (text : List Char) :
    ('\\' :: text).count '/' = text.count '/' :=
  List.count_cons_of_ne (by decide)

variable {text rest : List Char} {t : Tree}

theorem skipBlanks_of_signs (h : ∀ c ∈ text, c = '/' ∨ c = '\\') :
    skipBlanks text = text := by
  refine Predictive.skipBlanks_eq_self fun c hc => ?_
  obtain rfl | rfl := h c (List.mem_of_head? hc) <;> decide

/-- What is read of a text over the two signs is the bracket text of the tree. -/
theorem Predictive.Reads.eq_bracketText_append (h : Reads text t rest)
    (hsigns : ∀ c ∈ text, c = '/' ∨ c = '\\') : text = t.bracketText ++ rest := by
  induction h with
  | @bracket inside middle behind rest left right _ hclose _ ihLeft ihRight =>
    have hinside := (List.forall_mem_cons.mp hsigns).2
    rw [skipBlanks_of_signs hinside] at ihLeft
    obtain rfl := ihLeft hinside
    have hmiddle := (List.forall_mem_append.mp hinside).2
    rw [skipBlanks_of_signs hmiddle] at hclose
    subst hclose
    have hbehind := (List.forall_mem_cons.mp hmiddle).2
    rw [skipBlanks_of_signs hbehind] at ihRight
    rw [Tree.bracketText, List.cons_append, List.append_assoc, List.cons_append,
      ← ihRight hbehind]
  | plus =>
    have hplus := hsigns '+' List.mem_cons_self
    exact absurd hplus (by decide)
  | @number digits rest hne hdigits =>
    obtain ⟨c, tail, rfl⟩ := List.exists_cons_of_ne_nil hne
    have hdigit := hdigits c List.mem_cons_self
    obtain rfl | rfl := hsigns c List.mem_cons_self
    · exact absurd hdigit (by decide)
    · exact absurd hdigit (by decide)
  | dash =>
    have hdash := hsigns '-' List.mem_cons_self
    exact absurd hdash (by decide)
  | omitted => rfl

theorem parse?_signs_iff (hsigns : ∀ c ∈ text, c = '/' ∨ c = '\\') :
    Tree.parse? text = .ok t ↔ t.bracketText = text := by
  constructor
  · intro h
    have hreads := Predictive.parse?_eq_ok_iff.mp h
    rw [hreads.eq_bracketText_append hsigns, List.append_nil]
  · rintro rfl
    exact t.parse?_bracketText

theorem balanced_bracketText (t : Tree) : Balanced t.bracketText := by
  induction t with
  | empty => exact ⟨rfl, fun n => by simp [Tree.bracketText]⟩
  | node left right ihl ihr =>
    constructor
    · have hleft := ihl.count_eq
      have hright := ihr.count_eq
      simp only [Tree.bracketText, count_closing_cons_opening,
        count_opening_cons_closing, List.count_cons_self, List.count_append]
      omega
    · intro n
      cases n with
      | zero => exact le_rfl
      | succ n =>
        have hleft := ihl.count_take_le n
        rw [Tree.bracketText, List.take_succ_cons, List.take_append,
          count_closing_cons_opening, List.count_cons_self, List.count_append,
          List.count_append]
        cases hbehind : n - left.bracketText.length with
        | zero =>
          rw [List.take_zero, List.count_nil, List.count_nil]
          omega
        | succ k =>
          have hright := ihr.count_take_le k
          rw [List.take_succ_cons, List.count_cons_self, count_opening_cons_closing]
          omega

/-- A text over the two signs begins with the bracket text of a tree, and is
closed behind it, or has more opening signs than closing ones. -/
theorem exists_bracketText_append_or (hsigns : ∀ c ∈ text, c = '/' ∨ c = '\\') :
    (∃ t rest, text = Tree.bracketText t ++ rest ∧ Predictive.Closes rest) ∨
      text.count '\\' < text.count '/' := by
  induction hn : text.length using Nat.strongRecOn generalizing text with
  | ind n ih =>
    subst hn
    cases text with
    | nil => exact .inl ⟨.empty, [], rfl, .inl rfl⟩
    | cons c inside =>
      obtain ⟨rfl | rfl, hinside⟩ := List.forall_mem_cons.mp hsigns
      · obtain ⟨left, middle, rfl, rfl | hmiddle⟩ | hopen :=
          ih _ (Nat.lt_succ_self _) hinside rfl
        · -- The bracket is not closed.
          have hleft := (balanced_bracketText left).count_eq
          refine .inr ?_
          rw [List.append_nil, count_closing_cons_opening, List.count_cons_self]
          omega
        · obtain ⟨behind, rfl⟩ := List.head?_eq_some_iff.mp hmiddle
          have hleft := (balanced_bracketText left).count_eq
          have hbehind :=
            (List.forall_mem_cons.mp (List.forall_mem_append.mp hinside).2).2
          obtain ⟨right, rest, rfl, hrest⟩ | hopen :=
            ih behind.length (by simp; omega) hbehind rfl
          · refine .inl ⟨.node left right, rest, ?_, hrest⟩
            rw [Tree.bracketText, List.cons_append, List.append_assoc,
              List.cons_append]
          · refine .inr ?_
            simp only [count_closing_cons_opening, count_opening_cons_closing,
              List.count_cons_self, List.count_append]
            omega
        · refine .inr ?_
          rw [count_closing_cons_opening, List.count_cons_self]
          omega
      · exact .inl ⟨.empty, '\\' :: inside, rfl, .inr rfl⟩

theorem exists_bracketText_iff_balanced (hsigns : ∀ c ∈ text, c = '/' ∨ c = '\\') :
    (∃ t : Tree, t.bracketText = text) ↔ Balanced text := by
  constructor
  · rintro ⟨t, rfl⟩
    exact balanced_bracketText t
  · intro h
    obtain ⟨t, rest, rfl, rfl | hrest⟩ | hopen := exists_bracketText_append_or hsigns
    · exact ⟨t, (List.append_nil _).symm⟩
    · -- The first sign behind the bracket text of the tree closes nothing.
      obtain ⟨tail, rfl⟩ := List.head?_eq_some_iff.mp hrest
      have hlength := h.count_take_le (t.bracketText.length + 1)
      have hcount := (balanced_bracketText t).count_eq
      rw [List.take_append, List.take_of_length_le (Nat.le_succ _),
        Nat.add_sub_cancel_left, List.take_succ_cons, List.take_zero,
        List.count_append, List.count_append, List.count_cons_self,
        count_opening_cons_closing, List.count_nil, List.count_nil] at hlength
      omega
    · exact absurd h.count_eq hopen.ne

end Signs

theorem reads_digits {digits : List Char} (hne : digits ≠ [])
    (hdigits : ∀ c ∈ digits, isDigit c = true) :
    Predictive.Reads digits (.ofCode (numeralValue digits)) [] := by
  have hreads := @Predictive.Reads.number digits [] hne hdigits rfl
  rwa [List.append_nil] at hreads

theorem parse?_digits_iff {digits : List Char} (hne : digits ≠ [])
    (hdigits : ∀ c ∈ digits, isDigit c = true) {t : Tree} :
    Tree.parse? digits = .ok t ↔ t.decimalText = significantDigits digits := by
  rw [Predictive.parse?_eq_ok_iff.mpr (reads_digits hne hdigits), Tree.decimalText,
    ← numeral_numeralValue hdigits]
  constructor
  · rintro ⟨⟩
    rw [Tree.code_ofCode]
  · intro h
    have hcode := congrArg numeralValue h
    rw [numeralValue_numeral, numeralValue_numeral] at hcode
    rw [← hcode, Tree.ofCode_code]

/-- The parser accepts of the texts over `/` and `\` the bracket texts of trees,
each as its tree, and these are the balanced ones. Every number is parsed, and
as the tree whose decimal text it is without the zeros in front of it. -/
theorem Tree.parse?_notations_exact :
    (∀ text : List Char, (∀ c ∈ text, c = '/' ∨ c = '\\') →
      (∀ t, Tree.parse? text = .ok t ↔ t.bracketText = text) ∧
        ((∃ t, Tree.parse? text = .ok t) ↔ Balanced text)) ∧
    ∀ digits : List Char, digits ≠ [] → (∀ c ∈ digits, isDigit c = true) →
      (∃ t, Tree.parse? digits = .ok t) ∧
        ∀ t, Tree.parse? digits = .ok t ↔
          t.decimalText = significantDigits digits := by
  constructor
  · intro text hsigns
    refine ⟨fun t => parse?_signs_iff hsigns, ?_⟩
    simp only [parse?_signs_iff hsigns]
    exact exists_bracketText_iff_balanced hsigns
  · intro digits hne hdigits
    refine ⟨?_, fun t => parse?_digits_iff hne hdigits⟩
    exact ⟨_, Predictive.parse?_eq_ok_iff.mpr (reads_digits hne hdigits)⟩

/-- A bracket that is not closed, and a number with zeros in front and behind. -/
theorem Tree.parse?_notations_exact_unclosed :
    (∀ t, Tree.parse? ['/', '/', '\\'] ≠ .ok t) ∧
    ∃ t, Tree.parse? ['0', '0', '7', '0'] = .ok t ∧ t.decimalText = ['7', '0'] := by
  obtain ⟨hsigns, hnumbers⟩ := Tree.parse?_notations_exact
  obtain ⟨-, hbalanced⟩ := hsigns ['/', '/', '\\'] (by simp)
  obtain ⟨⟨t, ht⟩, hiff⟩ := hnumbers ['0', '0', '7', '0'] (List.cons_ne_nil _ _)
    (List.all_eq_true.mp rfl)
  refine ⟨fun u hu => ?_, t, ht, (hiff t).mp ht⟩
  exact absurd (hbalanced.mp ⟨u, hu⟩).count_eq (by decide)

end TreeCodec
