import TreeCodec.Proofs.Format.Notation
import TreeCodec.Proofs.Grammar.Derivation

/-!
The texts over `+` and `-` that are parsed. A text that stops early leaves out
the trees behind it, at every level that is still open, and each of them is
read as the empty tree: with dashes in their place the text is the prefix text
of the tree. A text that goes on behind a complete prefix text is never parsed.
-/

namespace TreeCodec

open Text Reference

theorem Tree.prefixText_ne_nil (t : Tree) : t.prefixText ≠ [] := by
  cases t <;> exact List.cons_ne_nil _ _

section Signs

variable {text rest : List Char} {t : Tree}

theorem beginsTree_of_plus_dash {c : Char} (h : c = '+' ∨ c = '-') :
    beginsTree c = true ∧ isDigit c = false := by
  obtain rfl | rfl := h <;> decide

theorem skipBlanks_of_plus_dash (h : ∀ c ∈ text, c = '+' ∨ c = '-') :
    skipBlanks text = text := by
  refine Predictive.skipBlanks_eq_self fun c hc => ?_
  obtain ⟨hbegins, -⟩ := beginsTree_of_plus_dash (h c (List.mem_of_head? hc))
  exact Predictive.isBlank_of_beginsTree hbegins

/-- What is read of a text over the two signs is the prefix text of the tree,
or it is all of the text and lacks some dashes. The trees that are left out
stand behind each other, so their dashes do too. -/
theorem Predictive.Reads.prefixText_append_or (h : Reads text t rest)
    (hsigns : ∀ c ∈ text, c = '+' ∨ c = '-') :
    text = t.prefixText ++ rest ∨
      rest = [] ∧ ∃ count, t.prefixText = text ++ List.replicate count '-' := by
  induction h with
  | bracket =>
    have hslash := hsigns '/' List.mem_cons_self
    exact absurd hslash (by decide)
  | @plus inside middle rest left right _ _ ihLeft ihRight =>
    have hinside := (List.forall_mem_cons.mp hsigns).2
    rw [skipBlanks_of_plus_dash hinside] at ihLeft
    obtain rfl | ⟨rfl, missing, hleft⟩ := ihLeft hinside
    · have hmiddle := (List.forall_mem_append.mp hinside).2
      rw [skipBlanks_of_plus_dash hmiddle] at ihRight
      obtain rfl | ⟨rfl, missing, hright⟩ := ihRight hmiddle
      · refine .inl ?_
        rw [Tree.prefixText, List.cons_append, List.append_assoc]
      · refine .inr ⟨rfl, missing, ?_⟩
        rw [Tree.prefixText, hright, List.cons_append, List.append_assoc]
    · -- The left tree has come to the end, so all of the right one is left out.
      obtain hright | ⟨rfl, missing', hright⟩ := ihRight (List.forall_mem_nil _)
      · exact absurd (List.append_eq_nil_iff.mp hright.symm).1 right.prefixText_ne_nil
      · refine .inr ⟨rfl, missing + missing', ?_⟩
        have hdashes : right.prefixText = List.replicate missing' '-' := hright
        rw [Tree.prefixText, hleft, hdashes, List.replicate_add, List.cons_append,
          List.append_assoc]
  | @number digits rest hne hdigits =>
    obtain ⟨c, tail, rfl⟩ := List.exists_cons_of_ne_nil hne
    obtain ⟨-, hdigit⟩ := beginsTree_of_plus_dash (hsigns c List.mem_cons_self)
    rw [hdigits c List.mem_cons_self] at hdigit
    cases hdigit
  | dash rest => exact .inl rfl
  | @omitted text hother =>
    cases text with
    | nil => exact .inr ⟨rfl, 1, rfl⟩
    | cons c tail =>
      obtain ⟨hbegins, -⟩ := beginsTree_of_plus_dash (hsigns c List.mem_cons_self)
      rw [hother c rfl] at hbegins
      cases hbegins

/-- A text that dashes complete to the prefix text of a tree is read as that
tree. By induction on the tree: the dashes begin behind its left subtree or
inside it. -/
theorem Predictive.reads_of_prefixText_eq {count : Nat}
    (h : t.prefixText = text ++ List.replicate count '-') : Reads text t [] := by
  have hsigns (c : Char) (hc : c ∈ text) : c = '+' ∨ c = '-' := by
    have hmem : c ∈ t.prefixText := h ▸ List.mem_append_left _ hc
    exact Tree.mem_prefixText hmem
  induction t generalizing text count with
  | empty =>
    obtain ⟨rfl, -⟩ | ⟨tail, rfl, htail⟩ := List.cons_eq_append_iff.mp h
    · exact .omitted fun c hc => nomatch hc
    · obtain ⟨rfl, -⟩ := List.append_eq_nil_iff.mp htail.symm
      exact .dash []
  | node left right ihl ihr =>
    obtain ⟨rfl, hdashes⟩ | ⟨inside, rfl, hinside⟩ := List.cons_eq_append_iff.mp h
    · have hplus : '+' ∈ List.replicate count '-' := hdashes ▸ List.mem_cons_self
      exact absurd (List.eq_of_mem_replicate hplus) (by decide)
    · have hsignsInside := (List.forall_mem_cons.mp hsigns).2
      obtain ⟨middle, rfl, hright⟩ | ⟨missing, hleft, hdashes⟩ :=
        List.append_eq_append_iff.mp hinside
      · have hmiddle := (List.forall_mem_append.mp hsignsInside).2
        have hreadLeft := reads_of_read (read_prefixText left middle)
        have hreadRight := ihr hright hmiddle
        rw [← skipBlanks_of_plus_dash hsignsInside] at hreadLeft
        rw [← skipBlanks_of_plus_dash hmiddle] at hreadRight
        exact .plus hreadLeft hreadRight
      · obtain ⟨-, hmissing, hright⟩ := List.replicate_eq_append_iff.mp hdashes
        rw [hmissing] at hleft
        have hreadLeft := ihl hleft hsignsInside
        have hreadRight : Reads [] right [] := ihr hright (List.forall_mem_nil _)
        rw [← skipBlanks_of_plus_dash hsignsInside] at hreadLeft
        exact .plus hreadLeft hreadRight

theorem parse?_plus_dash_iff (hsigns : ∀ c ∈ text, c = '+' ∨ c = '-') :
    Tree.parse? text = .ok t ↔
      ∃ count, t.prefixText = text ++ List.replicate count '-' := by
  rw [Predictive.parse?_eq_ok_iff]
  constructor
  · intro h
    obtain htext | ⟨-, hcompleted⟩ := h.prefixText_append_or hsigns
    · refine ⟨0, ?_⟩
      rw [htext, List.append_nil, List.replicate_zero, List.append_nil]
    · exact hcompleted
  · rintro ⟨count, h⟩
    exact Predictive.reads_of_prefixText_eq h

/-- Every beginning of a prefix text can be completed by dashes alone: the
subtree that it stops in by induction, a subtree behind that one by a dash. -/
theorem exists_completed_of_isPrefix (h : text <+: t.prefixText) :
    ∃ u : Tree, ∃ count, u.prefixText = text ++ List.replicate count '-' := by
  induction t generalizing text with
  | empty =>
    obtain rfl | ⟨tail, rfl, htail⟩ := List.prefix_cons_iff.mp h
    · exact ⟨.empty, 1, rfl⟩
    · obtain rfl := List.prefix_nil.mp htail
      exact ⟨.empty, 0, rfl⟩
  | node left right ihl ihr =>
    obtain rfl | ⟨inside, rfl, behind, hinside⟩ := List.prefix_cons_iff.mp h
    · exact ⟨.empty, 1, rfl⟩
    · obtain ⟨missing, hleft, -⟩ | ⟨middle, rfl, hright⟩ :=
        List.append_eq_append_iff.mp hinside
      · obtain ⟨u, count, hu⟩ := ihl ⟨missing, hleft.symm⟩
        refine ⟨.node u .empty, count + 1, ?_⟩
        rw [Tree.prefixText, hu, Tree.prefixText, List.replicate_succ',
          List.cons_append, List.append_assoc]
      · obtain ⟨u, count, hu⟩ := ihr ⟨behind, hright.symm⟩
        refine ⟨.node left u, count, ?_⟩
        rw [Tree.prefixText, hu, List.cons_append, List.append_assoc]

/-- A text over `+` and `-` is parsed as a tree exactly if it becomes the prefix
text of the tree by dashes behind it, be it none. So the texts that are accepted
are the beginnings of prefix texts. A text that goes on behind the prefix text
of a tree is not among them. -/
theorem Tree.parse?_completed_exact (hsigns : ∀ c ∈ text, c = '+' ∨ c = '-') :
    (∀ t : Tree, Tree.parse? text = .ok t ↔
      ∃ count, t.prefixText = text ++ List.replicate count '-') ∧
    ((∃ t, Tree.parse? text = .ok t) ↔ ∃ t : Tree, text <+: t.prefixText) ∧
    ∀ t : Tree, t.prefixText <+: text → t.prefixText ≠ text →
      Tree.parse? text = .error .notOneTree := by
  refine ⟨fun t => parse?_plus_dash_iff hsigns, ?_, ?_⟩
  · simp only [parse?_plus_dash_iff hsigns]
    constructor
    · rintro ⟨t, count, h⟩
      exact ⟨t, _, h.symm⟩
    · rintro ⟨t, h⟩
      exact exists_completed_of_isPrefix h
  · rintro t ⟨rest, rfl⟩ hne
    have hrest : rest ≠ [] := by
      rintro rfl
      exact hne (List.append_nil _).symm
    rw [Predictive.parse?_of_read_some (Predictive.read_prefixText t rest),
      if_neg hrest]

/-- Three trees are left out at two open levels. A fourth dash is one too many. -/
theorem Tree.parse?_completed_exact_twoLevels :
    Tree.parse? ['+', '+'] = .ok (.node (.node .empty .empty) .empty) ∧
    Tree.parse? ['+', '+', '-', '-', '-', '-'] = .error .notOneTree := by
  obtain ⟨hparsed, -, -⟩ := @Tree.parse?_completed_exact ['+', '+'] (by simp)
  obtain ⟨-, -, hrefused⟩ :=
    @Tree.parse?_completed_exact ['+', '+', '-', '-', '-', '-'] (by simp)
  refine ⟨(hparsed _).mpr ⟨3, rfl⟩, ?_⟩
  exact hrefused (.node (.node .empty .empty) .empty) ⟨['-'], rfl⟩ (by decide)

end Signs

end TreeCodec
