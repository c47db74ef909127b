import TreeCodec.Proofs.Grammar.Spacing

/-!
Texts that are parsed on their own stay whole between the signs of a bracket.
What a text leaves open at its end, an omitted tree, blanks in front of one or
a run of digits, is closed by a `\` as it is by the end of the text, and blanks
in front of the `\` are skipped either way.
-/

namespace TreeCodec

open Text Reference

/-- The second text goes on behind the first one, unless the first one has come
to its end and blanks were skipped there. -/
def Continued (continuation text text' : List Char) : Prop :=
  text' = text ++ continuation ∨ text = [] ∧ text' = skipBlanks continuation

section Closing

variable {continuation behind : List Char}
  (hclose : skipBlanks continuation = '\\' :: behind)

theorem Continued.skip {text text' : List Char}
    (h : Continued continuation text text') :
    Continued continuation (skipBlanks text) (skipBlanks text') := by
  obtain rfl | ⟨rfl, rfl⟩ := h
  · by_cases htext : skipBlanks text = []
    · exact .inr ⟨htext, skipBlanks_append_of_eq_nil htext continuation⟩
    · exact .inl (skipBlanks_append_of_ne_nil htext continuation)
  · exact .inr ⟨rfl, Predictive.skipBlanks_skipBlanks _⟩

include hclose

/-- Neither a blank nor the closing sign begins a tree. -/
theorem not_beginsTree_of_closing :
    ∀ c ∈ continuation.head?, beginsTree c = false := by
  intro c hc
  obtain ⟨tail, rfl⟩ := List.head?_eq_some_iff.mp hc
  cases hbegins : beginsTree c with
  | false => rfl
  | true =>
    have hblank := Predictive.isBlank_of_beginsTree hbegins
    rw [skipBlanks, List.dropWhile_cons_of_neg (Bool.eq_false_iff.mp hblank)] at hclose
    cases hclose
    exact absurd hbegins (by decide)

theorem Continued.keep {c : Char} {text text' : List Char}
    (h : Continued continuation (c :: text) text') :
    ∃ tail, text' = c :: tail ∧ Continued continuation text tail ∧
      (isDigit c = true → beginsWithDigit tail = beginsWithDigit text) := by
  obtain rfl | ⟨hnil, -⟩ := h
  · refine ⟨text ++ continuation, rfl, .inl rfl, fun _ => ?_⟩
    cases text with
    | nil =>
      exact Predictive.beginsWithDigit_of_not_beginsTree (not_beginsTree_of_closing hclose)
    | cons d tail => rfl
  · cases hnil

theorem Continued.stop {text' : List Char} (h : Continued continuation [] text') :
    ∀ c ∈ text'.head?, beginsTree c = false := by
  obtain rfl | ⟨-, rfl⟩ := h
  · exact not_beginsTree_of_closing hclose
  · rw [hclose]
    intro c hc
    cases hc
    decide

theorem Continued.carries : Predictive.Carries (Continued continuation) where
  skip := Continued.skip
  keep _ := Continued.keep hclose
  stop := Continued.stop hclose

end Closing

theorem Continued.skipBlanks_eq {continuation text' : List Char}
    (h : Continued continuation [] text') :
    skipBlanks text' = skipBlanks continuation := by
  obtain rfl | ⟨-, rfl⟩ := h
  · rfl
  · exact Predictive.skipBlanks_skipBlanks _

/-- Any two texts that are parsed can be put between the signs of a bracket,
with blanks in front of the first one, of the `\` and of the second one or
without. The result is parsed as the node of their trees, whatever notations
the texts mix and whatever trees they leave out at their ends. -/
theorem Tree.parse?_bracket_composed {before first between after second : List Char}
    {left right : Tree} (hbefore : ∀ c ∈ before, isBlank c = true)
    (hbetween : ∀ c ∈ between, isBlank c = true)
    (hafter : ∀ c ∈ after, isBlank c = true)
    (hfirst : Tree.parse? first = .ok left)
    (hsecond : Tree.parse? second = .ok right) :
    Tree.parse? ('/' :: (before ++ first ++ between ++ '\\' :: (after ++ second)))
      = .ok (.node left right) := by
  rw [Predictive.parse?_eq_ok_iff] at hfirst hsecond ⊢
  have hclose : skipBlanks (between ++ '\\' :: (after ++ second))
      = '\\' :: (after ++ second) := by
    rw [skipBlanks_blanks_append hbetween]
    rfl
  have hcarries := Continued.carries hclose
  have hinside := hcarries.skip (.inl rfl : Continued _ first _)
  rw [Predictive.skipBlanks_eq_self hfirst.isBlank_of_head?] at hinside
  obtain ⟨middle, hleft, hmiddle⟩ :=
    hcarries.reads hfirst hfirst.isBlank_of_head? hinside
  have hright : Predictive.Reads (skipBlanks (after ++ second)) right [] := by
    rw [skipBlanks_blanks_append hafter,
      Predictive.skipBlanks_eq_self hsecond.isBlank_of_head?]
    exact hsecond
  rw [← skipBlanks_blanks_append hbefore, ← List.append_assoc,
    ← List.append_assoc] at hleft
  exact .bracket hleft (hmiddle.skipBlanks_eq.trans hclose) hright

/-- The first text ends with a blank and an omitted tree, the second one with an
omitted tree. -/
theorem Tree.parse?_bracket_composed_omitted :
    Tree.parse? ['+', '-', '\t'] = .ok (.node .empty .empty) ∧
    Tree.parse? ['/', '1', '\\'] = .ok (.node (.ofCode 1) .empty) ∧
    Tree.parse?
        ['/', '\n', '+', '-', '\t', '\u3000', '\\', '/', '1', '\\']
      = .ok (.node (.node .empty .empty) (.node (.ofCode 1) .empty)) := by
  have homitted : Predictive.Reads [] .empty [] := .omitted fun c hc => nomatch hc
  have hone := @Predictive.Reads.number ['1'] ['\\'] (List.cons_ne_nil _ _)
    (List.all_eq_true.mp rfl) rfl
  have hfirst : Tree.parse? ['+', '-', '\t'] = .ok (.node .empty .empty) :=
    Predictive.parse?_eq_ok_iff.mpr (.plus (.dash ['\t']) homitted)
  have hsecond : Tree.parse? ['/', '1', '\\'] = .ok (.node (.ofCode 1) .empty) :=
    Predictive.parse?_eq_ok_iff.mpr (.bracket hone rfl homitted)
  have hcomposed := @Tree.parse?_bracket_composed ['\n'] _ ['\u3000'] [] _ _ _
    (List.all_eq_true.mp rfl) (List.all_eq_true.mp rfl) (List.all_eq_true.mp rfl)
    hfirst hsecond
  exact ⟨hfirst, hsecond, hcomposed⟩

end TreeCodec
