import TreeCodec.Proofs.Grammar.Derivation

/-!
Blanks mean nothing beyond keeping digits apart. Two texts that differ in one
run of blanks are followed side by side: the place of the difference stays in
front until blanks are skipped there, from where on the texts are the same. A
run of blanks that is taken out altogether needs a text that is parsed, since
no blanks are skipped in front of the first tree or behind the last one.
-/

namespace TreeCodec

open Text Reference

theorem endsInDigit_cons_of_ne_nil (c : Char) {text : List Char} (h : text ≠ []) :
    endsInDigit (c :: text) = endsInDigit text :=
  endsInDigit_append [c] h

theorem skipBlanks_append_of_eq_nil {text : List Char} (h : skipBlanks text = [])
    (rest : List Char) : skipBlanks (text ++ rest) = skipBlanks rest :=
  skipBlanks_blanks_append (List.dropWhile_eq_nil_iff.mp h)

theorem skipBlanks_append_of_ne_nil {text : List Char} (h : skipBlanks text ≠ [])
    (rest : List Char) : skipBlanks (text ++ rest) = skipBlanks text ++ rest := by
  have hrest : (text.dropWhile isBlank).isEmpty = false :=
    Bool.eq_false_iff.mpr (mt List.isEmpty_iff.mp h)
  simp [skipBlanks, List.dropWhile_append, hrest]

theorem endsInDigit_skipBlanks {text : List Char} (h : skipBlanks text ≠ []) :
    endsInDigit (skipBlanks text) = endsInDigit text := by
  have hsplit : text.takeWhile isBlank ++ skipBlanks text = text :=
    List.takeWhile_append_dropWhile
  rw [← endsInDigit_append (text.takeWhile isBlank) h, hsplit]

/-- The texts are the same, or they differ in a run of blanks at one place. The
run may be missing in the second text where it does not keep digits apart. -/
def Respaced (run run' after text text' : List Char) : Prop :=
  text = text' ∨ ∃ before, text = before ++ (run ++ after) ∧
    text' = before ++ (run' ++ after) ∧
    (run' = [] → endsInDigit before = true → beginsWithDigit after = false)

section Run

variable {run run' after : List Char} (hne : run ≠ [])
  (hrun : ∀ c ∈ run, isBlank c = true) (hrun' : ∀ c ∈ run', isBlank c = true)

include hrun hrun' in
theorem Respaced.skip {text text' : List Char}
    (h : Respaced run run' after text text') :
    Respaced run run' after (skipBlanks text) (skipBlanks text') := by
  obtain rfl | ⟨before, rfl, rfl, hapart⟩ := h
  · exact .inl rfl
  · by_cases hbefore : skipBlanks before = []
    · refine .inl ?_
      rw [skipBlanks_append_of_eq_nil hbefore, skipBlanks_append_of_eq_nil hbefore,
        skipBlanks_blanks_append hrun, skipBlanks_blanks_append hrun']
    · rw [skipBlanks_append_of_ne_nil hbefore, skipBlanks_append_of_ne_nil hbefore]
      refine .inr ⟨_, rfl, rfl, ?_⟩
      rwa [endsInDigit_skipBlanks hbefore]

include hne in
/-- Where the first text ends, the run is already passed. -/
theorem Respaced.eq_nil {text' : List Char} (h : Respaced run run' after [] text') :
    text' = [] := by
  obtain rfl | ⟨before, hbefore, -, -⟩ := h
  · rfl
  · have hnone := List.append_eq_nil_iff.mp hbefore.symm
    exact absurd (List.append_eq_nil_iff.mp hnone.2).1 hne

include hne hrun hrun'

theorem Respaced.keep {c : Char} {text text' : List Char} (hc : isBlank c = false)
    (h : Respaced run run' after (c :: text) text') :
    ∃ tail, text' = c :: tail ∧ Respaced run run' after text tail ∧
      (isDigit c = true → beginsWithDigit tail = beginsWithDigit text) := by
  obtain rfl | ⟨before, hbefore, rfl, hapart⟩ := h
  · exact ⟨text, rfl, .inl rfl, fun _ => rfl⟩
  · cases before with
    | nil =>
      -- The first text would begin with the run of blanks.
      obtain ⟨d, tail, rfl⟩ := List.exists_cons_of_ne_nil hne
      cases hbefore
      rw [hrun c List.mem_cons_self] at hc
      cases hc
    | cons d before =>
      cases hbefore
      cases before with
      | nil =>
        refine ⟨_, rfl, .inr ⟨[], rfl, rfl, fun _ hends => nomatch hends⟩, ?_⟩
        intro hdigit
        exact (beginsWithDigit_blanks_append hrun' fun hnone => hapart hnone hdigit).trans
          (beginsWithDigit_blanks_append hrun fun hnone => absurd hnone hne).symm
      | cons e before =>
        refine ⟨_, rfl, .inr ⟨e :: before, rfl, rfl, ?_⟩, fun _ => rfl⟩
        rwa [endsInDigit_cons_of_ne_nil c (List.cons_ne_nil e before)] at hapart

theorem Respaced.carries : Predictive.Carries (Respaced run run' after) where
  skip := Respaced.skip hrun hrun'
  keep := Respaced.keep hne hrun hrun'
  stop h c hc := by
    rw [Respaced.eq_nil hne h] at hc
    cases hc

/-- A run of blanks in a text that is parsed may become another one, or be left
out where it does not keep digits apart. -/
theorem Tree.parse?_respaced {before : List Char} {t : Tree}
    (hapart : run' = [] → endsInDigit before = true → beginsWithDigit after = false)
    (h : Tree.parse? (before ++ run ++ after) = .ok t) :
    Tree.parse? (before ++ run' ++ after) = .ok t := by
  rw [List.append_assoc] at h ⊢
  have hreads := Predictive.parse?_eq_ok_iff.mp h
  have hcarries : Predictive.Carries (Respaced run run' after) :=
    Respaced.carries hne hrun hrun'
  obtain ⟨rest', hreads', hrest'⟩ := hcarries.reads hreads hreads.isBlank_of_head?
    (.inr ⟨before, rfl, rfl, hapart⟩)
  rw [Respaced.eq_nil hne hrest'] at hreads'
  exact Predictive.parse?_eq_ok_iff.mpr hreads'

end Run

/-- Blanks that do not keep digits apart may be left out of a text that is
parsed. -/
theorem Tree.parse?_without_blanks {before run after : List Char} {t : Tree}
    (hrun : ∀ c ∈ run, isBlank c = true)
    (hapart : endsInDigit before = true → beginsWithDigit after = false)
    (h : Tree.parse? (before ++ run ++ after) = .ok t) :
    Tree.parse? (before ++ after) = .ok t := by
  by_cases hne : run = []
  · rwa [hne, List.append_nil] at h
  · have hnone : ∀ c ∈ ([] : List Char), isBlank c = true := fun _ hc => nomatch hc
    have hparsed := Tree.parse?_respaced hne hrun hnone (fun _ => hapart) h
    rwa [List.append_nil] at hparsed

/-- In any text, a run of blanks, be it as long as possible or a part of a
longer one, may become any other run of blanks without a change to what the
text is parsed as, or to its being refused. Out of a text that is parsed it may
also be taken altogether, unless a digit stands on both sides of it: what is
left is parsed as the same tree. -/
theorem Tree.parse?_blanks_exact (before after : List Char) {run : List Char}
    (hne : run ≠ []) (hrun : ∀ c ∈ run, isBlank c = true) :
    (∀ run' : List Char, run' ≠ [] → (∀ c ∈ run', isBlank c = true) →
      Tree.parse? (before ++ run' ++ after)
        = Tree.parse? (before ++ run ++ after)) ∧
    ∀ t, Tree.parse? (before ++ run ++ after) = .ok t →
      ¬(endsInDigit before = true ∧ beginsWithDigit after = true) →
      Tree.parse? (before ++ after) = .ok t := by
  constructor
  · intro run' hne' hrun'
    apply Tree.parse?_eq_of_iff
    intro t
    constructor
    · exact Tree.parse?_respaced hne' hrun' hrun fun hnone => absurd hnone hne
    · exact Tree.parse?_respaced hne hrun hrun' fun hnone => absurd hnone hne'
  · intro t h hapart
    refine Tree.parse?_without_blanks hrun (fun hends => ?_) h
    exact Bool.eq_false_iff.mpr fun hbegins => hapart ⟨hends, hbegins⟩

/-- The blank between the two numbers may become a line end, and the one in
front of them may go. -/
theorem Tree.parse?_blanks_exact_twoNumbers :
    let t : Tree := .node (.ofCode 1) (.ofCode 2)
    Tree.parse? ['+', ' ', '1', '\u2003', '2'] = .ok t ∧
    Tree.parse? ['+', ' ', '1', '\r', '\n', '2'] = .ok t ∧
    Tree.parse? ['+', '1', '\u2003', '2'] = .ok t := by
  intro t
  have hfirst := @Predictive.Reads.number ['1'] ['\u2003', '2'] (List.cons_ne_nil _ _)
    (List.all_eq_true.mp rfl) rfl
  have hsecond := @Predictive.Reads.number ['2'] [] (List.cons_ne_nil _ _)
    (List.all_eq_true.mp rfl) rfl
  have hreads : Predictive.Reads ['+', ' ', '1', '\u2003', '2'] t [] :=
    .plus hfirst hsecond
  have hparsed := Predictive.parse?_eq_ok_iff.mpr hreads
  obtain ⟨hreplaced, -⟩ :=
    @Tree.parse?_blanks_exact ['+', ' ', '1'] ['2'] ['\u2003'] (List.cons_ne_nil _ _)
      (List.all_eq_true.mp rfl)
  obtain ⟨-, htaken⟩ :=
    @Tree.parse?_blanks_exact ['+'] ['1', '\u2003', '2'] [' '] (List.cons_ne_nil _ _)
      (List.all_eq_true.mp rfl)
  have hlineEnd := hreplaced ['\r', '\n'] (List.cons_ne_nil _ _)
    (List.all_eq_true.mp rfl)
  exact ⟨hparsed, hlineEnd.trans hparsed, htaken t hparsed (by decide)⟩

end TreeCodec
