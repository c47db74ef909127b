import TreeCodec.Proofs.Code.Bijection
import TreeCodec.Proofs.Grammar.Predictive

/-!
The written forms of a tree: at every level prefix, bracket and decimal notation
may be mixed, with blanks between the parts as one likes. Every form is read
as the tree that it writes.

Within a longer text a form is read up to its end and no further. Its first
character is no blank, so skipping blanks stops where it begins. Only digits
could go on behind it, which is why two numbers in a row need a blank between
them, and why the induction asks the same of the text that follows.
-/

namespace TreeCodec

open Text Reference

def beginsWithDigit (text : List Char) : Bool :=
  text.head?.any isDigit

def endsInDigit (text : List Char) : Bool :=
  text.getLast?.any isDigit

/-- The text writes the tree, part by part in one of the notations that spell
out every empty tree. -/
inductive Tree.WrittenAs : Tree → List Char → Prop where
  | dash : WrittenAs .empty ['-']
  /-- The code of the tree, with zeros in front of it or without. -/
  | number {t : Tree} {digits : List Char} (hne : digits ≠ [])
    (hdigits : ∀ c ∈ digits, isDigit c = true)
    (hcode : numeralValue digits = t.code) : WrittenAs t digits
  | plus {left right : Tree} {before first between second : List Char}
    (hbefore : ∀ c ∈ before, isBlank c = true)
    (hbetween : ∀ c ∈ between, isBlank c = true)
    (hfirst : WrittenAs left first) (hsecond : WrittenAs right second)
    (hapart : endsInDigit first = true → beginsWithDigit second = true →
      between ≠ []) :
    WrittenAs (.node left right)
      ('+' :: (before ++ (first ++ (between ++ second))))
  | bracket {left right : Tree} {before first between after second : List Char}
    (hbefore : ∀ c ∈ before, isBlank c = true)
    (hbetween : ∀ c ∈ between, isBlank c = true)
    (hafter : ∀ c ∈ after, isBlank c = true)
    (hfirst : WrittenAs left first) (hsecond : WrittenAs right second) :
    WrittenAs (.node left right)
      ('/' :: (before ++ (first ++ (between ++ '\\' :: (after ++ second)))))

section Characters

theorem isBlank_of_isDigit {c : Char} (h : isDigit c = true) :
    isBlank c = false := by
  obtain ⟨hzero, hnine⟩ := (isDigit_iff c).mp h
  simp only [isBlank, inRanges, blankRanges, CharRange.contains, List.any_cons,
    List.any_nil, Bool.or_false, Bool.or_eq_false_iff, Bool.and_eq_false_iff,
    decide_eq_false_iff_not]
  omega

theorem isDigit_of_isBlank {c : Char} (h : isBlank c = true) :
    isDigit c = false := by
  cases hdigit : isDigit c with
  | false => rfl
  | true =>
    rw [isBlank_of_isDigit hdigit] at h
    cases h

theorem endsInDigit_append (text : List Char) {ending : List Char}
    (h : ending ≠ []) : endsInDigit (text ++ ending) = endsInDigit ending := by
  rw [endsInDigit, List.getLast?_append_of_ne_nil text h]
  rfl

theorem endsInDigit_of_forall {digits : List Char} (hne : digits ≠ [])
    (hdigits : ∀ c ∈ digits, isDigit c = true) : endsInDigit digits = true := by
  rw [endsInDigit, List.getLast?_eq_some_getLast hne]
  exact hdigits _ (List.getLast_mem hne)

/-- Behind blanks, text that begins with a digit is found only if there are
none. -/
theorem beginsWithDigit_blanks_append {blanks rest : List Char}
    (hblanks : ∀ c ∈ blanks, isBlank c = true)
    (hrest : blanks = [] → beginsWithDigit rest = false) :
    beginsWithDigit (blanks ++ rest) = false := by
  cases blanks with
  | nil => exact hrest rfl
  | cons c tail => exact isDigit_of_isBlank (hblanks c List.mem_cons_self)

theorem takeWhile_isDigit_append {digits rest : List Char}
    (hdigits : ∀ c ∈ digits, isDigit c = true)
    (hrest : beginsWithDigit rest = false) :
    (digits ++ rest).takeWhile isDigit = digits := by
  rw [List.takeWhile_append_of_pos hdigits]
  cases rest with
  | nil => exact List.append_nil digits
  | cons c tail =>
    have hc : ¬isDigit c = true := Bool.eq_false_iff.mp hrest
    rw [List.takeWhile_cons_of_neg hc, List.append_nil]

theorem dropWhile_isDigit_append {digits rest : List Char}
    (hdigits : ∀ c ∈ digits, isDigit c = true)
    (hrest : beginsWithDigit rest = false) :
    (digits ++ rest).dropWhile isDigit = rest := by
  rw [List.dropWhile_append_of_pos hdigits]
  cases rest with
  | nil => rfl
  | cons c tail => exact List.dropWhile_cons_of_neg (Bool.eq_false_iff.mp hrest)

theorem skipBlanks_blanks_append {blanks rest : List Char}
    (hblanks : ∀ c ∈ blanks, isBlank c = true) :
    skipBlanks (blanks ++ rest) = skipBlanks rest :=
  List.dropWhile_append_of_pos hblanks

end Characters

namespace Tree.WrittenAs

variable {t : Tree} {text : List Char}

theorem exists_cons (h : t.WrittenAs text) :
    ∃ c tail, text = c :: tail ∧ isBlank c = false := by
  cases h with
  | dash => exact ⟨'-', [], rfl, by decide⟩
  | number hne hdigits _ =>
    obtain ⟨c, tail, rfl⟩ := List.exists_cons_of_ne_nil hne
    exact ⟨c, tail, rfl, isBlank_of_isDigit (hdigits c List.mem_cons_self)⟩
  | plus => exact ⟨'+', _, rfl, by decide⟩
  | bracket => exact ⟨'/', _, rfl, by decide⟩

theorem ne_nil (h : t.WrittenAs text) : text ≠ [] := by
  obtain ⟨c, tail, rfl, -⟩ := h.exists_cons
  exact List.cons_ne_nil c tail

theorem beginsWithDigit_append (h : t.WrittenAs text) (rest : List Char) :
    beginsWithDigit (text ++ rest) = beginsWithDigit text := by
  obtain ⟨c, tail, rfl, -⟩ := h.exists_cons
  rfl

/-- Blanks are skipped up to where a form begins. -/
theorem skipBlanks_append (h : t.WrittenAs text) {blanks : List Char}
    (hblanks : ∀ c ∈ blanks, isBlank c = true) (rest : List Char) :
    skipBlanks (blanks ++ (text ++ rest)) = text ++ rest := by
  obtain ⟨c, tail, rfl, hc⟩ := h.exists_cons
  rw [skipBlanks_blanks_append hblanks]
  exact List.dropWhile_cons_of_neg (Bool.eq_false_iff.mp hc)

section Parts

variable {left right : Tree} {before first between after second rest : List Char}
  (hbefore : ∀ c ∈ before, isBlank c = true)
  (hbetween : ∀ c ∈ between, isBlank c = true)
  (hfirst : left.WrittenAs first) (hsecond : right.WrittenAs second)
include hbefore hbetween hfirst hsecond

/-- A prefix form is read if both parts are read up to their ends where they
stand. -/
theorem read_plus_append
    (hleft : Predictive.read (first ++ (between ++ (second ++ rest)))
      = some (left, between ++ (second ++ rest)))
    (hright : Predictive.read (second ++ rest) = some (right, rest)) :
    Predictive.read ('+' :: (before ++ (first ++ (between ++ second))) ++ rest)
      = some (.node left right, rest) := by
  simp only [List.cons_append, List.append_assoc]
  rw [← hfirst.skipBlanks_append hbefore] at hleft
  rw [← hsecond.skipBlanks_append hbetween] at hright
  rw [Predictive.read_plus]
  exact plus_of_parts hleft hright

theorem read_bracket_append (hafter : ∀ c ∈ after, isBlank c = true)
    (hleft : Predictive.read
        (first ++ (between ++ '\\' :: (after ++ (second ++ rest))))
      = some (left, between ++ '\\' :: (after ++ (second ++ rest))))
    (hright : Predictive.read (second ++ rest) = some (right, rest)) :
    Predictive.read
        ('/' :: (before ++ (first ++ (between ++ '\\' :: (after ++ second)))) ++ rest)
      = some (.node left right, rest) := by
  simp only [List.cons_append, List.append_assoc]
  have hclose : expect? '\\'
        (skipBlanks (between ++ '\\' :: (after ++ (second ++ rest))))
      = some (after ++ (second ++ rest)) := by
    rw [skipBlanks_blanks_append hbetween]
    rfl
  rw [← hfirst.skipBlanks_append hbefore] at hleft
  rw [← hsecond.skipBlanks_append hafter] at hright
  rw [Predictive.read_slash]
  exact bracket_of_parts hleft hclose hright

end Parts

/-- A form is read up to its end, unless both it and what follows have a digit
there. -/
theorem read_append (h : t.WrittenAs text) {rest : List Char}
    (hrest : endsInDigit text = true → beginsWithDigit rest = false) :
    Predictive.read (text ++ rest) = some (t, rest) := by
  induction h generalizing rest with
  | dash => exact Predictive.read_dash rest
  | @number t digits hne hdigits hcode =>
    have hbehind := hrest (endsInDigit_of_forall hne hdigits)
    have htake := takeWhile_isDigit_append hdigits hbehind
    have hdrop := dropWhile_isDigit_append hdigits hbehind
    obtain ⟨c, tail, rfl⟩ := List.exists_cons_of_ne_nil hne
    rw [List.cons_append] at htake hdrop ⊢
    rw [Predictive.read_digit (hdigits c List.mem_cons_self), htake, hdrop, hcode,
      Tree.ofCode_code]
  | @plus left right before first between second hbefore hbetween hfirst hsecond
      hapart ihFirst ihSecond =>
    have hends := endsInDigit_append ('+' :: (before ++ (first ++ between)))
      hsecond.ne_nil
    simp only [List.cons_append, List.append_assoc] at hends
    -- Behind the first part comes a blank, or else the second part at once.
    have hbehind : endsInDigit first = true →
        beginsWithDigit (between ++ (second ++ rest)) = false := by
      intro hdigit
      refine beginsWithDigit_blanks_append hbetween fun hnone => ?_
      rw [hsecond.beginsWithDigit_append]
      exact Bool.eq_false_iff.mpr fun hsame => hapart hdigit hsame hnone
    exact read_plus_append hbefore hbetween hfirst hsecond (ihFirst hbehind)
      (ihSecond fun hdigit => hrest (hends.trans hdigit))
  | @bracket left right before first between after second hbefore hbetween hafter
      hfirst hsecond ihFirst ihSecond =>
    have hends := endsInDigit_append
      ('/' :: (before ++ (first ++ (between ++ '\\' :: after)))) hsecond.ne_nil
    simp only [List.cons_append, List.append_assoc] at hends
    have hbehind : beginsWithDigit (between ++ '\\' :: (after ++ (second ++ rest)))
        = false :=
      beginsWithDigit_blanks_append hbetween fun _ => rfl
    exact read_bracket_append hbefore hbetween hfirst hsecond hafter
      (ihFirst fun _ => hbehind)
      (ihSecond fun hdigit => hrest (hends.trans hdigit))

end Tree.WrittenAs

/-- Every written form of a tree is parsed as that tree, whatever notations it
mixes and wherever it has blanks. -/
theorem Tree.parse?_of_writtenAs {t : Tree} {text : List Char}
    (h : t.WrittenAs text) : Tree.parse? text = .ok t := by
  have hread : Predictive.read (text ++ []) = some (t, []) :=
    h.read_append fun _ => rfl
  rw [List.append_nil] at hread
  exact Predictive.parse?_of_read_some hread

/-- All three notations, zeros in front of a number, and an em space that keeps
two numbers apart. -/
theorem Tree.parse?_of_writtenAs_mixed :
    let t : Tree := .node (.node .empty .empty) (.node (.ofCode 7) (.ofCode 3))
    let text := "/\t1\\\n+007\u20033".toList
    t.WrittenAs text ∧ Tree.parse? text = .ok t := by
  intro t text
  have hnumber (n : Nat) (digits : List Char) (hne : digits ≠ [])
      (hdigits : ∀ c ∈ digits, isDigit c = true) (hn : numeralValue digits = n) :
      (Tree.ofCode n).WrittenAs digits :=
    .number hne hdigits (hn.trans (Tree.code_ofCode n).symm)
  have hpair : (Tree.node .empty .empty).WrittenAs ['1'] :=
    .number (by decide) (List.all_eq_true.mp rfl) (by decide)
  have hseven := hnumber 7 ['0', '0', '7'] (by decide) (List.all_eq_true.mp rfl)
    (by decide)
  have hthree := hnumber 3 ['3'] (by decide) (List.all_eq_true.mp rfl) (by decide)
  have hplus := @WrittenAs.plus _ _ [] _ ['\u2003'] _ (List.all_eq_true.mp rfl)
    (List.all_eq_true.mp rfl) hseven hthree (by decide)
  have hform : t.WrittenAs text :=
    @WrittenAs.bracket _ _ ['\t'] _ [] ['\n'] _ (List.all_eq_true.mp rfl)
      (List.all_eq_true.mp rfl) (List.all_eq_true.mp rfl) hpair hplus
  exact ⟨hform, Tree.parse?_of_writtenAs hform⟩

end TreeCodec
