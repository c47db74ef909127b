import TreeCodec.Proofs.Grammar.WrittenForm

/-!
Readings as derivations: one constructor for each kind of first character, with
the readings of the parts below it. The texts that are parsed are those with a
derivation that leaves nothing, so what holds of all of them is shown by
induction on the derivation, without regard to how the text was decided.

A relation between texts that is kept character by character carries a
derivation on one of them over to the other. `Carries` lists what a relation
owes for that; the induction is done once.
-/

namespace TreeCodec

open Text Reference

theorem ParseFailure.eq_notOneTree (failure : ParseFailure) :
    failure = .notOneTree := by
  cases failure
  rfl

/-- With one kind of failure, a parse is known by the trees it may give. -/
theorem Tree.parse?_eq_of_iff {text text' : List Char}
    (h : ∀ t, Tree.parse? text = .ok t ↔ Tree.parse? text' = .ok t) :
    Tree.parse? text = Tree.parse? text' := by
  cases hparse : Tree.parse? text with
  | ok t => exact ((h t).mp hparse).symm
  | error failure =>
    cases hparse' : Tree.parse? text' with
    | ok t =>
      rw [(h t).mpr hparse'] at hparse
      cases hparse
    | error failure' =>
      rw [failure.eq_notOneTree, failure'.eq_notOneTree]

namespace Predictive

theorem isBlank_of_head?_skipBlanks (text : List Char) :
    ∀ c ∈ (skipBlanks text).head?, isBlank c = false := by
  intro c hc
  have hhead : (text.dropWhile isBlank).head? = some c := hc
  have hstop := List.head?_dropWhile_not isBlank text
  rwa [hhead] at hstop

theorem skipBlanks_eq_self {text : List Char}
    (h : ∀ c ∈ text.head?, isBlank c = false) : skipBlanks text = text := by
  cases text with
  | nil => rfl
  | cons c rest => exact List.dropWhile_cons_of_neg (by simp [h c rfl])

theorem isBlank_of_beginsTree {c : Char} (h : beginsTree c = true) :
    isBlank c = false := by
  simp only [beginsTree, Bool.or_eq_true, decide_eq_true_eq] at h
  obtain ((rfl | rfl) | hdigit) | rfl := h
  · decide
  · decide
  · exact isBlank_of_isDigit hdigit
  · decide

theorem beginsWithDigit_of_not_beginsTree {text : List Char}
    (h : ∀ c ∈ text.head?, beginsTree c = false) : beginsWithDigit text = false := by
  cases text with
  | nil => rfl
  | cons c tail =>
    have hc := h c rfl
    simp only [beginsTree, Bool.or_eq_false_iff] at hc
    exact hc.1.2

theorem skipBlanks_skipBlanks (text : List Char) :
    skipBlanks (skipBlanks text) = skipBlanks text :=
  skipBlanks_eq_self (isBlank_of_head?_skipBlanks text)

/-- The text begins with a tree, and the rest is left. -/
inductive Reads : (text : List Char) → Tree → (rest : List Char) → Prop where
  | bracket {inside middle behind rest : List Char} {left right : Tree}
    (hleft : Reads (skipBlanks inside) left middle)
    (hclose : skipBlanks middle = '\\' :: behind)
    (hright : Reads (skipBlanks behind) right rest) :
    Reads ('/' :: inside) (.node left right) rest
  | plus {inside middle rest : List Char} {left right : Tree}
    (hleft : Reads (skipBlanks inside) left middle)
    (hright : Reads (skipBlanks middle) right rest) :
    Reads ('+' :: inside) (.node left right) rest
  /-- All digits that stand there. -/
  | number {digits rest : List Char} (hne : digits ≠ [])
    (hdigits : ∀ c ∈ digits, isDigit c = true)
    (hrest : beginsWithDigit rest = false) :
    Reads (digits ++ rest) (.ofCode (numeralValue digits)) rest
  | dash (rest : List Char) : Reads ('-' :: rest) .empty rest
  /-- A tree that is left out. -/
  | omitted {text : List Char} (h : ∀ c ∈ text.head?, beginsTree c = false) :
    Reads text .empty text

theorem expect?_eq_some {c : Char} {text rest : List Char}
    (h : expect? c text = some rest) : text = c :: rest := by
  cases text with
  | nil => cases h
  | cons d tail =>
    obtain ⟨rfl, rfl⟩ : d = c ∧ tail = rest := by simpa [expect?] using h
    rfl

theorem reads_digit {c : Char} (hc : isDigit c = true) (text : List Char) :
    Reads (c :: text) (.ofCode (numeralValue ((c :: text).takeWhile isDigit)))
      ((c :: text).dropWhile isDigit) := by
  have hne : (c :: text).takeWhile isDigit ≠ [] := by
    rw [List.takeWhile_cons_of_pos hc]
    exact List.cons_ne_nil _ _
  have hdigits : ∀ d ∈ (c :: text).takeWhile isDigit, isDigit d = true :=
    fun d hd => List.mem_takeWhile_imp hd
  have hrest : beginsWithDigit ((c :: text).dropWhile isDigit) = false := by
    have hstop := List.head?_dropWhile_not isDigit (c :: text)
    rw [beginsWithDigit]
    cases hhead : ((c :: text).dropWhile isDigit).head? with
    | none => rfl
    | some d => simpa [hhead] using hstop
  have hreads := Reads.number hne hdigits hrest
  rwa [List.takeWhile_append_dropWhile] at hreads

theorem read_shrinks : Shrinks read := by
  intro text t rest h
  rw [read, Option.map_eq_some_iff] at h
  obtain ⟨reading, -, hreading⟩ := h
  cases hreading
  exact reading.2.property

section Signs

variable {inside rest : List Char} {t : Tree}
  (hinner : ∀ inner t rest, inner.length ≤ inside.length →
    read inner = some (t, rest) → Reads inner t rest)
include hinner

theorem reads_of_bracket (h : bracket read ('/' :: inside) = some (t, rest)) :
    Reads ('/' :: inside) t rest := by
  obtain ⟨_, left, middle, behind, right, hopen, hleft, hclose, hright, rfl⟩ :=
    bracket_eq_some h
  cases hopen
  have hinside := length_skipBlanks_le inside
  have hmiddle := read_shrinks _ _ _ hleft
  have hskip := length_skipBlanks_le middle
  have hbehind := length_of_expect? hclose
  have hskip' := length_skipBlanks_le behind
  apply Reads.bracket
  · exact hinner _ _ _ hinside hleft
  · exact expect?_eq_some hclose
  · exact hinner _ _ _ (by omega) hright

theorem reads_of_plus (h : plus read ('+' :: inside) = some (t, rest)) :
    Reads ('+' :: inside) t rest := by
  obtain ⟨_, left, middle, right, hopen, hleft, hright, rfl⟩ := plus_eq_some h
  cases hopen
  have hinside := length_skipBlanks_le inside
  have hmiddle := read_shrinks _ _ _ hleft
  have hskip := length_skipBlanks_le middle
  apply Reads.plus
  · exact hinner _ _ _ hinside hleft
  · exact hinner _ _ _ (by omega) hright

end Signs

/-- Every reading has a derivation. The parts are read behind at least one
character, so the induction is on the length of the text. -/
theorem reads_of_read {text rest : List Char} {t : Tree}
    (h : read text = some (t, rest)) : Reads text t rest := by
  induction hn : text.length using Nat.strongRecOn generalizing text t rest with
  | ind n ih =>
    subst hn
    cases text with
    | nil =>
      rw [read_nil] at h
      cases h
      exact .omitted fun c hc => nomatch hc
    | cons c inside =>
      have hinner : ∀ inner t rest, inner.length ≤ inside.length →
          read inner = some (t, rest) → Reads inner t rest :=
        fun inner t rest hlength hread =>
          ih _ (Nat.lt_succ_of_le hlength) hread rfl
      cases hbegins : beginsTree c with
      | false =>
        rw [read_other hbegins] at h
        cases h
        refine .omitted fun d hd => ?_
        cases hd
        exact hbegins
      | true =>
        simp only [beginsTree, Bool.or_eq_true, decide_eq_true_eq] at hbegins
        obtain ((rfl | rfl) | hdigit) | rfl := hbegins
        · rw [read_slash] at h
          exact reads_of_bracket hinner h
        · rw [read_plus] at h
          exact reads_of_plus hinner h
        · rw [read_digit hdigit] at h
          cases h
          exact reads_digit hdigit inside
        · rw [read_dash] at h
          cases h
          exact .dash _

namespace Reads

variable {text rest : List Char} {t : Tree}

theorem read (h : Reads text t rest) : Predictive.read text = some (t, rest) := by
  induction h with
  | bracket _ hclose _ ihLeft ihRight =>
    rw [read_slash]
    refine bracket_of_parts ihLeft ?_ ihRight
    rw [hclose]
    rfl
  | plus _ _ ihLeft ihRight =>
    rw [read_plus]
    exact plus_of_parts ihLeft ihRight
  | @number digits rest hne hdigits hrest =>
    have htake := takeWhile_isDigit_append hdigits hrest
    have hdrop := dropWhile_isDigit_append hdigits hrest
    obtain ⟨c, tail, rfl⟩ := List.exists_cons_of_ne_nil hne
    rw [List.cons_append] at htake hdrop ⊢
    rw [read_digit (hdigits c List.mem_cons_self), htake, hdrop]
  | dash rest => exact read_dash rest
  | @omitted text h =>
    cases text with
    | nil => exact read_nil
    | cons c tail => exact read_other (h c rfl) tail

/-- A text that is read to its end does not begin with a blank. -/
theorem isBlank_of_head? (h : Reads text t []) :
    ∀ c ∈ text.head?, isBlank c = false := by
  intro c hc
  cases h with
  | bracket => cases hc; decide
  | plus => cases hc; decide
  | @number digits _ hne hdigits _ =>
    obtain ⟨d, tail, rfl⟩ := List.exists_cons_of_ne_nil hne
    cases hc
    exact isBlank_of_isDigit (hdigits _ List.mem_cons_self)
  | dash => cases hc; decide
  | omitted => cases hc

end Reads

/-- The texts that are parsed are those that are read to their end. -/
theorem parse?_eq_ok_iff {text : List Char} {t : Tree} :
    Tree.parse? text = .ok t ↔ Reads text t [] := by
  constructor
  · intro h
    cases hread : read text with
    | none =>
      rw [parse?_of_read_none hread] at h
      cases h
    | some reading =>
      obtain ⟨t', rest⟩ := reading
      rw [parse?_of_read_some hread] at h
      by_cases hrest : rest = []
      · rw [if_pos hrest] at h
        cases h
        rw [hrest] at hread
        exact reads_of_read hread
      · rw [if_neg hrest] at h
        cases h
  · intro h
    rw [parse?_of_read_some h.read, if_pos rfl]

/-- What a relation between texts owes, so that a reading of the one text is
also a reading of the other. -/
structure Carries (R : List Char → List Char → Prop) : Prop where
  skip {text text' : List Char} (h : R text text') :
    R (skipBlanks text) (skipBlanks text')
  /-- The first character is the same, and a run of digits that it belongs to
  goes on in both texts or in neither. -/
  keep {c : Char} {text text' : List Char} (hc : isBlank c = false)
    (h : R (c :: text) text') :
    ∃ tail, text' = c :: tail ∧ R text tail ∧
      (isDigit c = true → beginsWithDigit tail = beginsWithDigit text)
  /-- Where the first text ends, no tree begins in the other. -/
  stop {text' : List Char} (h : R [] text') :
    ∀ c ∈ text'.head?, beginsTree c = false

namespace Carries

variable {R : List Char → List Char → Prop} (hR : Carries R)
include hR

theorem digits {digits rest text' : List Char}
    (hdigits : ∀ c ∈ digits, isDigit c = true) (hrest : beginsWithDigit rest = false)
    (h : R (digits ++ rest) text')
    (hbegins : beginsWithDigit text' = beginsWithDigit (digits ++ rest)) :
    ∃ rest', text' = digits ++ rest' ∧ R rest rest' ∧
      beginsWithDigit rest' = false := by
  induction digits generalizing text' with
  | nil => exact ⟨text', rfl, h, hbegins.trans hrest⟩
  | cons c digits ih =>
    obtain ⟨hc, hothers⟩ := List.forall_mem_cons.mp hdigits
    obtain ⟨tail, rfl, htail, hgoesOn⟩ := hR.keep (isBlank_of_isDigit hc) h
    obtain ⟨rest', rfl, hrest'⟩ := ih hothers htail (hgoesOn hc)
    exact ⟨rest', rfl, hrest'⟩

/-- By induction on the derivation; the relation is what it carries along. -/
theorem reads {text text' rest : List Char} {t : Tree} (hreads : Reads text t rest)
    (hstart : ∀ c ∈ text.head?, isBlank c = false) (h : R text text') :
    ∃ rest', Reads text' t rest' ∧ R rest rest' := by
  induction hreads generalizing text' with
  | bracket _ hclose _ ihLeft ihRight =>
    obtain ⟨inside', rfl, hinside, -⟩ := hR.keep (by decide) h
    obtain ⟨middle', hleft, hmiddle⟩ :=
      ihLeft (isBlank_of_head?_skipBlanks _) (hR.skip hinside)
    have hskipped := hR.skip hmiddle
    rw [hclose] at hskipped
    obtain ⟨behind', hclose', hbehind, -⟩ := hR.keep (by decide) hskipped
    obtain ⟨rest', hright, hrest⟩ :=
      ihRight (isBlank_of_head?_skipBlanks _) (hR.skip hbehind)
    exact ⟨rest', .bracket hleft hclose' hright, hrest⟩
  | plus _ _ ihLeft ihRight =>
    obtain ⟨inside', rfl, hinside, -⟩ := hR.keep (by decide) h
    obtain ⟨middle', hleft, hmiddle⟩ :=
      ihLeft (isBlank_of_head?_skipBlanks _) (hR.skip hinside)
    obtain ⟨rest', hright, hrest⟩ :=
      ihRight (isBlank_of_head?_skipBlanks _) (hR.skip hmiddle)
    exact ⟨rest', .plus hleft hright, hrest⟩
  | @number digits rest hne hdigits hrest =>
    obtain ⟨c, digits, rfl⟩ := List.exists_cons_of_ne_nil hne
    have hblank : isBlank c = false :=
      isBlank_of_isDigit (hdigits c List.mem_cons_self)
    obtain ⟨tail, rfl, -, -⟩ := hR.keep hblank h
    obtain ⟨rest', hsame, hrest', hend⟩ := hR.digits hdigits hrest h rfl
    rw [hsame]
    exact ⟨rest', .number hne hdigits hend, hrest'⟩
  | dash rest =>
    obtain ⟨rest', rfl, hrest, -⟩ := hR.keep (by decide) h
    exact ⟨rest', .dash rest', hrest⟩
  | @omitted text hother =>
    refine ⟨text', .omitted ?_, h⟩
    cases text with
    | nil => exact hR.stop h
    | cons c tail =>
      obtain ⟨tail', rfl, -, -⟩ := hR.keep (hstart c rfl) h
      exact hother

end Carries

end Predictive

end TreeCodec
