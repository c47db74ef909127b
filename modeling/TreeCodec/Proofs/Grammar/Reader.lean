import Mathlib.Data.List.TakeWhile
import TreeCodec.Grammar.Reference
import TreeCodec.Proofs.Text.Numeral

/-!
The readers on text, taken apart. What a reading of each alternative consists
of is said once; that no reader leaves more text than it was given follows
alternative by alternative, and then for the readers of every level. The first
character of a text rules out all alternatives but one and the empty tree, so
the readers of a level have one equation for each kind of first character.
-/

namespace TreeCodec.Reference

open Text

theorem length_of_expect? {c : Char} {text rest : List Char}
    (h : expect? c text = some rest) : rest.length < text.length := by
  cases text with
  | nil => simp [expect?] at h
  | cons d tail =>
    obtain ⟨-, rfl⟩ : d = c ∧ tail = rest := by simpa [expect?] using h
    simp

theorem length_skipBlanks_le (text : List Char) :
    (skipBlanks text).length ≤ text.length :=
  List.length_dropWhile_le _ text

/-- No reading leaves more text than it was given. -/
def Shrinks (reader : Reader) : Prop :=
  ∀ text t rest, reader text = some (t, rest) → rest.length ≤ text.length

/-- What a reading of the first alternative consists of. -/
theorem bracket_eq_some {reader : Reader} {text rest : List Char} {t : Tree}
    (h : bracket reader text = some (t, rest)) :
    ∃ inside left middle behind right, expect? '/' text = some inside ∧
      reader (skipBlanks inside) = some (left, middle) ∧
      expect? '\\' (skipBlanks middle) = some behind ∧
      reader (skipBlanks behind) = some (right, rest) ∧ t = .node left right := by
  simp only [bracket, Option.bind_eq_bind, Option.bind_eq_some_iff] at h
  obtain ⟨inside, hopen, ⟨left, middle⟩, hleft, behind, hclose, ⟨right, final⟩,
    hright, hresult⟩ := h
  cases hresult
  exact ⟨inside, left, middle, behind, right, hopen, hleft, hclose, hright, rfl⟩

theorem plus_eq_some {reader : Reader} {text rest : List Char} {t : Tree}
    (h : plus reader text = some (t, rest)) :
    ∃ inside left middle right, expect? '+' text = some inside ∧
      reader (skipBlanks inside) = some (left, middle) ∧
      reader (skipBlanks middle) = some (right, rest) ∧ t = .node left right := by
  simp only [plus, Option.bind_eq_bind, Option.bind_eq_some_iff] at h
  obtain ⟨inside, hopen, ⟨left, middle⟩, hleft, ⟨right, final⟩, hright,
    hresult⟩ := h
  cases hresult
  exact ⟨inside, left, middle, right, hopen, hleft, hright, rfl⟩

theorem bracket_of_parts {reader : Reader}
    {inside middle behind rest : List Char} {left right : Tree}
    (hleft : reader (skipBlanks inside) = some (left, middle))
    (hclose : expect? '\\' (skipBlanks middle) = some behind)
    (hright : reader (skipBlanks behind) = some (right, rest)) :
    bracket reader ('/' :: inside) = some (.node left right, rest) := by
  have hopen : expect? '/' ('/' :: inside) = some inside := rfl
  simp [bracket, hopen, hleft, hclose, hright]

theorem plus_of_parts {reader : Reader} {inside middle rest : List Char}
    {left right : Tree} (hleft : reader (skipBlanks inside) = some (left, middle))
    (hright : reader (skipBlanks middle) = some (right, rest)) :
    plus reader ('+' :: inside) = some (.node left right, rest) := by
  have hopen : expect? '+' ('+' :: inside) = some inside := rfl
  simp [plus, hopen, hleft, hright]

theorem bracket_shrinks {reader : Reader} (h : Shrinks reader) :
    Shrinks (bracket reader) := by
  intro text t rest hread
  obtain ⟨inside, left, middle, behind, right, hopen, hleft, hclose, hright, -⟩ :=
    bracket_eq_some hread
  have hinside := length_of_expect? hopen
  have hskip := length_skipBlanks_le inside
  have hmiddle := h _ _ _ hleft
  have hskip' := length_skipBlanks_le middle
  have hbehind := length_of_expect? hclose
  have hskip'' := length_skipBlanks_le behind
  have hrest := h _ _ _ hright
  omega

theorem plus_shrinks {reader : Reader} (h : Shrinks reader) :
    Shrinks (plus reader) := by
  intro text t rest hread
  obtain ⟨inside, left, middle, right, hopen, hleft, hright, -⟩ :=
    plus_eq_some hread
  have hinside := length_of_expect? hopen
  have hskip := length_skipBlanks_le inside
  have hmiddle := h _ _ _ hleft
  have hskip' := length_skipBlanks_le middle
  have hrest := h _ _ _ hright
  omega

theorem number_shrinks : Shrinks number := by
  intro text t rest hread
  simp only [number, Option.bind_eq_bind, Option.bind_eq_some_iff] at hread
  obtain ⟨code, -, hresult⟩ := hread
  cases hresult
  exact List.length_dropWhile_le _ text

theorem dash_shrinks : Shrinks dash := by
  intro text t rest hread
  simp only [dash, Option.bind_eq_bind, Option.bind_eq_some_iff] at hread
  obtain ⟨final, hdash, hresult⟩ := hread
  cases hresult
  exact (length_of_expect? hdash).le

theorem nothing_shrinks : Shrinks nothing := by
  intro text t rest hread
  cases hread
  exact le_rfl

theorem choose_shrinks {readers : List Reader}
    (h : ∀ reader ∈ readers, Shrinks reader) : Shrinks (choose readers) := by
  intro text t rest hread
  obtain ⟨reader, hmem, hreader⟩ := List.exists_of_findSome?_eq_some hread
  exact h reader hmem text t rest hreader

theorem level_shrinks (depth : Nat) : Shrinks (level depth) := by
  induction depth with
  | zero => exact fun _ _ _ h => nomatch h
  | succ depth ih =>
    apply choose_shrinks
    simp only [List.forall_mem_cons, List.not_mem_nil, false_implies, implies_true,
      and_true]
    exact ⟨bracket_shrinks ih, plus_shrinks ih, number_shrinks, dash_shrinks,
      nothing_shrinks⟩

/-- The last alternative always has an answer. -/
theorem exists_level (depth : Nat) (text : List Char) :
    ∃ t rest, level (depth + 1) text = some (t, rest) := by
  have hsome : ((level (depth + 1)) text).isSome := by
    rw [level, choose, List.findSome?_isSome_iff]
    exact ⟨nothing, by simp, rfl⟩
  obtain ⟨⟨t, rest⟩, h⟩ := Option.isSome_iff_exists.mp hsome
  exact ⟨t, rest, h⟩

section FirstCharacter

variable {reader : Reader} {c : Char}

theorem choose_cons (reader : Reader) (readers : List Reader) (text : List Char) :
    choose (reader :: readers) text = (reader text).or (choose readers text) := by
  rw [choose, List.findSome?_cons]
  cases reader text <;> rfl

theorem choose_nothing (text : List Char) :
    choose [nothing] text = some (.empty, text) := rfl

theorem bracket_of_ne (h : c ≠ '/') (rest : List Char) :
    bracket reader (c :: rest) = none := by
  simp [bracket, expect?, h]

theorem plus_of_ne (h : c ≠ '+') (rest : List Char) :
    plus reader (c :: rest) = none := by
  simp [plus, expect?, h]

theorem dash_of_ne (h : c ≠ '-') (rest : List Char) :
    dash (c :: rest) = none := by
  simp [dash, expect?, h]

theorem number_of_not_digit (h : isDigit c = false) (rest : List Char) :
    number (c :: rest) = none := by
  simp [number, h, readNumeral?]

theorem number_of_digit (h : isDigit c = true) (rest : List Char) :
    number (c :: rest)
      = some (.ofCode (numeralValue ((c :: rest).takeWhile isDigit)),
          (c :: rest).dropWhile isDigit) := by
  rw [number, readNumeral?_takeWhile]
  simp [h]

/-- Whether a tree that is not left out can begin with the character. -/
def beginsTree (c : Char) : Bool :=
  c = '/' || c = '+' || isDigit c || c = '-'

theorem level_nil (depth : Nat) : level (depth + 1) [] = some (.empty, []) := rfl

theorem level_slash (depth : Nat) (inside : List Char) :
    level (depth + 1) ('/' :: inside)
      = some ((bracket (level depth) ('/' :: inside)).getD
          (.empty, '/' :: inside)) := by
  rw [level, choose_cons, choose_cons, choose_cons, choose_cons, choose_nothing,
    plus_of_ne (by decide), number_of_not_digit (by decide), dash_of_ne (by decide)]
  cases bracket (level depth) ('/' :: inside) <;> rfl

theorem level_plus (depth : Nat) (inside : List Char) :
    level (depth + 1) ('+' :: inside)
      = some ((plus (level depth) ('+' :: inside)).getD
          (.empty, '+' :: inside)) := by
  rw [level, choose_cons, choose_cons, choose_cons, choose_cons, choose_nothing,
    bracket_of_ne (by decide), number_of_not_digit (by decide),
    dash_of_ne (by decide)]
  cases plus (level depth) ('+' :: inside) <;> rfl

theorem level_digit (depth : Nat) (h : isDigit c = true) (rest : List Char) :
    level (depth + 1) (c :: rest)
      = some (.ofCode (numeralValue ((c :: rest).takeWhile isDigit)),
          (c :: rest).dropWhile isDigit) := by
  have hslash : c ≠ '/' := ne_of_isDigit h (by decide)
  have hplus : c ≠ '+' := ne_of_isDigit h (by decide)
  rw [level, choose_cons, choose_cons, choose_cons, bracket_of_ne hslash,
    plus_of_ne hplus, number_of_digit h]
  rfl

theorem level_dash (depth : Nat) (rest : List Char) :
    level (depth + 1) ('-' :: rest) = some (.empty, rest) := by
  rw [level, choose_cons, choose_cons, choose_cons, choose_cons,
    bracket_of_ne (by decide), plus_of_ne (by decide),
    number_of_not_digit (by decide)]
  rfl

theorem level_other (depth : Nat) (h : beginsTree c = false) (rest : List Char) :
    level (depth + 1) (c :: rest) = some (.empty, c :: rest) := by
  simp only [beginsTree, Bool.or_eq_false_iff, decide_eq_false_iff_not] at h
  obtain ⟨⟨⟨hslash, hplus⟩, hdigit⟩, hdash⟩ := h
  rw [level, choose_cons, choose_cons, choose_cons, choose_cons, choose_nothing,
    bracket_of_ne hslash, plus_of_ne hplus, number_of_not_digit hdigit,
    dash_of_ne hdash]
  rfl

end FirstCharacter

end TreeCodec.Reference
