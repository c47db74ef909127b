import TreeCodec.Proofs.Grammar.Agreement

/-!
A parser that decides by one character and never goes back. At each of the
signs it commits to the alternative that the sign begins; a bracket that is not
closed ends the whole parse at once, where the ordered choice goes on with the
empty tree in its place.

That second chance never helps. What the ordered choice makes of an unclosed
bracket leaves its `/` unread, and no continuation of any enclosing tree can
read it either: blanks and `\` do not match it, and a tree read there is the
same unclosed bracket again. So the lenient rule stops in front of a `/`, and
the text is not read to its end.
-/

namespace TreeCodec.Predictive

open Text Reference

abbrev Rest (text : List Char) := { rest : List Char // rest.length ≤ text.length }

def Rest.widen {inner outer : List Char} (rest : Rest inner)
    (h : inner.length ≤ outer.length) : Rest outer :=
  ⟨rest.val, rest.property.trans h⟩

theorem length_behind_lt {inside behind : List Char}
    (middle : Rest (skipBlanks inside))
    (hclose : expect? '\\' (skipBlanks middle) = some behind) :
    (skipBlanks behind).length < inside.length := by
  have hinside := length_skipBlanks_le inside
  have hmiddle := length_skipBlanks_le middle
  have hbehind := length_skipBlanks_le behind
  have hlength := length_of_expect? hclose
  have := middle.property
  omega

theorem length_skipBlanks_rest_le {inside : List Char}
    (middle : Rest (skipBlanks inside)) :
    (skipBlanks middle).length ≤ inside.length :=
  (length_skipBlanks_le middle).trans
    (middle.property.trans (length_skipBlanks_le inside))

/-- Reads a tree, deciding by the first character. `none` ends the whole
parse. -/
def predict (text : List Char) : Option (Tree × Rest text) :=
  match text with
  | [] => some (.empty, ⟨[], le_rfl⟩)
  | c :: inside =>
    if c = '/' then do
      let (left, middle) ← predict (skipBlanks inside)
      match hclose : expect? '\\' (skipBlanks middle) with
      | none => none
      | some behind =>
        have hbehind := length_behind_lt middle hclose
        let (right, rest) ← predict (skipBlanks behind)
        return (.node left right, rest.widen (hbehind.trans (Nat.lt_succ_self _)).le)
    else if c = '+' then do
      let (left, middle) ← predict (skipBlanks inside)
      have hmiddle := length_skipBlanks_rest_le middle
      let (right, rest) ← predict (skipBlanks middle)
      return (.node left right, rest.widen (hmiddle.trans (Nat.le_succ _)))
    else if isDigit c then
      some (.ofCode (numeralValue ((c :: inside).takeWhile isDigit)),
        ⟨(c :: inside).dropWhile isDigit, List.length_dropWhile_le _ _⟩)
    else if c = '-' then some (.empty, ⟨inside, Nat.le_succ _⟩)
    else some (.empty, ⟨c :: inside, le_rfl⟩)
termination_by text.length
decreasing_by
  · exact Nat.lt_succ_of_le (length_skipBlanks_le inside)
  · exact hbehind.trans (Nat.lt_succ_self _)
  · exact Nat.lt_succ_of_le (length_skipBlanks_le inside)
  · exact Nat.lt_succ_of_le hmiddle

/-- The tree that is read and the text that is left. -/
def read : Reader := fun text =>
  (predict text).map fun reading => (reading.1, reading.2.val)

/-- The tree that a text writes, if it writes exactly one. -/
def parse? (text : List Char) : Except ParseFailure Tree :=
  match read text with
  | some (tree, []) => .ok tree
  | _ => .error .notOneTree

theorem read_nil : read [] = some (.empty, []) := by
  rw [read, predict]
  rfl

theorem read_slash (inside : List Char) :
    read ('/' :: inside) = bracket read ('/' :: inside) := by
  have hopen : expect? '/' ('/' :: inside) = some inside := rfl
  simp only [read, bracket, hopen, Option.bind_eq_bind, Option.bind_some]
  rw [predict, if_pos rfl]
  cases predict (skipBlanks inside) with
  | none => rfl
  | some leftReading =>
    simp only [Option.bind_eq_bind, Option.bind_some, Option.map_some]
    split
    · next hclose => simp only [hclose, Option.map_none, Option.bind_none]
    · next behind hclose =>
      simp only [hclose, Option.bind_some]
      cases predict (skipBlanks behind) <;> rfl

theorem read_plus (inside : List Char) :
    read ('+' :: inside) = plus read ('+' :: inside) := by
  have hopen : expect? '+' ('+' :: inside) = some inside := rfl
  simp only [read, plus, hopen, Option.bind_eq_bind, Option.bind_some]
  rw [predict, if_neg (by decide), if_pos rfl]
  cases predict (skipBlanks inside) with
  | none => rfl
  | some leftReading =>
    simp only [Option.bind_eq_bind, Option.bind_some, Option.map_some]
    cases predict (skipBlanks leftReading.2) <;> rfl

theorem read_digit {c : Char} (hc : isDigit c = true) (rest : List Char) :
    read (c :: rest)
      = some (.ofCode (numeralValue ((c :: rest).takeWhile isDigit)),
          (c :: rest).dropWhile isDigit) := by
  have hslash : c ≠ '/' := ne_of_isDigit hc (by decide)
  have hplus : c ≠ '+' := ne_of_isDigit hc (by decide)
  rw [read, predict, if_neg hslash, if_neg hplus, if_pos hc]
  rfl

theorem read_dash (rest : List Char) :
    read ('-' :: rest) = some (.empty, rest) := by
  rw [read, predict, if_neg (by decide), if_neg (by decide), if_neg (by decide),
    if_pos rfl]
  rfl

theorem read_other {c : Char} (hc : beginsTree c = false) (rest : List Char) :
    read (c :: rest) = some (.empty, c :: rest) := by
  simp only [beginsTree, Bool.or_eq_false_iff, decide_eq_false_iff_not] at hc
  obtain ⟨⟨⟨hslash, hplus⟩, hdigit⟩, hdash⟩ := hc
  rw [read, predict, if_neg hslash, if_neg hplus, if_neg (by simp [hdigit]),
    if_neg hdash]
  rfl

/-- The text begins with a bracket at which the whole parse ends. -/
def Doomed (text : List Char) : Prop :=
  text.head? = some '/' ∧ read text = none

theorem Doomed.skipBlanks {text : List Char} (h : Doomed text) :
    Reference.skipBlanks text = text := by
  obtain ⟨tail, rfl⟩ := List.head?_eq_some_iff.mp h.1
  exact List.dropWhile_cons_of_neg (by decide)

theorem Doomed.expect? {c : Char} {text : List Char} (h : Doomed text)
    (hc : '/' ≠ c) : Reference.expect? c text = none := by
  obtain ⟨tail, rfl⟩ := List.head?_eq_some_iff.mp h.1
  exact if_neg hc

theorem Doomed.ne_nil {text : List Char} (h : Doomed text) : text ≠ [] := by
  rintro rfl
  exact absurd h.1 (by simp)

/-- Both decisions read the same, or one of them ends the whole parse and the
other stops in front of a bracket at which the whole parse ends. -/
def Follows (depth : Nat) (text : List Char) : Prop :=
  ∃ t rest, level depth text = some (t, rest) ∧
    (read text = some (t, rest) ∨ read text = none ∧ Doomed rest)

section Step

variable {depth : Nat} {inside : List Char}

theorem follows_of_bracket_none
    (hlevel : bracket (level depth) ('/' :: inside) = none)
    (hread : bracket read ('/' :: inside) = none) :
    Follows (depth + 1) ('/' :: inside) := by
  have hnone : read ('/' :: inside) = none := by rw [read_slash, hread]
  refine ⟨.empty, '/' :: inside, ?_, .inr ⟨hnone, rfl, hnone⟩⟩
  rw [level_slash, hlevel]
  rfl

theorem follows_slash (ih : ∀ text, text.length < depth → Follows depth text)
    (hlength : ('/' :: inside).length < depth + 1) :
    Follows (depth + 1) ('/' :: inside) := by
  have hinside : (skipBlanks inside).length < depth :=
    (length_skipBlanks_le inside).trans_lt (Nat.lt_of_succ_lt_succ hlength)
  have hopen : expect? '/' ('/' :: inside) = some inside := rfl
  obtain ⟨left, middle, hlevel, hread | ⟨hread, hdoomed⟩⟩ := ih _ hinside
  · cases hclose : expect? '\\' (skipBlanks middle) with
    | none =>
      apply follows_of_bracket_none
      · simp [bracket, hopen, hlevel, hclose]
      · simp [bracket, hopen, hread, hclose]
    | some behind =>
      have hbehind : (skipBlanks behind).length < depth :=
        (length_behind_lt ⟨middle, level_shrinks depth _ _ _ hlevel⟩ hclose).trans
          (Nat.lt_of_succ_lt_succ hlength)
      obtain ⟨right, rest, hlevel', hread'⟩ := ih _ hbehind
      refine ⟨.node left right, rest, ?_, ?_⟩
      · rw [level_slash, bracket_of_parts hlevel hclose hlevel']
        rfl
      · rw [read_slash]
        refine hread'.imp (fun hright => ?_) (fun hright => ⟨?_, hright.2⟩)
        · exact bracket_of_parts hread hclose hright
        · simp [bracket, hopen, hread, hclose, hright.1]
  · -- The left tree stopped in front of a bracket, which is no closing sign.
    have hclose : expect? '\\' (skipBlanks middle) = none := by
      rw [hdoomed.skipBlanks]
      exact hdoomed.expect? (by decide)
    apply follows_of_bracket_none
    · simp [bracket, hopen, hlevel, hclose]
    · simp [bracket, hopen, hread]

theorem follows_plus (ih : ∀ text, text.length < depth → Follows depth text)
    (hlength : ('+' :: inside).length < depth + 1) :
    Follows (depth + 1) ('+' :: inside) := by
  have hinside : (skipBlanks inside).length < depth :=
    (length_skipBlanks_le inside).trans_lt (Nat.lt_of_succ_lt_succ hlength)
  have hopen : expect? '+' ('+' :: inside) = some inside := rfl
  obtain ⟨left, middle, hlevel, hread⟩ := ih _ hinside
  have hmiddle : (skipBlanks middle).length < depth :=
    (length_skipBlanks_rest_le ⟨middle, level_shrinks depth _ _ _ hlevel⟩).trans_lt
      (Nat.lt_of_succ_lt_succ hlength)
  obtain ⟨right, rest, hlevel', hread'⟩ := ih _ hmiddle
  refine ⟨.node left right, rest, ?_, ?_⟩
  · rw [level_plus, plus_of_parts hlevel hlevel']
    rfl
  · rw [read_plus]
    obtain hread | ⟨hread, hdoomed⟩ := hread
    · refine hread'.imp (fun hright => ?_) (fun hright => ⟨?_, hright.2⟩)
      · exact plus_of_parts hread hright
      · simp [plus, hopen, hread, hright.1]
    · -- The right tree is asked for at the bracket that ended the parse.
      rw [hdoomed.skipBlanks] at hread'
      have hrest : Doomed rest := by
        obtain hright | hright := hread'
        · rw [hdoomed.2] at hright
          cases hright
        · exact hright.2
      refine .inr ⟨?_, hrest⟩
      simp [plus, hopen, hread]

end Step

theorem follows (depth : Nat) (text : List Char) (hlength : text.length < depth) :
    Follows depth text := by
  induction depth generalizing text with
  | zero => exact absurd hlength (Nat.not_lt_zero _)
  | succ depth ih =>
    cases text with
    | nil => exact ⟨.empty, [], level_nil depth, .inl read_nil⟩
    | cons c inside =>
      cases hbegins : beginsTree c with
      | false =>
        exact ⟨_, _, level_other depth hbegins inside,
          .inl (read_other hbegins inside)⟩
      | true =>
        simp only [beginsTree, Bool.or_eq_true, decide_eq_true_eq] at hbegins
        obtain ((rfl | rfl) | hdigit) | rfl := hbegins
        · exact follows_slash ih hlength
        · exact follows_plus ih hlength
        · exact ⟨_, _, level_digit depth hdigit inside,
            .inl (read_digit hdigit inside)⟩
        · exact ⟨_, _, level_dash depth inside, .inl (read_dash inside)⟩

theorem parse?_of_read_some {text rest : List Char} {t : Tree}
    (hread : read text = some (t, rest)) :
    Tree.parse? text = if rest = [] then .ok t else .error .notOneTree := by
  obtain ⟨t', rest', hlevel, hread' | hread'⟩ :=
    follows (text.length + 1) text (Nat.lt_succ_self _)
  · rw [hread] at hread'
    cases hread'
    exact Grammar.parse?_of_level hlevel
  · rw [hread] at hread'
    cases hread'.1

theorem parse?_of_read_none {text : List Char} (hread : read text = none) :
    Tree.parse? text = .error .notOneTree := by
  obtain ⟨t, rest, hlevel, hread' | ⟨-, hdoomed⟩⟩ :=
    follows (text.length + 1) text (Nat.lt_succ_self _)
  · rw [hread] at hread'
    cases hread'
  · rw [Grammar.parse?_of_level hlevel, if_neg hdoomed.ne_nil]

/-- Every text is parsed as the decision by one character parses it. -/
theorem parse?_eq_predictive (text : List Char) :
    Tree.parse? text = Predictive.parse? text := by
  rw [Predictive.parse?]
  cases hread : read text with
  | none => exact parse?_of_read_none hread
  | some reading =>
    obtain ⟨t, rest⟩ := reading
    rw [parse?_of_read_some hread]
    cases rest <;> rfl

end TreeCodec.Predictive
