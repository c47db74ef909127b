import Mathlib.Data.List.TakeWhile
import TreeCodec.Pattern.Expression

/-!
An expression in brackets behind a demand for the start. The expression is
wrapped as text. If it can be read by itself, the bracket behind it closes
nothing that the expression has opened, so the wrapped text is read as the
pattern of the expression behind a demand for the start.
-/

namespace TreeCodec.Pattern

open Text

section Normal

/-- The pattern is its parts one behind the other, as they are. -/
def IsFlat (p : Pattern) : Prop :=
  appendAll p.parts = p

variable {p : Pattern} {ps : List Pattern}

theorem parts_of_mem_parts {part : Pattern} (h : part ∈ p.parts) :
    part.parts = [part] := by
  induction p with
  | empty => cases h
  | append first second ihFirst ihSecond =>
    exact (List.mem_append.mp h).elim ihFirst ihSecond
  | oneOf | startOfText | endOfText | either | repeated | group =>
    rw [List.mem_singleton.mp h]
    rfl

theorem parts_appendAll (h : ∀ p ∈ ps, p.parts = [p]) :
    (appendAll ps).parts = ps := by
  fun_induction appendAll ps with
  | case1 => rfl
  | case2 p => exact h p (List.mem_singleton_self p)
  | case3 p rest hrest ih =>
    obtain ⟨hp, hrest⟩ := List.forall_mem_cons.mp h
    rw [parts, hp, ih hrest]
    rfl

theorem isFlat_sequence (ps : List Pattern) : (sequence ps).IsFlat := by
  have hparts : (sequence ps).parts = ps.flatMap parts := by
    apply parts_appendAll
    intro part hpart
    obtain ⟨_, -, hpart⟩ := List.mem_flatMap.mp hpart
    exact parts_of_mem_parts hpart
  exact congrArg appendAll hparts

theorem branches_ne_nil (p : Pattern) : p.branches ≠ [] := by
  induction p with
  | either first second ihFirst _ =>
    exact List.append_ne_nil_of_left_ne_nil ihFirst _
  | empty | append | oneOf | startOfText | endOfText | repeated | group => exact nofun

/-- Only a pattern that is no choice has a single branch. -/
theorem branches_eq_singleton {branch : Pattern} (h : p.branches = [branch]) :
    p = branch := by
  cases p with
  | either first second =>
    have hlength := congrArg List.length h
    rw [branches, List.length_append, List.length_singleton] at hlength
    have hfirst := List.length_pos_iff.mpr (branches_ne_nil first)
    have hsecond := List.length_pos_iff.mpr (branches_ne_nil second)
    omega
  | empty | append | oneOf | startOfText | endOfText | repeated | group =>
    exact List.singleton_inj.mp h

/-- If there is a single branch in all, there is a single pattern. -/
theorem flatMap_branches_eq_singleton {branch : Pattern}
    (h : ps.flatMap branches = [branch]) : ps = [branch] := by
  match ps with
  | [] => cases h
  | [p] =>
    rw [List.flatMap_singleton] at h
    rw [branches_eq_singleton h]
  | p :: q :: rest =>
    have hlength := congrArg List.length h
    rw [List.flatMap_cons, List.flatMap_cons, List.length_append,
      List.length_append, List.length_singleton] at hlength
    have hp := List.length_pos_iff.mpr (branches_ne_nil p)
    have hq := List.length_pos_iff.mpr (branches_ne_nil q)
    omega

theorem isFlat_eitherOf (h : ∀ p, ps ≠ [p]) : (eitherOf ps).IsFlat := by
  match ps with
  | [] => rfl
  | [p] => exact absurd rfl (h p)
  | p :: q :: rest => rfl

theorem isFlat_choice (h : ∀ p, ps = [p] → p.IsFlat) : (choice ps).IsFlat := by
  rw [choice]
  split
  · next hbranch => exact h _ (flatMap_branches_eq_singleton hbranch)
  · rfl
  · next hmany => exact isFlat_eitherOf hmany

theorem isFlat_alternatives (h : ∀ p ∈ ps, p.IsFlat) :
    (alternatives ps).IsFlat := by
  rw [alternatives]
  split
  · next hbranch =>
    rw [flatMap_branches_eq_singleton hbranch] at h
    exact h _ (List.mem_singleton_self _)
  · next hmany => exact isFlat_choice fun p hp => (hmany p hp).elim
  · exact isFlat_sequence _

/-- A demand for the start in front of a pattern, written as a single
alternative. -/
theorem alternatives_startOfText (h : p.IsFlat) (hp : p ≠ empty) :
    alternatives [sequence [startOfText, p]] = append startOfText p := by
  have hsequence : sequence [startOfText, p] = append startOfText p := by
    cases hparts : p.parts with
    | nil =>
      rw [IsFlat, hparts] at h
      exact absurd h.symm hp
    | cons part rest =>
      calc sequence [startOfText, p]
          = appendAll (startOfText :: p.parts) := by
            simp only [sequence, List.flatMap_cons, List.flatMap_nil, List.append_nil]
            rfl
        _ = append startOfText (appendAll p.parts) := by rw [hparts]; rfl
        _ = append startOfText p := by rw [h]
  rw [hsequence]
  rfl

end Normal

section Text

variable {ε α β : Type} {x y : Except ε (List α)} {last : α}

/-- If the first result is a list, the second one is that list and `last`
behind it. -/
def AddsLast (last : α) (x y : Except ε (List α)) : Prop :=
  ∀ values, x = .ok values → y = .ok (values ++ [last])

namespace AddsLast

theorem error (e : ε) (y : Except ε (List α)) : AddsLast last (.error e) y :=
  fun _ => nofun

theorem map_cons (h : AddsLast last x y) (value : α) :
    AddsLast last (x.map (value :: ·)) (y.map (value :: ·)) := by
  intro values hvalues
  cases x with
  | error => cases hvalues
  | ok rest =>
    cases hvalues
    rw [h rest rfl]
    rfl

theorem bind {first : Except ε β} {next next' : β → Except ε (List α)}
    (h : ∀ value, AddsLast last (next value) (next' value)) :
    AddsLast last (first >>= next) (first >>= next') := by
  cases first with
  | error e => exact .error e _
  | ok value => exact h value

end AddsLast

theorem exists_of_bind_eq_ok {first : Except ε β} {next : β → Except ε α}
    {result : α} (h : first >>= next = .ok result) :
    ∃ value, first = .ok value ∧ next value = .ok result := by
  cases first with
  | error => cases h
  | ok value => exact ⟨value, rfl, h⟩

theorem pieces_plain {c : Char} (h : c ≠ '\\') (rest : List Char) :
    pieces (c :: rest) = (pieces rest).map (.plain c :: ·) := by
  rw [pieces]
  · exact fun _ _ hc => absurd hc h
  · exact fun hc => absurd hc h

theorem pieces_addsLast (text : List Char) :
    AddsLast (.plain ')') (pieces text) (pieces (text ++ [')'])) := by
  fun_induction pieces text with
  | case1 =>
    rintro _ ⟨⟩
    rfl
  | case2 c rest ih => exact ih.map_cons _
  | case3 => exact .error _ _
  | case4 c rest hpair hlone ih =>
    have hplain : c ≠ '\\' := by
      rintro rfl
      cases rest with
      | nil => exact hlone rfl rfl
      | cons d rest => exact hpair d rest rfl rfl
    rw [List.cons_append, pieces_plain hplain]
    exact ih.map_cons _

/-- Where a text is cut, what stands behind the text makes no difference. -/
theorem cut_append {p : α → Bool} {text after : List α} {first : α}
    (h : text.dropWhile p = first :: after) (more : List α) :
    (text ++ more).takeWhile p = text.takeWhile p ∧
      (text ++ more).dropWhile p = first :: (after ++ more) := by
  have hlength : (text.takeWhile p).length ≠ text.length := by
    have hparts : text.takeWhile p ++ text.dropWhile p = text :=
      List.takeWhile_append_dropWhile
    have hsum := congrArg List.length hparts
    rw [h, List.length_append, List.length_cons] at hsum
    omega
  rw [List.takeWhile_append, if_neg hlength, List.dropWhile_append, h]
  exact ⟨rfl, rfl⟩

theorem laziness_append (rest : List Piece) :
    laziness (rest ++ [.plain ')'])
      = ((laziness rest).1, (laziness rest).2 ++ [.plain ')']) := by
  fun_cases laziness rest with
  | case1 rest => rfl
  | case2 rest hlazy =>
    rw [laziness]
    intro rest' hrest
    cases rest with
    | nil => cases hrest
    | cons first rest =>
      cases hrest
      exact hlazy rest rfl

theorem classStart_of_head?_ne {rest : List Piece}
    (h : rest.head? ≠ some (.plain ']')) :
    classStart rest
      = (rest.takeWhile (· == .plain '-'), rest.dropWhile (· == .plain '-')) := by
  have hdrop : rest.drop (rest.takeWhile (· == .plain '-')).length
      = rest.dropWhile (· == .plain '-') := by
    calc rest.drop (rest.takeWhile (· == .plain '-')).length
        = (rest.takeWhile (· == .plain '-') ++ rest.dropWhile (· == .plain '-')).drop
            (rest.takeWhile (· == .plain '-')).length := by
          rw [List.takeWhile_append_dropWhile]
      _ = rest.dropWhile (· == .plain '-') := List.drop_left
  rw [classStart, hdrop]
  rintro after - rfl
  exact h rfl

theorem classStart_append {rest start inner : List Piece}
    (h : classStart rest = (start, inner)) (hinner : inner ≠ []) (more : List Piece) :
    classStart (rest ++ more) = (start, inner ++ more) := by
  obtain ⟨first, others, rfl⟩ := List.exists_cons_of_ne_nil hinner
  cases rest with
  | nil => cases h
  | cons piece rest =>
    by_cases hbracket : piece = .plain ']'
    · cases hbracket
      cases h
      rfl
    · have hhead (more : List Piece) :
          (piece :: rest ++ more).head? ≠ some (.plain ']') := by
        simpa using hbracket
      have hstart := classStart_of_head?_ne (hhead [])
      rw [List.append_nil, h] at hstart
      obtain ⟨rfl, hdrop⟩ := Prod.mk.inj hstart
      obtain ⟨htake', hdrop'⟩ := cut_append hdrop.symm more
      rw [classStart_of_head?_ne (hhead more), htake', hdrop', List.cons_append]

theorem classBody_append {rest after : List Piece} {items : List CharClass}
    (h : classBody rest = .ok (items, after)) (more : List Piece) :
    classBody (rest ++ more) = .ok (items, after ++ more) := by
  cases hstart : classStart rest with
  | mk start inner =>
  rw [classBody, hstart] at h
  cases hcut : inner.dropWhile (· != .plain ']') with
  | nil =>
    simp only [hcut] at h
    cases h
  | cons bracket behind =>
    have hinner : inner ≠ [] := by
      rintro rfl
      cases hcut
    obtain ⟨htake, hdrop⟩ := cut_append hcut more
    rw [classBody, classStart_append hstart hinner]
    simp only [hcut, htake, hdrop] at h ⊢
    obtain ⟨first, hfirst, h⟩ := exists_of_bind_eq_ok h
    obtain ⟨others, hothers, h⟩ := exists_of_bind_eq_ok h
    cases h
    rw [hfirst, hothers]
    rfl

/-- A closing bracket behind a text is not taken for the sign at which the
text does not begin. -/
theorem append_bracket_ne {rest : List Piece} {sign : Char}
    (h : ∀ tail, rest ≠ .plain sign :: tail) (hsign : sign ≠ ')')
    (tail : List Piece) : rest ++ [.plain ')'] ≠ .plain sign :: tail := by
  cases rest with
  | nil =>
    rintro ⟨⟩
    exact hsign rfl
  | cons first others =>
    rintro ⟨⟩
    exact h others rfl

theorem tokens_count {rest after : List Piece} {first : Piece}
    (h : rest.dropWhile (· != .plain '\x7d') = first :: after) :
    tokens (.plain '\x7b' :: rest)
      = (do
        let (low, high) ← countBounds (rest.takeWhile (· != .plain '\x7d'))
        return .quantifier low high (laziness after).1 ::
          (← tokens (laziness after).2)) := by
  rw [tokens]
  split
  · next hcut => cases h.symm.trans hcut
  · next hcut =>
    cases h.symm.trans hcut
    rfl

theorem tokens_othersClass {rest after : List Piece} {items : List CharClass}
    (h : classBody rest = .ok (items, after)) :
    tokens (.plain '[' :: .plain '^' :: rest)
      = (do return .part (.ofItems true items) :: (← tokens after)) := by
  rw [tokens]
  split
  · next hbody => cases h.symm.trans hbody
  · next hbody =>
    cases h.symm.trans hbody
    rfl

theorem tokens_class {rest after : List Piece} {items : List CharClass}
    (hplain : ∀ tail, rest ≠ .plain '^' :: tail)
    (h : classBody rest = .ok (items, after)) :
    tokens (.plain '[' :: rest)
      = (do return .part (.ofItems false items) :: (← tokens after)) := by
  rw [tokens]
  · split
    · next hbody => cases h.symm.trans hbody
    · next hbody =>
      cases h.symm.trans hbody
      rfl
  · exact hplain

theorem tokens_addsLast (text : List Piece) :
    AddsLast .closeGroup (tokens text) (tokens (text ++ [.plain ')'])) := by
  fun_induction tokens text with
  | case1 =>
    rintro _ ⟨⟩
    rw [List.nil_append, tokens, tokens]
    rfl
  | case2 c rest ih =>
    rw [List.cons_append, tokens]
    exact .bind fun meaning => ih.map_cons _
  | case3 rest ih =>
    simp only [List.cons_append, tokens]
    exact ih.map_cons _
  | case4 => exact .error _ _
  | case5 rest _ hplain ih =>
    have hbehind := append_bracket_ne hplain (by decide)
    rw [List.cons_append, tokens]
    · exact ih.map_cons _
    · exact fun _ => hbehind _
    · exact hbehind
  | case6 rest ih | case7 rest ih | case17 rest ih | case18 rest ih
  | case19 rest ih =>
    rw [List.cons_append, tokens]
    exact ih.map_cons _
  | case8 rest hlength ih | case9 rest hlength ih | case10 rest hlength ih =>
    simp only [List.cons_append, tokens, laziness_append]
    exact ih.map_cons _
  | case11 => exact .error _ _
  | case12 rest first after hcut _ _ ih =>
    obtain ⟨htake, hdrop⟩ := cut_append hcut [.plain ')']
    rw [List.cons_append, tokens_count hdrop, htake, laziness_append]
    exact .bind fun bounds => ih.map_cons _
  | case13 | case15 => exact .error _ _
  | case14 rest items after hbody _ ih =>
    rw [List.cons_append, List.cons_append,
      tokens_othersClass (classBody_append hbody [.plain ')'])]
    exact ih.map_cons _
  | case16 rest hplain items after hbody _ ih =>
    rw [List.cons_append, tokens_class (append_bracket_ne hplain (by decide))
      (classBody_append hbody [.plain ')'])]
    exact ih.map_cons _
  | case20 c rest =>
    rename_i ih
    rw [List.cons_append, tokens]
    · exact ih.map_cons _
    all_goals
      intros
      contradiction

end Text

section Assembly

/-- The number of the outermost open group. -/
def outermostNumber : OpenGroup → List OpenGroup → Option Nat
  | g, [] => g.number
  | _, outer :: around => outermostNumber outer around

theorem outermostNumber_congr (g g' : OpenGroup) (h : g.number = g'.number)
    (around : List OpenGroup) :
    outermostNumber g around = outermostNumber g' around := by
  cases around with
  | nil => exact h
  | cons => rfl

/-- A group may be opened around tokens and closed behind them. What they make
up is then a part of the group around it. -/
theorem assemble_closeGroup {counted : Nat} {ts : List Token} {g : OpenGroup}
    {around : List OpenGroup} {whole : Part}
    (h : assemble counted ts g around = .ok whole) (outer : OpenGroup) :
    assemble counted (ts ++ [.closeGroup]) g (around ++ [outer])
      = .ok (outer.push (whole.grouped (outermostNumber g around))).inside := by
  fun_induction assemble counted ts g around with
  | case1 counted g =>
    cases h
    rfl
  | case2 | case8 | case9 => cases h
  | case3 counted p rest g around ih =>
    rw [← outermostNumber_congr (g.push p) g rfl]
    exact ih h
  | case4 counted rest g around ih =>
    rw [← outermostNumber_congr g.startAlternative g rfl]
    exact ih h
  | case5 counted rest g around ih | case6 counted rest g around ih => exact ih h
  | case7 counted rest g outer around ih =>
    rw [outermostNumber,
      ← outermostNumber_congr (outer.push (g.inside.grouped g.number)) outer rfl]
    exact ih h
  | case10 counted low high greedy rest g around p parts hparts ih =>
    rw [List.cons_append, assemble, hparts, ← outermostNumber_congr
      { g with parts := p.rounds greedy low high :: parts } g rfl]
    exact ih h

namespace OpenGroup

/-- The finished alternatives of a group are flat, whatever its parts are. -/
def HasFlat (g : OpenGroup) : Prop :=
  ∀ p ∈ g.finished, p.pattern.IsFlat

theorem HasFlat.startAlternative {g : OpenGroup} (h : g.HasFlat) :
    g.startAlternative.HasFlat :=
  List.forall_mem_cons.mpr ⟨isFlat_sequence _, h⟩

theorem HasFlat.inside {g : OpenGroup} (h : g.HasFlat) :
    g.inside.pattern.IsFlat := by
  apply isFlat_alternatives
  intro p hp
  obtain ⟨part, hpart, rfl⟩ := List.mem_map.mp hp
  exact h.startAlternative part (List.mem_reverse.mp hpart)

end OpenGroup

/-- The pattern that all tokens make up is flat. -/
theorem assemble_isFlat {counted : Nat} {ts : List Token} {g : OpenGroup}
    {around : List OpenGroup} {whole : Part}
    (h : assemble counted ts g around = .ok whole)
    (hg : g.HasFlat) (haround : ∀ outer ∈ around, outer.HasFlat) :
    whole.pattern.IsFlat := by
  fun_induction assemble counted ts g around with
  | case1 counted g =>
    cases h
    exact hg.inside
  | case2 | case8 | case9 => cases h
  | case3 counted p rest g around ih => exact ih h hg haround
  | case4 counted rest g around ih => exact ih h hg.startAlternative haround
  | case5 counted rest g around ih | case6 counted rest g around ih =>
    exact ih h (fun _ => nofun) (List.forall_mem_cons.mpr ⟨hg, haround⟩)
  | case7 counted rest g outer around ih =>
    obtain ⟨houter, haround⟩ := List.forall_mem_cons.mp haround
    exact ih h houter haround
  | case10 counted low high greedy rest g around p parts hparts ih =>
    exact ih h hg haround

end Assembly

section Expression

variable {expression : List Char} {p q : Pattern}

/-- The stages of reading an expression. -/
theorem parse_eq_ok (h : parse expression = .ok p) :
    ∃ text ts whole, pieces expression = .ok text ∧ tokens text = .ok ts ∧
      assemble 0 ts (.start none) [] = .ok whole ∧ whole.pattern = p := by
  rw [parse] at h
  obtain ⟨text, htext, h⟩ := exists_of_bind_eq_ok h
  obtain ⟨ts, hts, h⟩ := exists_of_bind_eq_ok h
  obtain ⟨whole, hwhole, h⟩ := exists_of_bind_eq_ok h
  refine ⟨text, ts, whole, htext, hts, hwhole, ?_⟩
  split at h
  · cases h
  · split at h
    · cases h
    · exact Except.ok.inj h

theorem isFlat_of_parse (h : parse expression = .ok p) : p.IsFlat := by
  obtain ⟨_, _, whole, -, -, hwhole, rfl⟩ := parse_eq_ok h
  exact assemble_isFlat hwhole (fun _ => nofun) fun _ => nofun

/-- An expression in brackets behind a demand for the start. If it can be read
by itself, its pattern stands behind the demand for the start. -/
theorem parse_wrapped (h : parse expression = .ok p)
    (hq : parse ("^(?:".toList ++ expression ++ [')']) = .ok q) :
    q = alternatives [sequence [startOfText, p]] := by
  obtain ⟨text, ts, whole, htext, hts, hwhole, rfl⟩ := parse_eq_ok h
  obtain ⟨text', ts', whole', htext', hts', hwhole', rfl⟩ := parse_eq_ok hq
  have hpieces : pieces ('^' :: '(' :: '?' :: ':' :: (expression ++ [')']))
      = .ok (.plain '^' :: .plain '(' :: .plain '?' :: .plain ':' ::
          (text ++ [.plain ')'])) := by
    rw [pieces_plain (by decide), pieces_plain (by decide), pieces_plain (by decide),
      pieces_plain (by decide), pieces_addsLast expression text htext]
    rfl
  cases htext'.symm.trans hpieces
  have htokens : tokens (.plain '^' :: .plain '(' :: .plain '?' :: .plain ':' ::
        (text ++ [.plain ')']))
      = .ok (.part (.plain startOfText) :: .openGroup false ::
          (ts ++ [.closeGroup])) := by
    simp only [tokens, tokens_addsLast text ts hts]
    rfl
  cases hts'.symm.trans htokens
  have hassemble := assemble_closeGroup hwhole
    ((OpenGroup.start none).push (.plain startOfText))
  cases hwhole'.symm.trans hassemble
  rfl

/-- What anchoring does to the pattern of an expression: nothing if the
expression begins with a demand for the start, and else it puts one in front. -/
theorem parseAnchored_eq_ok (hp : parse expression = .ok p)
    (hq : parseAnchored expression = .ok q) :
    (expression.head? = some '^' ∧ q = p) ∨
      (expression.head? ≠ some '^' ∧
        q = if p = empty then startOfText else append startOfText p) := by
  rw [parseAnchored, anchoredText] at hq
  split at hq
  · next hstart =>
    cases hp.symm.trans hq
    exact .inl ⟨hstart, rfl⟩
  · next hstart =>
    refine .inr ⟨hstart, ?_⟩
    rw [parse_wrapped hp hq]
    split
    · next hempty =>
      rw [hempty]
      rfl
    · next hne => exact alternatives_startOfText (isFlat_of_parse hp) hne

end Expression

end TreeCodec.Pattern
