import TreeCodec.Format
import TreeCodec.Proofs.Code.Bijection
import TreeCodec.Proofs.Grammar.Predictive

/-!
What the grammar makes of the text of each format. The notations are read by
the decision on one character: prefix notation in front of anything, bracket
notation in front of a `\` or the end, since nothing marks where an empty tree
stops, and decimal notation up to the end. The other two formats begin with a
character that begins no tree.
-/

namespace TreeCodec

namespace Predictive

open Text Reference

theorem skipBlanks_prefixText (t : Tree) (rest : List Char) :
    skipBlanks (t.prefixText ++ rest) = t.prefixText ++ rest := by
  cases t <;> exact List.dropWhile_cons_of_neg (by decide)

theorem read_prefixText (t : Tree) (rest : List Char) :
    read (t.prefixText ++ rest) = some (t, rest) := by
  induction t generalizing rest with
  | empty => exact read_dash rest
  | node left right ihl ihr =>
    rw [Tree.prefixText, List.cons_append, List.append_assoc, read_plus]
    have hleft : read (skipBlanks (left.prefixText ++ (right.prefixText ++ rest)))
        = some (left, right.prefixText ++ rest) := by
      rw [skipBlanks_prefixText]
      exact ihl _
    have hright : read (skipBlanks (right.prefixText ++ rest)) = some (right, rest) := by
      rw [skipBlanks_prefixText]
      exact ihr rest
    exact plus_of_parts hleft hright

/-- The text ends here, or a left subtree does. -/
def Closes (text : List Char) : Prop :=
  text = [] ∨ text.head? = some '\\'

theorem Closes.read {text : List Char} (h : Closes text) :
    read text = some (.empty, text) := by
  obtain rfl | hhead := h
  · exact read_nil
  · obtain ⟨tail, rfl⟩ := List.head?_eq_some_iff.mp hhead
    exact read_other (by decide) tail

theorem Closes.skipBlanks {text : List Char} (h : Closes text) :
    Reference.skipBlanks text = text := by
  obtain rfl | hhead := h
  · rfl
  · obtain ⟨tail, rfl⟩ := List.head?_eq_some_iff.mp hhead
    exact List.dropWhile_cons_of_neg (by decide)

theorem skipBlanks_bracketText (t : Tree) {rest : List Char} (h : Closes rest) :
    skipBlanks (t.bracketText ++ rest) = t.bracketText ++ rest := by
  cases t with
  | empty => exact h.skipBlanks
  | node left right => exact List.dropWhile_cons_of_neg (by decide)

theorem read_bracketText (t : Tree) {rest : List Char} (h : Closes rest) :
    read (t.bracketText ++ rest) = some (t, rest) := by
  induction t generalizing rest with
  | empty => exact h.read
  | node left right ihl ihr =>
    have hclosing : Closes ('\\' :: (right.bracketText ++ rest)) := .inr rfl
    rw [Tree.bracketText, List.cons_append, List.append_assoc, List.cons_append,
      read_slash]
    have hleft : read (skipBlanks (left.bracketText ++ '\\' :: (right.bracketText ++ rest)))
        = some (left, '\\' :: (right.bracketText ++ rest)) := by
      rw [skipBlanks_bracketText left hclosing]
      exact ihl hclosing
    have hclose : expect? '\\' (skipBlanks ('\\' :: (right.bracketText ++ rest)))
        = some (right.bracketText ++ rest) := by
      rw [hclosing.skipBlanks]
      rfl
    have hright : read (skipBlanks (right.bracketText ++ rest)) = some (right, rest) := by
      rw [skipBlanks_bracketText right h]
      exact ihr h
    exact bracket_of_parts hleft hclose hright

theorem read_decimalText (t : Tree) : read t.decimalText = some (t, []) := by
  have hdigits : ∀ c ∈ numeral t.code, isDigit c = true :=
    fun c hc => isDigit_of_mem_numeral hc
  have hvalue := numeralValue_numeral t.code
  rw [Tree.decimalText]
  cases hnumeral : numeral t.code with
  | nil => exact absurd hnumeral (numeral_ne_nil _)
  | cons c tail =>
    rw [hnumeral] at hdigits hvalue
    rw [read_digit (hdigits c List.mem_cons_self), List.takeWhile_eq_self_iff.mpr hdigits,
      List.dropWhile_eq_nil_iff.mpr hdigits, hvalue, Tree.ofCode_code]

/-- Nothing is read of a text whose first character begins no tree. -/
theorem parse?_of_other {c : Char} (h : beginsTree c = false) (rest : List Char) :
    Tree.parse? (c :: rest) = .error .notOneTree := by
  rw [parse?_of_read_some (read_other h rest), if_neg (List.cons_ne_nil c rest)]

theorem parse?_indentedJson (indent : Nat) (t : Tree) :
    Tree.parse? (t.indentedJson indent) = .error .notOneTree := by
  cases t <;> exact parse?_of_other (by decide) _

theorem exists_label (fill : Fill) (code : Nat) (t : Tree) :
    ∃ c tail, t.label fill code = c :: tail ∧ beginsTree c = false := by
  cases t with
  | empty => exact ⟨'∅', [], rfl, by decide⟩
  | node left right =>
    cases hfill : fill.fills (.node left right) with
    | false =>
      exact ⟨'○', ' ' :: numeral code, by simp [Tree.label, Tree.isEmpty, hfill],
        by decide⟩
    | true =>
      exact ⟨'●', ' ' :: numeral code, by simp [Tree.label, Tree.isEmpty, hfill],
        by decide⟩

theorem drawing_eq_label_append (fill : Fill) (t : Tree) :
    ∃ code rest, t.drawing fill = t.label fill code ++ rest := by
  refine ⟨t.codeList.headD 0, ?_⟩
  cases t with
  | empty => exact ⟨['\n'], rfl⟩
  | node left right => exact ⟨_, List.append_assoc _ _ _⟩

theorem parse?_drawing (fill : Fill) (t : Tree) :
    Tree.parse? (t.drawing fill) = .error .notOneTree := by
  obtain ⟨code, rest, hdrawing⟩ := drawing_eq_label_append fill t
  obtain ⟨c, tail, hlabel, hc⟩ := exists_label fill code t
  rw [hdrawing, hlabel]
  exact parse?_of_other hc _

end Predictive

namespace Format

theorem named?_name (format : Format) : named? format.name = .ok format := by
  cases format <;> rfl

/-- A format renders every tree under its name. The text is parsed as that
tree if the format says that it reads back, and is no text of any tree
otherwise. -/
theorem readsBack_exact (fill : Fill) (format : Format) (t : Tree) :
    format ∈ all ∧ ∃ text, renderNamed fill t format.name = .ok text ∧
      Tree.parse? text
        = if format.readsBack then .ok t else .error .notOneTree := by
  refine ⟨by cases format <;> decide, format.render fill t, ?_, ?_⟩
  · rw [renderNamed, named?_name]
    rfl
  · cases format with
    | bracket =>
      have hread := Predictive.read_bracketText t (.inl rfl)
      rw [List.append_nil] at hread
      exact Predictive.parse?_of_read_some hread
    | decimal =>
      exact Predictive.parse?_of_read_some (Predictive.read_decimalText t)
    | json => exact Predictive.parse?_indentedJson 0 t
    | prefixed =>
      have hread := Predictive.read_prefixText t []
      rw [List.append_nil] at hread
      exact Predictive.parse?_of_read_some hread
    | drawing => exact Predictive.parse?_drawing fill t

end Format

end TreeCodec
