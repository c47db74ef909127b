import TreeCodec.Proofs.Json.Layout

/-!
Trees are read back from their tokens, whatever blanks stand between these. The
reader is followed token by token in front of any rest. It stops behind the last
token of each subtree, or, where brackets nest too deep, at the first one that
does.
-/

namespace TreeCodec

namespace Json

variable {tokens : List Token} {text rest : List Char}

theorem skipBlanks_blanks_append {blanks : List Char}
    (hblanks : ∀ c ∈ blanks, isJsonBlank c = true) :
    skipBlanks (blanks ++ rest) = skipBlanks rest :=
  List.dropWhile_append_of_pos hblanks

namespace Spaced

theorem skipBlanks_sign {c : Char} (hc : isJsonBlank c = false)
    (h : Spaced (.sign c :: tokens) text rest) :
    ∃ behind, skipBlanks text = c :: behind ∧ Spaced tokens behind rest := by
  cases h with
  | @cons _ behind _ _ _ hblanks h =>
    refine ⟨behind, ?_, h⟩
    rw [skipBlanks_blanks_append hblanks]
    exact List.dropWhile_cons_of_neg (Bool.eq_false_iff.mp hc)

theorem skipBlanks_string {chars : List Char}
    (h : Spaced (.string chars :: tokens) text rest) :
    ∃ behind, skipBlanks text = '"' :: (chars ++ '"' :: behind) ∧
      Spaced tokens behind rest := by
  cases h with
  | @cons _ behind _ _ _ hblanks h =>
    refine ⟨behind, ?_, h⟩
    rw [skipBlanks_blanks_append hblanks, Token.text, List.cons_append,
      List.append_assoc]
    exact List.dropWhile_cons_of_neg (by decide)

theorem expect_sign {c : Char} (hc : isJsonBlank c = false)
    (h : Spaced (.sign c :: tokens) text rest) :
    ∃ behind, expect c text = .ok behind ∧ Spaced tokens behind rest := by
  obtain ⟨behind, hskip, hbehind⟩ := h.skipBlanks_sign hc
  refine ⟨behind, ?_, hbehind⟩
  rw [expect, hskip]
  exact if_pos rfl

end Spaced

/-- Whether a character in a string stands for itself. -/
def isPlain (c : Char) : Bool :=
  c ≠ '"' && c ≠ '\\' && 0x20 ≤ c.toNat

/-- Plain characters are read up to the closing mark. -/
theorem readString_append {chars : List Char}
    (hchars : ∀ c ∈ chars, isPlain c = true) :
    readString (chars ++ '"' :: rest) = .ok (chars, rest) := by
  induction chars with
  | nil => rw [List.nil_append, readString]
  | cons c chars ih =>
    obtain ⟨hc, hchars⟩ := List.forall_mem_cons.mp hchars
    simp only [isPlain, Bool.and_eq_true, decide_eq_true_eq] at hc
    obtain ⟨⟨hquote, hbackslash⟩, hcontrol⟩ := hc
    rw [List.cons_append, readString, if_neg (Nat.not_lt.mpr hcontrol), ih hchars]
    · rfl
    · exact hquote
    · exact hbackslash

theorem readTag_append {name : List Char} {tag : Tag} (hname : Tag.named name = .ok tag)
    (hplain : ∀ c ∈ name, isPlain c = true) :
    readTag (name ++ '"' :: rest) = .ok (tag, rest) := by
  simp only [readTag, readString_append hplain, bind, Except.bind, hname]
  rfl

theorem readTree_empty (node : Reader Tree)
    (h : Spaced [.string "Empty".toList] text rest) :
    readTree node text = .ok (.empty, rest) := by
  obtain ⟨behind, hskip, hbehind⟩ := h.skipBlanks_string
  cases hbehind
  have htag : readTag ("Empty".toList ++ '"' :: rest) = .ok (.empty, rest) :=
    readTag_append rfl (List.all_eq_true.mp rfl)
  simp only [readTree, hskip, htag]
  rfl

/-- The object of a node is its list of children, and what closes the object. -/
theorem readTree_node (inside : Reader Tree)
    (h : Spaced (.sign '\x7b' :: .string "Node".toList :: .sign ':' :: .sign '[' :: tokens)
      text rest) :
    ∃ inner, Spaced tokens inner rest ∧
      readTree (readList inside) text = (do
        let (tree, behind) ← inside inner
        let behind ← expect '\x7d' behind
        return (tree, behind)) := by
  obtain ⟨key, hbrace, h⟩ := h.skipBlanks_sign (by decide)
  obtain ⟨colon, hkey, h⟩ := h.skipBlanks_string
  obtain ⟨value, hcolon, h⟩ := h.expect_sign (by decide)
  obtain ⟨inner, hbracket, h⟩ := h.skipBlanks_sign (by decide)
  have htag : readTag ("Node".toList ++ '"' :: colon) = .ok (.node, colon) :=
    readTag_append rfl (List.all_eq_true.mp rfl)
  refine ⟨inner, h, ?_⟩
  simp only [readTree, hbrace, readKey, hkey, htag, readMember, readList, bind,
    Except.bind, hcolon, hbracket]

theorem checkMore_of_skipBlanks {c : Char} {behind : List Char}
    (h : skipBlanks text = c :: behind) (hc : c ≠ ']') : checkMore text = .ok () := by
  rw [checkMore, h]
  exact if_neg hc

theorem Spaced.checkMore_tree (t : Tree) (h : Spaced (t.jsonTokens ++ tokens) text rest) :
    checkMore text = .ok () := by
  cases t with
  | empty =>
    obtain ⟨behind, hskip, -⟩ := Spaced.skipBlanks_string h
    exact checkMore_of_skipBlanks hskip (by decide)
  | node left right =>
    rw [Tree.jsonTokens_node] at h
    obtain ⟨behind, hskip, -⟩ := Spaced.skipBlanks_sign (by decide) h
    exact checkMore_of_skipBlanks hskip (by decide)

/-- The reader reads the tree in front of any rest, or refuses it if more than
`depth` nodes stand inside one another. -/
def ReadsWithin (depth : Nat) (reader : Reader Tree) (t : Tree) : Prop :=
  ∀ text rest, Spaced t.jsonTokens text rest →
    reader text = if t.height ≤ depth then .ok (t, rest) else .error .badSyntax

theorem readChildren_spaced {depth : Nat} {child : Reader Tree} {left right : Tree}
    (hleft : ReadsWithin depth child left) (hright : ReadsWithin depth child right)
    (h : Spaced (left.jsonTokens ++ .sign ',' :: (right.jsonTokens ++ .sign ']' :: tokens))
      text rest) :
    ∃ behind, Spaced tokens behind rest ∧
      readChildren child text
        = if max left.height right.height ≤ depth then .ok (.node left right, behind)
          else .error .badSyntax := by
  have hfirst := h.checkMore_tree
  obtain ⟨middle, hleftText, h⟩ := h.exists_middle
  obtain ⟨_, hskip, -⟩ := h.skipBlanks_sign (by decide)
  have hsecond := checkMore_of_skipBlanks hskip (by decide)
  obtain ⟨after, hcomma, h⟩ := h.expect_sign (by decide)
  obtain ⟨closing, hrightText, h⟩ := h.exists_middle
  obtain ⟨behind, hclose, h⟩ := h.expect_sign (by decide)
  refine ⟨behind, h, ?_⟩
  have hreadLeft := hleft _ _ hleftText
  have hreadRight := hright _ _ hrightText
  simp only [readChildren, hfirst, bind, Except.bind]
  by_cases hleftFits : left.height ≤ depth
  · rw [if_pos hleftFits] at hreadLeft
    simp only [hreadLeft, hsecond, hcomma]
    by_cases hrightFits : right.height ≤ depth
    · rw [if_pos hrightFits] at hreadRight
      rw [if_pos (Nat.max_le.mpr ⟨hleftFits, hrightFits⟩)]
      simp only [hreadRight, hclose]
      rfl
    · rw [if_neg hrightFits] at hreadRight
      rw [if_neg fun hmax => hrightFits (Nat.max_le.mp hmax).2]
      simp only [hreadRight]
  · rw [if_neg hleftFits] at hreadLeft
    rw [if_neg fun hmax => hleftFits (Nat.max_le.mp hmax).1]
    simp only [hreadLeft]

/-- By induction on the tree; each level of it uses up one of the bound. -/
theorem readsWithin_treeWithin (depth : Nat) (t : Tree) :
    ReadsWithin depth (treeWithin depth) t := by
  induction t generalizing depth with
  | empty =>
    intro text rest h
    have hheight : Tree.empty.height ≤ depth := Nat.zero_le depth
    rw [if_pos hheight]
    cases depth <;> exact readTree_empty _ h
  | node left right ihl ihr =>
    intro text rest h
    rw [Tree.jsonTokens_node] at h
    cases depth with
    | zero =>
      obtain ⟨inner, -, hread⟩ := readTree_node (fun _ => .error .badSyntax) h
      rw [if_neg (by rw [Tree.height]; omega), treeWithin, hread]
      rfl
    | succ depth =>
      obtain ⟨inner, hinner, hread⟩ := readTree_node (readChildren (treeWithin depth)) h
      obtain ⟨behind, hbehind, hchildren⟩ :=
        readChildren_spaced (ihl depth) (ihr depth) hinner
      obtain ⟨_, hclose, hend⟩ := hbehind.expect_sign (by decide)
      cases hend
      have hheight : (Tree.node left right).height ≤ depth + 1
          ↔ max left.height right.height ≤ depth := by
        rw [Tree.height]
        omega
      rw [treeWithin, hread, hchildren]
      simp only [hheight]
      split
      · simp only [bind, Except.bind, hclose]
        rfl
      · rfl

theorem height_le_maxHeight_iff {t : Tree} :
    t.height ≤ maxHeight ↔ nesting 0 t.jsonTokens ≤ 127 := by
  have hnesting := t.nesting_jsonTokens_append 0 []
  rw [List.append_nil, Nat.zero_add, nesting, Nat.max_zero] at hnesting
  rw [hnesting, maxHeight]
  omega

end Json

open Json

/-- A text of the tokens of a tree, with any blanks between, in front of and
behind them, is read as the tree if brackets nest at most 127 levels deep, and
is refused if they nest deeper. -/
theorem Tree.ofJson?_of_spaced {t : Tree} {text after : List Char}
    (h : Spaced t.jsonTokens text after) (hafter : ∀ c ∈ after, isJsonBlank c = true) :
    Tree.ofJson? text
      = if nesting 0 t.jsonTokens ≤ 127 then .ok t else .error .badSyntax := by
  have hend := @Json.skipBlanks_blanks_append [] after hafter
  rw [List.append_nil] at hend
  have hread := readsWithin_treeWithin maxHeight t text after h
  simp only [height_le_maxHeight_iff] at hread
  rw [Tree.ofJson?, hread]
  split
  · simp only [bind, Except.bind, hend]
    rfl
  · rfl

/-- A tree is read back from its compact JSON text, from the indented one, and
from the compact one with blanks put in front of tokens and behind the last one,
whatever its shape, as long as brackets nest at most 127 levels deep. Deeper
ones are refused in every spacing. -/
theorem Tree.ofJson?_layouts_exact (t : Tree) :
    t.jsonText = t.jsonTokens.flatMap Token.text ∧
    (nesting 0 t.jsonTokens ≤ 127 →
      Tree.ofJson? t.jsonText = .ok t ∧
      Tree.ofJson? (t.indentedJson 0) = .ok t ∧
      ∀ text after, Spaced t.jsonTokens text after →
        (∀ c ∈ after, isJsonBlank c = true) → Tree.ofJson? text = .ok t) ∧
    (127 < nesting 0 t.jsonTokens →
      ∀ text after, Spaced t.jsonTokens text after →
        (∀ c ∈ after, isJsonBlank c = true) →
          Tree.ofJson? text = .error .badSyntax) := by
  have hindented := t.spaced_indentedJson_append 0 []
  rw [List.append_nil] at hindented
  refine ⟨t.jsonText_eq_flatMap, fun h => ⟨?_, ?_, ?_⟩, ?_⟩
  · rw [Tree.ofJson?_of_spaced t.spaced_jsonText (List.forall_mem_nil _), if_pos h]
  · rw [Tree.ofJson?_of_spaced hindented (List.forall_mem_nil _), if_pos h]
  · intro text after hspaced hafter
    rw [Tree.ofJson?_of_spaced hspaced hafter, if_pos h]
  · intro h text after hspaced hafter
    rw [Tree.ofJson?_of_spaced hspaced hafter, if_neg (Nat.not_le.mpr h)]

/-- A text with all four kinds of blanks, and a tree that is one level too high. -/
theorem Tree.ofJson?_layouts_exact_spread :
    Tree.ofJson? ("\x7b \"Node\"\n:[\t\"Empty\",\r\"Empty\"]\x7d ".toList)
      = .ok (.node .empty .empty) ∧
    Tree.ofJson? (Tree.stackRight 64 .empty).jsonText = .error .badSyntax := by
  have hblank (c : Char) (hc : isJsonBlank c = true) : ∀ d ∈ [c], isJsonBlank d = true :=
    List.forall_mem_singleton.mpr hc
  obtain ⟨-, hread, -⟩ := Tree.ofJson?_layouts_exact (.node .empty .empty)
  obtain ⟨-, -, hrefused⟩ := Tree.ofJson?_layouts_exact (Tree.stackRight 64 .empty)
  constructor
  · obtain ⟨-, -, hspaced⟩ := hread (by decide)
    refine hspaced _ [' '] ?_ (hblank ' ' rfl)
    exact .token _ (.cons _ (hblank ' ' rfl) (.cons _ (hblank '\n' rfl) (.token _
      (.cons _ (hblank '\t' rfl) (.token _ (.cons _ (hblank '\r' rfl) (.token _
      (.token _ (.nil [' '])))))))))
  · exact hrefused (by decide +kernel) _ [] (Tree.spaced_jsonText _) (List.forall_mem_nil _)

end TreeCodec
