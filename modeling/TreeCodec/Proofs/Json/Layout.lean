import TreeCodec.Json.Reader
import TreeCodec.Json.Writer

/-!
JSON texts of trees as tokens with blanks between them. Both layouts write the
tokens of the tree, the compact one without blanks and the other one with line
ends and indentation. The tokens also say how deep the brackets nest, which is
two levels for each level of the tree.
-/

namespace TreeCodec

namespace Json

inductive Token where
  | sign (c : Char)
  | string (chars : List Char)

def Token.text : Token → List Char
  | sign c => [c]
  | string chars => '"' :: (chars ++ ['"'])

/-- The text begins with the tokens, with blanks in front of each or without,
and `rest` stands behind the last one. -/
inductive Spaced : (tokens : List Token) → (text rest : List Char) → Prop where
  | nil (rest : List Char) : Spaced [] rest rest
  | cons {blanks text rest : List Char} {tokens : List Token} (token : Token)
    (hblanks : ∀ c ∈ blanks, isJsonBlank c = true) (h : Spaced tokens text rest) :
    Spaced (token :: tokens) (blanks ++ (token.text ++ text)) rest

/-- The most brackets that are open at once, if `opened` are so in front of the
tokens. -/
def nesting (opened : Nat) : (tokens : List Token) → Nat
  | [] => opened
  | .string _ :: tokens => nesting opened tokens
  | .sign c :: tokens =>
    if c = '[' || c = '\x7b' then max opened (nesting (opened + 1) tokens)
    else if c = ']' || c = '\x7d' then max opened (nesting (opened - 1) tokens)
    else nesting opened tokens

namespace Spaced

variable {first second tokens : List Token} {blanks text middle rest : List Char}

theorem token (token : Token) (h : Spaced tokens text rest) :
    Spaced (token :: tokens) (token.text ++ text) rest := by
  have hspaced := Spaced.cons token (List.forall_mem_nil _) h
  rwa [List.nil_append] at hspaced

theorem behind_blanks (hne : tokens ≠ []) (hblanks : ∀ c ∈ blanks, isJsonBlank c = true)
    (h : Spaced tokens text rest) : Spaced tokens (blanks ++ text) rest := by
  cases h with
  | nil => exact absurd rfl hne
  | cons token hblanks' h =>
    rw [← List.append_assoc]
    exact .cons token (List.forall_mem_append.mpr ⟨hblanks, hblanks'⟩) h

theorem append (hfirst : Spaced first text middle) (hsecond : Spaced second middle rest) :
    Spaced (first ++ second) text rest := by
  induction hfirst with
  | nil => exact hsecond
  | cons token hblanks _ ih => exact .cons token hblanks (ih hsecond)

theorem exists_middle (h : Spaced (first ++ second) text rest) :
    ∃ middle, Spaced first text middle ∧ Spaced second middle rest := by
  induction first generalizing text with
  | nil => exact ⟨text, .nil text, h⟩
  | cons token first ih =>
    cases h with
    | cons _ hblanks h =>
      obtain ⟨middle, hfirst, hsecond⟩ := ih h
      exact ⟨middle, .cons token hblanks hfirst, hsecond⟩

/-- Tokens without any blanks. -/
theorem flatMap_text_append (tokens : List Token) (rest : List Char) :
    Spaced tokens (tokens.flatMap Token.text ++ rest) rest := by
  induction tokens with
  | nil => exact .nil rest
  | cons token tokens ih =>
    rw [List.flatMap_cons, List.append_assoc]
    exact ih.token token

end Spaced

theorem le_nesting (opened : Nat) (tokens : List Token) : opened ≤ nesting opened tokens := by
  induction tokens with
  | nil => exact Nat.le_refl _
  | cons token tokens ih =>
    cases token with
    | string chars => exact ih
    | sign c =>
      rw [nesting]
      split
      · exact Nat.le_max_left _ _
      · split
        · exact Nat.le_max_left _ _
        · exact ih

end Json

namespace Tree

open Json

def jsonTokens : Tree → List Token
  | empty => [.string "Empty".toList]
  | node left right =>
    [.sign '\x7b', .string "Node".toList, .sign ':', .sign '['] ++ left.jsonTokens
      ++ [.sign ','] ++ right.jsonTokens ++ [.sign ']', .sign '\x7d']

theorem jsonTokens_node (left right : Tree) :
    (node left right).jsonTokens
      = .sign '\x7b' :: .string "Node".toList :: .sign ':' :: .sign '[' ::
          (left.jsonTokens ++ .sign ',' ::
            (right.jsonTokens ++ [.sign ']', .sign '\x7d'])) := by
  simp only [jsonTokens, List.append_assoc]
  rfl

variable (t : Tree)

theorem jsonTokens_ne_nil : t.jsonTokens ≠ [] := by
  cases t <;> exact List.cons_ne_nil _ _

theorem jsonText_eq_flatMap : t.jsonText = t.jsonTokens.flatMap Token.text := by
  induction t with
  | empty => rfl
  | node left right ihl ihr =>
    simp only [jsonTokens, List.flatMap_append, ← ihl, ← ihr]
    rfl

theorem spaced_jsonText : Spaced t.jsonTokens t.jsonText [] := by
  have hspaced := Spaced.flatMap_text_append t.jsonTokens []
  rwa [List.append_nil, ← jsonText_eq_flatMap] at hspaced

theorem isJsonBlank_of_mem_indentedLine {indent : Nat} {c : Char}
    (hc : c ∈ indentedLine indent) : isJsonBlank c = true := by
  obtain rfl | hspace := List.mem_cons.mp hc
  · rfl
  · rw [List.eq_of_mem_replicate hspace]
    rfl

theorem spaced_indentedJson_append (indent : Nat) (rest : List Char) :
    Spaced t.jsonTokens (t.indentedJson indent ++ rest) rest := by
  induction t generalizing indent rest with
  | empty => exact Spaced.flatMap_text_append [.string "Empty".toList] rest
  | node left right ihl ihr =>
    have hline (indent : Nat) : ∀ c ∈ indentedLine indent, isJsonBlank c = true :=
      fun c hc => isJsonBlank_of_mem_indentedLine hc
    have hspace : ∀ c ∈ [' '], isJsonBlank c = true := List.all_eq_true.mp rfl
    -- From the closing brackets back to the opening ones.
    have hclosing : Spaced [.sign ']', .sign '\x7d'] _ rest :=
      .cons _ (hline (indent + 2)) (.cons _ (hline indent) (.nil rest))
    have hright := ((ihr (indent + 4) _).append hclosing).behind_blanks
      (List.append_ne_nil_of_left_ne_nil right.jsonTokens_ne_nil _) (hline (indent + 4))
    have hleft := ((ihl (indent + 4) _).append (hright.token (.sign ','))).behind_blanks
      (List.append_ne_nil_of_left_ne_nil left.jsonTokens_ne_nil _) (hline (indent + 4))
    have hinside := (Spaced.cons (.sign '[') hspace hleft).token (.sign ':')
    have hnode := (Spaced.cons (.string "Node".toList) (hline (indent + 2)) hinside).token
      (.sign '\x7b')
    rw [jsonTokens_node]
    simp only [indentedJson_node, List.append_assoc]
    exact hnode

theorem nesting_jsonTokens_append (opened : Nat) (tokens : List Token) :
    nesting opened (t.jsonTokens ++ tokens)
      = max (opened + 2 * t.height) (nesting opened tokens) := by
  induction t generalizing opened tokens with
  | empty => exact (Nat.max_eq_right (le_nesting opened tokens)).symm
  | node left right ihl ihr =>
    have hopening (inside : List Token) :
        nesting opened (.sign '\x7b' :: .string "Node".toList :: .sign ':' :: .sign '['
            :: inside)
          = max opened (max (opened + 1) (nesting (opened + 2) inside)) := rfl
    have hcomma (inside : List Token) :
        nesting (opened + 2) (.sign ',' :: inside) = nesting (opened + 2) inside := rfl
    have hclosing :
        nesting (opened + 2) (.sign ']' :: .sign '\x7d' :: tokens)
          = max (opened + 2) (max (opened + 1) (nesting opened tokens)) := rfl
    have hle := le_nesting opened tokens
    simp only [jsonTokens_node, List.cons_append, List.nil_append, List.append_assoc]
    rw [hopening, ihl, hcomma, ihr, hclosing, height]
    omega

end Tree

end TreeCodec
