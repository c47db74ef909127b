import TreeCodec.Proofs.Format.ReadBack

/-!
The texts of the notations, one by one: each is parsed as its tree and stands
on a single line.
-/

namespace TreeCodec

open Text

namespace Tree

variable (t : Tree)

theorem parse?_prefixText : Tree.parse? t.prefixText = .ok t := by
  have hread := Predictive.read_prefixText t []
  rw [List.append_nil] at hread
  exact Predictive.parse?_of_read_some hread

theorem parse?_bracketText : Tree.parse? t.bracketText = .ok t := by
  have hread := Predictive.read_bracketText t (.inl rfl)
  rw [List.append_nil] at hread
  exact Predictive.parse?_of_read_some hread

theorem parse?_decimalText : Tree.parse? t.decimalText = .ok t :=
  Predictive.parse?_of_read_some (Predictive.read_decimalText t)

variable {t} {c : Char}

theorem mem_prefixText (hc : c ∈ t.prefixText) : c = '+' ∨ c = '-' := by
  induction t with
  | empty => exact .inr (List.mem_singleton.mp hc)
  | node left right ihl ihr =>
    rw [prefixText, List.mem_cons, List.mem_append] at hc
    obtain hplus | hleft | hright := hc
    · exact .inl hplus
    · exact ihl hleft
    · exact ihr hright

theorem mem_bracketText (hc : c ∈ t.bracketText) : c = '/' ∨ c = '\\' := by
  induction t with
  | empty => cases hc
  | node left right ihl ihr =>
    rw [bracketText, List.mem_cons, List.mem_append, List.mem_cons] at hc
    obtain hopen | hleft | hclose | hright := hc
    · exact .inl hopen
    · exact ihl hleft
    · exact .inr hclose
    · exact ihr hright

end Tree

namespace Format

variable {format : Format} (h : format.readsBack = true) (fill : Fill) (t : Tree)
include h

theorem parse?_render : Tree.parse? (format.render fill t) = .ok t := by
  cases format with
  | bracket => exact t.parse?_bracketText
  | decimal => exact t.parse?_decimalText
  | prefixed => exact t.parse?_prefixText
  | json => cases h
  | drawing => cases h

/-- The text of a notation is one line. -/
theorem ne_lineEnd_of_mem_render {c : Char} (hc : c ∈ format.render fill t) :
    c ≠ '\n' ∧ c ≠ '\r' := by
  cases format with
  | bracket => obtain rfl | rfl := Tree.mem_bracketText hc <;> decide
  | decimal =>
    have hdigit : isDigit c = true := isDigit_of_mem_numeral hc
    exact ⟨ne_of_isDigit hdigit (by decide), ne_of_isDigit hdigit (by decide)⟩
  | prefixed => obtain rfl | rfl := Tree.mem_prefixText hc <;> decide
  | json => cases h
  | drawing => cases h

end Format

end TreeCodec
