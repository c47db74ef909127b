/-!
The ends of texts.
-/

namespace TreeCodec.Text

/-- The text without the characters of a class at its end. -/
def trimEnd (isDropped : Char → Bool) (text : List Char) : List Char :=
  (text.reverse.dropWhile isDropped).reverse

/-- Characters of the class behind a text make no difference. -/
theorem trimEnd_append {isDropped : Char → Bool} (text ending : List Char)
    (h : ending.all isDropped) :
    trimEnd isDropped (text ++ ending) = trimEnd isDropped text := by
  unfold trimEnd
  rw [List.reverse_append, List.dropWhile_append_of_pos]
  intro c hc
  exact List.all_eq_true.mp h c (List.mem_reverse.mp hc)

/-- A text with no such character at its end stays as it is. -/
theorem trimEnd_eq_self {isDropped : Char → Bool} {text : List Char}
    (h : ∀ c ∈ text.getLast?, isDropped c = false) :
    trimEnd isDropped text = text := by
  have hreverse : text.reverse.dropWhile isDropped = text.reverse := by
    rw [← List.head?_reverse] at h
    cases hlast : text.reverse with
    | nil => rfl
    | cons c rest =>
      have hc : isDropped c = false := h c (by rw [hlast]; rfl)
      simp [hc]
  rw [trimEnd, hreverse, List.reverse_reverse]

/-- What is taken off a text is an ending of characters of the class. -/
theorem exists_trimEnd_append (isDropped : Char → Bool) (text : List Char) :
    ∃ ending, text = trimEnd isDropped text ++ ending ∧
      ∀ c ∈ ending, isDropped c = true := by
  refine ⟨(text.reverse.takeWhile isDropped).reverse, ?_, ?_⟩
  · rw [trimEnd, ← List.reverse_append, List.takeWhile_append_dropWhile,
      List.reverse_reverse]
  · intro c hc
    exact List.all_eq_true.mp List.all_takeWhile c (List.mem_reverse.mp hc)

end TreeCodec.Text
