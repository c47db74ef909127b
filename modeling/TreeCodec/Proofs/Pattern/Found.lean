import TreeCodec.Pattern.Search

/-!
A match is a part of the text it was found in: what stands in front of it, the
text matched and what stands behind it make up the whole text, in this order.
The search keeps only what is left behind a match, so the one thing to know
about it is that this is an end of the text.
-/

namespace TreeCodec.Pattern

theorem suffix_of_ite {accepted : Bool} {text rest : List Char}
    (h : (if accepted then some text else none) = some rest) : rest <:+ text := by
  obtain ⟨-, htext⟩ := Option.ite_none_right_eq_some.mp h
  cases htext
  exact List.suffix_refl text

/-- What is left behind a match is an end of the text. -/
theorem Program.restFrom?_isSuffix {program : Program} {atStart : Bool}
    {todo : List Nat} {text rest : List Char}
    (h : program.restFrom? atStart todo text = some rest) : rest <:+ text := by
  induction text generalizing atStart todo with
  | nil =>
    rw [Program.restFrom?] at h
    exact suffix_of_ite h
  | cons c tail ih =>
    rw [Program.restFrom?] at h
    split at h
    · exact suffix_of_ite h
    · rcases Option.or_eq_some_iff.mp h with hfurther | ⟨-, hhere⟩
      · exact (ih hfurther).trans (List.suffix_cons c tail)
      · exact suffix_of_ite hhere

/-- The parts of a match that begins with a text make up what was passed over
and that text. -/
theorem Program.append_of_foundAt? {program : Program}
    {passed text : List Char} {found : Found}
    (h : program.foundAt? passed text = some found) :
    found.before ++ found.text ++ found.after = passed.reverse ++ text := by
  obtain ⟨rest, hrest, rfl⟩ := Option.map_eq_some_iff.mp h
  obtain ⟨matched, rfl⟩ := Program.restFrom?_isSuffix hrest
  simp

theorem Program.append_of_findFrom {program : Program}
    {passed text : List Char} {found : Found}
    (h : program.findFrom passed text = some found) :
    found.before ++ found.text ++ found.after = passed.reverse ++ text := by
  induction text generalizing passed with
  | nil =>
    rw [Program.findFrom, Option.orElse_eq_or] at h
    rcases Option.or_eq_some_iff.mp h with hat | ⟨-, hnone⟩
    · exact Program.append_of_foundAt? hat
    · cases hnone
  | cons c tail ih =>
    rw [Program.findFrom, Option.orElse_eq_or] at h
    rcases Option.or_eq_some_iff.mp h with hat | ⟨-, hlater⟩
    · exact Program.append_of_foundAt? hat
    · rw [ih hlater, List.reverse_cons, List.append_assoc, List.singleton_append]

theorem append_of_find {p : Pattern} {text : List Char} {found : Found}
    (h : p.find text = some found) :
    found.before ++ found.text ++ found.after = text := by
  rw [find] at h
  split at h
  · exact Program.append_of_foundAt? h
  · exact Program.append_of_findFrom h

end TreeCodec.Pattern
