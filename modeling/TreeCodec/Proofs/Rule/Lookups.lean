import Mathlib.Data.List.Induction
import TreeCodec.Proofs.Rule.Consumption

/-!
What a run asks for. `Rule.lookups` lists the references that a run looks up,
each with the state from which it is run, in the order of the run: the second
part of a sequence only behind a success of the first one, and the second
alternative of a choice only behind a failure of the first one. The run depends
on nothing else, and every lookup is at an end of the text of the run.

`Rule.NeverRefuses` says of the reductions in a rule that each has a value for
whatever nodes it may be given.
-/

namespace TreeCodec

variable {α : Type}

namespace Rule

def lookups (resolve : Nat → State α → Outcome α) :
    Rule α → State α → List (Nat × State α)
  | literal _, _ | pattern _, _ | epsilon, _ | never, _ => []
  | andThen first second, s =>
    first.lookups resolve s ++
      match first.applyWith resolve s with
      | .parsed s => second.lookups resolve s
      | _ => []
  | orElse first second, s =>
    first.lookups resolve (.start s.rest) ++
      match first.applyWith resolve (.start s.rest) with
      | .failed => second.lookups resolve (.start s.rest)
      | _ => []
  | map rule _, s | tryMap rule _, s | discard rule, s =>
    rule.lookups resolve (.start s.rest)
  | reference declaration, s => [(declaration, s)]

/-- Every reduction that may fail has a value for all that its rule produces. -/
def NeverRefuses (resolve : Nat → State α → Outcome α) : Rule α → Prop
  | literal _ | pattern _ | epsilon | never | reference _ => True
  | andThen first second | orElse first second =>
    first.NeverRefuses resolve ∧ second.NeverRefuses resolve
  | map rule _ | discard rule => rule.NeverRefuses resolve
  | tryMap rule reduce =>
    rule.NeverRefuses resolve ∧
      ∀ text produced, rule.applyWith resolve (.start text) = .parsed produced →
        (reduce produced.done).isSome

/-- How the references of a run are run if they nest at most `depth` levels. -/
def resolveWithin (store : Store α) (depth declaration : Nat) (s : State α) :
    Outcome α :=
  (reference declaration).applyWithin store depth s

variable {resolve : Nat → State α → Outcome α}

/-- Two meanings of references that agree on the lookups of a run make the same
of it, and the run looks up the same under both. -/
theorem applyWith_eq_of_lookups {other : Nat → State α → Outcome α}
    (rule : Rule α) (s : State α)
    (h : ∀ lookup ∈ rule.lookups resolve s,
      resolve lookup.1 lookup.2 = other lookup.1 lookup.2) :
    rule.applyWith other s = rule.applyWith resolve s ∧
      rule.lookups other s = rule.lookups resolve s := by
  induction rule generalizing s with
  | literal | pattern | epsilon | never => exact ⟨rfl, rfl⟩
  | andThen first second ihFirst ihSecond =>
    simp only [lookups, List.mem_append] at h
    obtain ⟨hfirst, hlookups⟩ := ihFirst s fun lookup hmem => h lookup (.inl hmem)
    simp only [applyWith, lookups, hfirst, hlookups]
    cases hrun : first.applyWith resolve s with
    | unfinished | failed => exact ⟨rfl, rfl⟩
    | parsed middle =>
      obtain ⟨hsecond, hlookups'⟩ := ihSecond middle fun lookup hmem =>
        h lookup (.inr (by rwa [hrun]))
      simp only [Outcome.bind, hsecond, hlookups', and_self]
  | orElse first second ihFirst ihSecond =>
    simp only [lookups, List.mem_append] at h
    obtain ⟨hfirst, hlookups⟩ :=
      ihFirst (.start s.rest) fun lookup hmem => h lookup (.inl hmem)
    simp only [applyWith, lookups, hfirst, hlookups]
    cases hrun : first.applyWith resolve (.start s.rest) with
    | unfinished | parsed => exact ⟨rfl, rfl⟩
    | failed =>
      obtain ⟨hsecond, hlookups'⟩ := ihSecond (.start s.rest) fun lookup hmem =>
        h lookup (.inr (by rwa [hrun]))
      simp only [Outcome.orElse, hsecond, hlookups', and_self]
  | map rule reduce ih | tryMap rule reduce ih | discard rule ih =>
    obtain ⟨hrule, hlookups⟩ := ih (.start s.rest) h
    simp only [applyWith, lookups, hrule, hlookups, and_self]
  | reference declaration =>
    exact ⟨(h (declaration, s) (List.mem_singleton_self _)).symm, rfl⟩

section Places

variable (hresolve : ∀ declaration, Advances (resolve declaration))
include hresolve

/-- Every lookup is at an end of the text of the run. -/
theorem lookups_isSuffix (rule : Rule α) (s : State α) :
    ∀ lookup ∈ rule.lookups resolve s, lookup.2.rest <:+ s.rest := by
  induction rule generalizing s with
  | literal | pattern | epsilon | never => exact fun _ hmem => nomatch hmem
  | andThen first second ihFirst ihSecond =>
    intro lookup hmem
    rcases List.mem_append.mp hmem with hmem | hmem
    · exact ihFirst s lookup hmem
    · cases hrun : first.applyWith resolve s with
      | unfinished | failed =>
        rw [hrun] at hmem
        cases hmem
      | parsed middle =>
        rw [hrun] at hmem
        exact (ihSecond middle lookup hmem).trans
          (applyWith_advances hresolve first s middle hrun)
  | orElse first second ihFirst ihSecond =>
    intro lookup hmem
    rcases List.mem_append.mp hmem with hmem | hmem
    · exact ihFirst (.start s.rest) lookup hmem
    · cases hrun : first.applyWith resolve (.start s.rest) with
      | unfinished | parsed =>
        rw [hrun] at hmem
        cases hmem
      | failed =>
        rw [hrun] at hmem
        exact ihSecond (.start s.rest) lookup hmem
  | map rule reduce ih | tryMap rule reduce ih | discard rule ih =>
    exact ih (.start s.rest)
  | reference declaration =>
    intro lookup hmem
    cases List.mem_singleton.mp hmem
    exact List.suffix_refl s.rest

end Places

/-- The lookups of a choice are those of its alternatives. -/
theorem exists_of_mem_lookups_choice {rules : List (Rule α)} {s : State α}
    {lookup : Nat × State α} (h : lookup ∈ (choice rules).lookups resolve s) :
    ∃ rule ∈ rules, lookup ∈ rule.lookups resolve (.start s.rest) := by
  induction rules using List.reverseRecOn generalizing s with
  | nil => cases h
  | append_singleton earlier last ih =>
    rw [choice, List.foldl_append] at h
    rcases List.mem_append.mp h with hmem | hmem
    · obtain ⟨rule, hrule, hlookup⟩ := ih hmem
      exact ⟨rule, List.mem_append_left [last] hrule, hlookup⟩
    · refine ⟨last, List.mem_append_right earlier (List.mem_singleton_self last), ?_⟩
      split at hmem
      · exact hmem
      · cases hmem

/-- Folding rules onto a first one looks up what the first one does, and behind
its success what their sequence does. -/
theorem lookups_foldl_andThen (first : Rule α) (rules : List (Rule α))
    (s : State α) :
    (rules.foldl andThen first).lookups resolve s
      = first.lookups resolve s ++
        match first.applyWith resolve s with
        | .parsed s => (sequence rules).lookups resolve s
        | _ => [] := by
  induction rules generalizing first s with
  | nil =>
    cases hrun : first.applyWith resolve s <;> simp [sequence, lookups]
  | cons rule rules ih =>
    have hrules (s : State α) : (sequence (rule :: rules)).lookups resolve s
        = rule.lookups resolve s ++
          match rule.applyWith resolve s with
          | .parsed s => (sequence rules).lookups resolve s
          | _ => [] := by
      rw [sequence, List.foldl_cons, ih]
      rfl
    simp only [List.foldl_cons, ih, lookups, applyWith, hrules]
    cases hrun : first.applyWith resolve s with
    | unfinished | failed => simp [Outcome.bind]
    | parsed middle => simp only [Outcome.bind, List.append_assoc]

theorem lookups_sequence_cons (rule : Rule α) (rules : List (Rule α))
    (s : State α) :
    (sequence (rule :: rules)).lookups resolve s
      = rule.lookups resolve s ++
        match rule.applyWith resolve s with
        | .parsed s => (sequence rules).lookups resolve s
        | _ => [] := by
  rw [sequence, List.foldl_cons, lookups_foldl_andThen]
  rfl

/-- Behind a literal every lookup is at less text. -/
theorem length_of_mem_lookups_literal
    (hresolve : ∀ declaration, Advances (resolve declaration))
    {text : List Char} (htext : text ≠ []) {rules : List (Rule α)} {s : State α}
    {lookup : Nat × State α}
    (h : lookup ∈ (sequence (literal text :: rules)).lookups resolve s) :
    lookup.2.rest.length < s.rest.length := by
  rw [lookups_sequence_cons] at h
  rcases List.mem_append.mp h with hmem | hmem
  · cases hmem
  · cases hrun : (literal text).applyWith resolve s with
    | unfinished | failed =>
      rw [hrun] at hmem
      cases hmem
    | parsed middle =>
      rw [hrun] at hmem
      obtain ⟨rest, hrest, rfl⟩ := literal_eq_parsed hrun
      have hsuffix : lookup.2.rest <:+ rest :=
        lookups_isSuffix hresolve (sequence rules) _ lookup hmem
      have hle := hsuffix.length_le
      have hpos := List.length_pos_iff.mpr htext
      rw [hrest, List.length_append]
      omega

end Rule

end TreeCodec
