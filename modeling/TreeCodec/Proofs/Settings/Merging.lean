import Mathlib.Data.List.TakeDrop
import Mathlib.Data.List.TakeWhile
import TreeCodec.Settings

/-!
What stands at a key after a layer was laid over a table. Keys that differ in
lower case do not meet: the value at a key is the one of the layer, laid over
the earlier one, if the layer has that key, and the earlier one if it has not.
The entries of a file whose keys are plain names are laid over the settings in
the same way as those of a table within it.
-/

namespace TreeCodec.Settings

open Text

section Keys

variable {β : Type}

/-- The value under a key, where keys are compared in lower case. -/
def underKey? (key : Key) : List (Key × β) → Option β
  | [] => none
  | (k, value) :: rest =>
    if lowerCase k = key then some value else underKey? key rest

def DistinctKeys (entries : List (Key × β)) : Prop :=
  ((entries.map Prod.fst).map lowerCase).Nodup

instance (entries : List (Key × β)) : Decidable (DistinctKeys entries) :=
  inferInstanceAs (Decidable ((entries.map Prod.fst).map lowerCase).Nodup)

theorem DistinctKeys.tail {entry : Key × β} {entries : List (Key × β)}
    (h : DistinctKeys (entry :: entries)) : DistinctKeys entries :=
  (List.nodup_cons.mp h).2

theorem underKey?_eq_none {key : Key} {entries : List (Key × β)}
    (h : key ∉ (entries.map Prod.fst).map lowerCase) :
    underKey? key entries = none := by
  induction entries with
  | nil => rfl
  | cons entry entries ih =>
    simp only [List.map_cons, List.mem_cons, not_or] at h
    rw [underKey?, if_neg (Ne.symm h.1), ih h.2]

/-- The keys behind the first entry are different from its key. -/
theorem DistinctKeys.underKey?_tail {entry : Key × β} {entries : List (Key × β)}
    (h : DistinctKeys (entry :: entries)) :
    underKey? (lowerCase entry.1) entries = none :=
  underKey?_eq_none (List.nodup_cons.mp h).1

end Keys

section Files

variable (origin : Option String) (entries : List (Toml.Key × Toml.Value))

theorem underKey?_ofTomlEntries (key : Key) :
    underKey? key (ofTomlEntries origin entries)
      = (underKey? key entries).map (Value.ofToml origin) := by
  induction entries with
  | nil => rfl
  | cons entry entries ih =>
    rw [ofTomlEntries, underKey?, underKey?, ih]
    by_cases h : lowerCase entry.1 = key <;> simp [h]

theorem map_fst_ofTomlEntries :
    (ofTomlEntries origin entries).map Prod.fst = entries.map Prod.fst := by
  induction entries with
  | nil => rfl
  | cons entry entries ih => rw [ofTomlEntries, List.map_cons, List.map_cons, ih]

variable {entries}

theorem DistinctKeys.ofTomlEntries (h : DistinctKeys entries) :
    DistinctKeys (ofTomlEntries origin entries) := by
  rwa [DistinctKeys, map_fst_ofTomlEntries]

end Files

theorem lookup_update (key k : Key) (change : Option Value → Value)
    (entries : List (Key × Value)) :
    (update key change entries).lookup k
      = if k = key then some (change (entries.lookup key))
        else entries.lookup k := by
  induction entries with
  | nil =>
    by_cases h : k = key
    · simp [update, h]
    · simp [update, List.lookup_cons, beq_false_of_ne h, h]
  | cons entry entries ih =>
    obtain ⟨first, value⟩ := entry
    by_cases hfirst : first = key
    · subst hfirst
      by_cases h : k = first
      · simp [update, h]
      · simp [update, List.lookup_cons, beq_false_of_ne h, h]
    · by_cases h : k = first
      · subst h
        simp [update, hfirst]
      · have hkey := beq_false_of_ne (Ne.symm hfirst)
        simp only [update, hfirst, ↓reduceIte, List.lookup_cons,
          beq_false_of_ne h, hkey, ih]

namespace Value

/-- What stands at a key of a table; in other values nothing does. -/
def at? (value : Value) (key : Key) : Option Value :=
  value.entries.lookup key

def isTable : Value → Bool
  | table _ _ => true
  | _ => false

theorem at?_putting (value : Value) (key k : Key)
    (change : Option Value → Value) :
    (value.putting key change).at? k
      = if k = lowerCase key then some (change (value.at? k))
        else value.at? k := by
  rw [at?, putting, entries, lookup_update]
  by_cases h : k = lowerCase key
  · rw [if_pos h, if_pos h, h]
    rfl
  · rw [if_neg h, if_neg h]
    rfl

variable {incoming : List (Key × Value)}

/-- The one law of laying a table over another: at every key, the new value
over the old one where there is a new value. -/
theorem at?_overEntries (h : DistinctKeys incoming) (existing : Value)
    (key : Key) :
    (overEntries incoming existing).at? key
      = ((underKey? key incoming).map fun value => value.over (existing.at? key)).or
          (existing.at? key) := by
  induction incoming generalizing existing with
  | nil => rfl
  | cons entry incoming ih =>
    obtain ⟨k, value⟩ := entry
    have hbehind := h.underKey?_tail
    rw [overEntries, ih h.tail, underKey?, at?_putting]
    by_cases hkey : lowerCase k = key
    · subst hkey
      rw [hbehind, if_pos rfl, if_pos rfl]
      rfl
    · rw [if_neg hkey, if_neg (Ne.symm hkey)]

theorem isTable_overEntries {existing : Value} (h : existing.isTable) :
    (overEntries incoming existing).isTable := by
  induction incoming generalizing existing with
  | nil => exact h
  | cons entry incoming ih => exact ih rfl

end Value

/-- A key that is a name: letters, digits, underscores and hyphens. -/
def IsPlainKey (key : Key) : Prop :=
  key ≠ [] ∧ ∀ c ∈ key, Toml.isBareKeyChar c

instance (key : Key) : Decidable (IsPlainKey key) :=
  @instDecidableAnd _ _ _ (List.decidableBAll _ key)

/-- A name is a path of one step. -/
theorem pathOf_plain {key : Key} (h : IsPlainKey key) :
    pathOf key = [.key key] := by
  obtain ⟨hne, hchars⟩ := h
  have hpath : ∀ c ∈ key, isPathChar c = true := by
    intro c hc
    have hbare := hchars c hc
    simp only [Toml.isBareKeyChar, Bool.or_eq_true, decide_eq_true_eq] at hbare
    simp only [isPathChar, Bool.or_eq_true, decide_eq_true_eq]
    exact .inl hbare
  have htake : key.takeWhile isPathChar = key := List.takeWhile_eq_self_iff.mpr hpath
  have hdrop : key.dropWhile isPathChar = [] := List.dropWhile_eq_nil_iff.mpr hpath
  simp [pathOf, readPath?, readStepKey?, htake, hdrop, hne, readSteps?]

/-- Entries whose keys are names are laid over settings as a table would be. -/
theorem Value.layered_eq_overEntries {entries : List (Key × Value)}
    (h : ∀ entry ∈ entries, IsPlainKey entry.1) (base : Value) :
    base.layered entries = some (overEntries entries base) := by
  induction entries generalizing base with
  | nil => rfl
  | cons entry entries ih =>
    obtain ⟨hentry, hentries⟩ := List.forall_mem_cons.mp h
    have hstep : entry.2.setAt (pathOf entry.1) base
        = some (base.putting entry.1 entry.2.over) := by
      rw [pathOf_plain hentry]
      rfl
    rw [Value.layered_cons, hstep]
    exact ih hentries (base.putting entry.1 entry.2.over)

end TreeCodec.Settings
