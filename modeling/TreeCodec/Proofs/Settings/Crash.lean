import TreeCodec.Settings

/-!
When settings crash. A position leads nowhere if it counts back past the first
element, or if no array is long enough for it. Whether there are elements enough
to count back over depends on all that was laid before; but a key without
negative positions and without positions beyond all arrays always leads
somewhere. So files without such keys give settings or an error that is
reported.
-/

namespace TreeCodec.Settings

/-- The step may lead nowhere. -/
def KeyStep.IsRisky : KeyStep → Prop
  | key _ => False
  | index n => n < 0 ∨ longestArray ≤ n.toNat

/-- Some key has a position that may lie nowhere. -/
def HasRiskyKey (entries : List (Key × Value)) : Prop :=
  ∃ entry ∈ entries, ∃ step ∈ pathOf entry.1, step.IsRisky

theorem position?_eq_none_iff {n : Int} {length : Nat} :
    position? n length = none
      ↔ n < 0 ∧ length < n.natAbs ∨ longestArray ≤ n.toNat := by
  have hlongest : 0 < longestArray := by decide
  rw [position?]
  by_cases hn : n < 0
  · have hzero : ¬longestArray ≤ n.toNat := by omega
    simp [hn, hzero]
  · simp [hn]

theorem position?_isSome {n : Int} (h : ¬(KeyStep.index n).IsRisky) (length : Nat) :
    (position? n length).isSome := by
  rw [Option.isSome_iff_ne_none, ne_eq, position?_eq_none_iff]
  rintro (⟨hnegative, -⟩ | hbeyond)
  · exact h (.inl hnegative)
  · exact h (.inr hbeyond)

namespace Value

theorem puttingAt_isSome {n : Int} (h : ¬(KeyStep.index n).IsRisky)
    {change : Value → Option Value} (hchange : ∀ value, (change value).isSome)
    (value : Value) : (value.puttingAt n change).isSome := by
  obtain ⟨i, hi⟩ :=
    Option.isSome_iff_exists.mp (position?_isSome h value.elements.length)
  simp [puttingAt, hi, Option.isSome_bind, hchange]

/-- A change at the end of a path is made if no step of it is a risk. -/
theorem setAt_isSome (incoming : Value) {path : List KeyStep}
    (h : ∀ step ∈ path, ¬step.IsRisky) (value : Value) :
    (incoming.setAt path value).isSome := by
  induction path generalizing value with
  | nil => rfl
  | cons step path ih =>
    obtain ⟨hstep, hpath⟩ := List.forall_mem_cons.mp h
    cases step with
    | key key =>
      cases path with
      | nil => rfl
      | cons next path =>
        simp [setAt, Option.isSome_bind, ih hpath]
    | index n => exact puttingAt_isSome hstep (ih hpath) value

theorem layered_isSome {entries : List (Key × Value)} (h : ¬HasRiskyKey entries)
    (base : Value) : (base.layered entries).isSome := by
  induction entries generalizing base with
  | nil => rfl
  | cons entry entries ih =>
    have hpath : ∀ step ∈ pathOf entry.1, ¬step.IsRisky := fun step hstep hrisky =>
      h ⟨entry, List.mem_cons_self, step, hstep, hrisky⟩
    have hentries : ¬HasRiskyKey entries := fun ⟨later, hlater, hrisky⟩ =>
      h ⟨later, List.mem_cons_of_mem entry hlater, hrisky⟩
    obtain ⟨value, hvalue⟩ :=
      Option.isSome_iff_exists.mp (setAt_isSome entry.2 hpath base)
    rw [layered_cons, hvalue]
    exact ih hentries value

theorem puttingAt_eq_none {value : Value} {n : Int} (hnegative : n < 0)
    (hfar : value.elements.length < n.natAbs) (change : Value → Option Value) :
    value.puttingAt n change = none := by
  rw [puttingAt, position?_eq_none_iff.mpr (.inl ⟨hnegative, hfar⟩)]
  rfl

/-- A change that cannot be made within the value of a key cannot be made. -/
theorem setAt_key_eq_none {incoming value old : Value} {key : Key} {next : KeyStep}
    {path : List KeyStep}
    (hold : (value.entries.lookup (Text.lowerCase key)).getD nothing = old)
    (h : incoming.setAt (next :: path) old = none) :
    incoming.setAt (.key key :: next :: path) value = none := by
  simp only [setAt, hold, h]
  rfl

end Value

namespace Sources

section Outcomes

variable {β γ : Type}

theorem mapError_reported_ne_crash (result : Except Error β) :
    result.mapError LoadFailure.reported ≠ .error .crash := by
  intro h
  cases result with
  | error | ok => cases h

theorem eq_ok_of_mapError_reported {result : Except Error β} {x : β}
    (h : result.mapError LoadFailure.reported = .ok x) : result = .ok x := by
  cases result with
  | error cause => cases h
  | ok y =>
    cases h
    rfl

/-- A step behind another one crashes only in one of the two. -/
theorem bind_ne_crash {result : Except LoadFailure β}
    {next : β → Except LoadFailure γ} (hresult : result ≠ .error .crash)
    (hnext : ∀ x, result = .ok x → next x ≠ .error .crash) :
    result >>= next ≠ .error .crash := by
  cases result with
  | error failure =>
    intro h
    cases h
    exact hresult rfl
  | ok x => exact hnext x rfl

theorem laid_ne_crash {value? : Option Value} (h : value?.isSome) :
    laid value? ≠ .error .crash := by
  obtain ⟨value, rfl⟩ := Option.isSome_iff_exists.mp h
  exact fun hsame => nomatch hsame

end Outcomes

/-- The fill mode is laid over settings without a position. -/
theorem withFill_isSome (sources : Sources) (value : Value) :
    (sources.withFill value).isSome := by
  rw [withFill]
  cases sources.fill with
  | none => rfl
  | some name =>
    refine Value.setAt_isSome _ ?_ value
    simp [KeyStep.IsRisky]

variable {sources : Sources} {files : List File}

theorem load_ne_crash
    (hlocal : ∀ lower, sources.localEntries files = .ok lower → ¬HasRiskyKey lower)
    (hexplicit : ∀ upper, sources.explicitEntries files = .ok upper →
      ¬HasRiskyKey upper) :
    sources.load files ≠ .error .crash := by
  refine bind_ne_crash (mapError_reported_ne_crash _) ?_
  intro lower hlower
  have hlower := hlocal lower (eq_ok_of_mapError_reported hlower)
  refine bind_ne_crash (laid_ne_crash (Value.layered_isSome hlower _)) ?_
  intro base _
  refine bind_ne_crash (mapError_reported_ne_crash _) ?_
  intro upper hupper
  have hupper := hexplicit upper (eq_ok_of_mapError_reported hupper)
  refine bind_ne_crash (laid_ne_crash (Value.layered_isSome hupper base)) ?_
  intro value _
  refine bind_ne_crash (laid_ne_crash (withFill_isSome sources value)) ?_
  intro filled _
  exact mapError_reported_ne_crash _

/-- Settings crash only if a file that is read has a key with a position that
may lie nowhere. -/
theorem exists_hasRiskyKey_of_crash (h : sources.load files = .error .crash) :
    ∃ entries, HasRiskyKey entries ∧
      (sources.localEntries files = .ok entries ∨
        sources.explicitEntries files = .ok entries) := by
  refine Classical.byContradiction fun hnone => load_ne_crash ?_ ?_ h
  · intro lower hlower hrisky
    exact hnone ⟨lower, hrisky, .inl hlower⟩
  · intro upper hupper hrisky
    exact hnone ⟨upper, hrisky, .inr hupper⟩

/-- Counting back past the first of the built-in formats is such a crash. -/
theorem crash_of_pastFirst {key : Key} {value : Value} {later : List (Key × Value)}
    {n : Int}
    (hentries : sources.localEntries files = .ok ((key, value) :: later))
    (hpath : pathOf key = [.key "output".toList, .key "formats".toList, .index n])
    (hnegative : n < 0) (hfar : builtIn.formats.length < n.natAbs) :
    sources.load files = .error .crash := by
  have hstep : value.setAt (pathOf key) builtIn.toValue = none := by
    rw [hpath]
    refine Value.setAt_key_eq_none rfl (Value.setAt_key_eq_none rfl
      (Value.puttingAt_eq_none hnegative ?_ (value.setAt [])))
    exact hfar
  have hlower : Value.layered ((key, value) :: later) builtIn.toValue = none := by
    rw [Value.layered_cons, hstep]
    rfl
  rw [load, hentries]
  change (laid (Value.layered ((key, value) :: later) builtIn.toValue)).bind _ = _
  rw [hlower]
  rfl

end Sources

end TreeCodec.Settings
