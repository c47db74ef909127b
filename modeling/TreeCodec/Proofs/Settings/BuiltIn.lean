import TreeCodec.Settings

/-!
Settings written as values are read back as they were: numbers and texts stand
for themselves, and every field is found under its name. Hence the built-in
settings are what is loaded where there is no file.
-/

namespace TreeCodec.Settings

namespace Place

variable (key : List KeyPart) (origin : Option String)

theorem number_float (x : Binary64) :
    number ⟨key, .scalar origin (.float x)⟩ = .ok x := rfl

theorem fill_text_name (fill : Fill) :
    Place.fill ⟨key, .scalar origin (.text fill.name.toList)⟩ = .ok fill := by
  cases fill <;> rfl

theorem texts_map_text (texts : List String) :
    Place.texts ⟨key, .array origin
        (texts.map fun text => .scalar origin (.text text.toList))⟩
      = .ok texts := by
  -- The position in the array only matters to messages.
  have hfrom (first : Nat) :
      ((texts.map fun text => Value.scalar origin (.text text.toList)).zipIdx
          first).mapM
        (fun element => (do
          let text ← Place.text ⟨key ++ [KeyPart.index element.2], element.1⟩
          return String.ofList text : Except Error String))
      = .ok texts := by
    induction texts generalizing first with
    | nil => rfl
    | cons text texts ih =>
      rw [List.map_cons, List.zipIdx_cons, List.mapM_cons, ih]
      simp [Place.text, bind, Except.bind, pure, Except.pure]
  exact hfrom 0

end Place

theorem ofValue_toValue (settings : Settings) :
    ofValue settings.toValue = .ok settings := by
  have htexts := Place.texts_map_text [.name "output", .name "formats"] none
    settings.formats
  simp [ofValue, toValue, Place.output, Place.layout, Place.field, bind,
    Except.bind, List.lookup_cons, htexts, Place.number_float, Place.fill_text_name]
  rfl

theorem Sources.load_nil (localFile : Option String) :
    Sources.load ⟨localFile, none, none⟩ [] = .ok builtIn := by
  have hlocal : Sources.localEntries ⟨localFile, none, none⟩ [] = .ok [] := by
    cases localFile with
    | none => rfl
    | some name =>
      have hnone : findFile? [] name = none := by simp [findFile?]
      simp [localEntries, hnone]
  rw [Sources.load, hlocal]
  -- The numbers in the built-in settings are not to be worked out.
  generalize builtIn = settings
  exact congrArg (Except.mapError LoadFailure.reported) (ofValue_toValue settings)

end TreeCodec.Settings
