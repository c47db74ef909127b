import TreeCodec.Settings.Decode
import TreeCodec.Settings.Files
import TreeCodec.Settings.KeyPath
import TreeCodec.Toml.Document

/-!
Settings from several sources. Built-in values lie at the bottom; over them
come a local file, which may be missing, a file that is asked for and must
exist, and a fill mode of its own. A file is read and laid over the others
before the next one is looked for.
-/

namespace TreeCodec.Settings

def builtIn : Settings where
  formats := ["prefix", "bracket", "decimal"]
  layout :=
    { strokeWidth := .ofInt 2
      marginWidth := .ofInt 10
      cellSize := .ofInt 20
      extraHeight := .ofDecimal false 5 (-1)
      fill := .all }

/-- Settings as values that belong to no file. -/
def toValue (settings : Settings) : Value :=
  let text (s : String) : Value := .scalar none (.text s.toList)
  let number (x : Binary64) : Value := .scalar none (.float x)
  let layout := settings.layout
  .table none
    [("output".toList,
      .table none
        [("formats".toList, .array none (settings.formats.map text))]),
    ("layout".toList,
      .table none
        [("stroke_width".toList, number layout.strokeWidth),
          ("margin_width".toList, number layout.marginWidth),
          ("cell_size".toList, number layout.cellSize),
          ("extra_height".toList, number layout.extraHeight),
          ("fill".toList, text layout.fill.name)])]

/-- Why no settings come out of their sources. -/
inductive LoadFailure where
  | reported (cause : Error)
  /-- A key of a file asks for a position that lies nowhere. This is no error
  that is reported: the whole program crashes. -/
  | crash
deriving DecidableEq, Repr

/-- Where settings are read from, besides the built-in ones. -/
structure Sources where
  /-- A file that is left out if there is none. -/
  localFile : Option String
  /-- A file that must exist. -/
  explicitFile : Option String
  /-- Takes the place of the fill mode of all files. -/
  fill : Option String

/-- The entries of a file. A byte order mark in front of it does not count. -/
def File.entries (file : File) : Except Error (List (Key × Value)) :=
  let text := if file.text.head? = some '\ufeff' then file.text.tail else file.text
  match Toml.read? text with
  | some entries =>
    .ok (ofTomlEntries (some (String.ofList (pathText file.path))) entries)
  | none => .error .malformedFile

namespace Sources

def localEntries (sources : Sources) (files : List File) :
    Except Error (List (Key × Value)) :=
  match sources.localFile.bind (findFile? files) with
  | some file => file.entries
  | none => .ok []

def explicitEntries (sources : Sources) (files : List File) :
    Except Error (List (Key × Value)) :=
  match sources.explicitFile with
  | none => .ok []
  | some name =>
    match findFile? files name with
    | some file => file.entries
    | none => .error (.missingFile name)

/-- The fill mode laid over all files. -/
def withFill (sources : Sources) (value : Value) : Option Value :=
  match sources.fill with
  | none => some value
  | some name =>
    Value.setAt (.scalar none (.text name.toList))
      [.key "layout".toList, .key "fill".toList] value

/-- A value that was laid over others, unless that was a crash. -/
def laid (value? : Option Value) : Except LoadFailure Value :=
  match value? with
  | some value => .ok value
  | none => .error .crash

def load (sources : Sources) (files : List File) : Except LoadFailure Settings := do
  let entries ← (sources.localEntries files).mapError .reported
  let lower ← laid (Value.layered entries builtIn.toValue)
  let entries ← (sources.explicitEntries files).mapError .reported
  let upper ← laid (Value.layered entries lower)
  let value ← laid (sources.withFill upper)
  (ofValue value).mapError .reported

end Sources

end TreeCodec.Settings
