import TreeCodec.Decimal.Reading
import TreeCodec.Decimal.Shortest
import TreeCodec.Fill
import TreeCodec.Settings.Value
import TreeCodec.Text.Quoted

/-!
Turning layered values into typed settings. Numbers, words and texts stand for
one another where their meaning is plain: a text that writes a number is one,
and a number in a list of names is the text that writes it. A structure may be
a table of its fields, or an array of them in their order.

An error about a single value names the key that leads to it, and the file if
the value was written in one.
-/

namespace TreeCodec

structure LayoutSettings where
  strokeWidth : Binary64
  marginWidth : Binary64
  cellSize : Binary64
  extraHeight : Binary64
  fill : Fill
deriving DecidableEq, Repr

structure Settings where
  formats : List String
  layout : LayoutSettings
deriving DecidableEq, Repr

namespace Settings

open Text

/-- A kind of value, as messages tell it. -/
inductive Kind where
  | scalar (scalar : Scalar)
  | sequence
  | map
deriving DecidableEq, Repr

def Value.kind : Value → Kind
  | .scalar _ s => .scalar s
  | .array _ _ => .sequence
  | .table _ _ => .map

inductive Shape where
  | root
  | output
  | layout
deriving DecidableEq, Repr

def Shape.name : Shape → String
  | root => "TreeConfig"
  | output => "OutputConfig"
  | layout => "LayoutConfig"

def Shape.size : Shape → Nat
  | root => 2
  | output => 1
  | layout => 5

inductive Expected where
  | text
  | number
deriving DecidableEq, Repr

/-- One step on the way from the root to a value. -/
inductive KeyPart where
  | name (name : String)
  | index (n : Nat)
deriving DecidableEq, Repr

inductive Error where
  | missingFile (name : String)
  | malformedFile
  /-- A single value has no meaning as what it should be. -/
  | wrongValue (found : Kind) (expected : Expected) (key : List KeyPart)
      (origin : Option String)
  /-- A structure is written as a single value. -/
  | notStructure (found : Kind) (shape : Shape)
  | notList (found : Kind)
  /-- An array ends before the last field of a structure. -/
  | tooShort (length : Nat) (shape : Shape)
  | missingField (name : String)
  | unknownFill (name : List Char)
  /-- A fill mode is neither a text nor a table with one key. -/
  | notFill
deriving DecidableEq, Repr

/-- What messages call a value without parts. -/
def Scalar.description : Scalar → List Char
  | nothing => "unit value".toList
  | boolean b =>
    "boolean `".toList ++ (if b then "true" else "false").toList ++ ['`']
  | integer n =>
    "integer `".toList ++ (if n < 0 then ['-'] else []) ++ numeral n.natAbs
      ++ ['`']
  | float x => "floating point `".toList ++ Decimal.textWithPoint x ++ ['`']
  | text t => "string ".toList ++ quoted t

def Kind.description : Kind → List Char
  | scalar s => s.description
  | sequence => "sequence".toList
  | map => "map".toList

def Expected.description : Expected → String
  | text => "a string"
  | number => "a floating point"

/-- A key as messages show it: points before names, brackets around
positions. -/
def keyText : List KeyPart → String
  | [] => ""
  | .name name :: rest => name ++ tail rest
  | .index n :: rest => position n ++ tail rest
where
  position (n : Nat) : String := "[" ++ String.ofList (numeral n) ++ "]"
  tail : List KeyPart → String
    | [] => ""
    | .name name :: rest => "." ++ name ++ tail rest
    | .index n :: rest => position n ++ tail rest

def Shape.description (shape : Shape) : String :=
  "struct " ++ shape.name ++ " with " ++ String.ofList (numeral shape.size)
    ++ (if shape.size = 1 then " element" else " elements")

def Error.message : Error → String
  | missingFile name => "configuration file \"" ++ name ++ "\" not found"
  | malformedFile => "TOML parse error"
  | wrongValue found expected key origin =>
    "invalid type: " ++ String.ofList found.description ++ ", expected "
      ++ expected.description
      ++ (if key.isEmpty then "" else " for key `" ++ keyText key ++ "`")
      ++ match origin with
        | some file => " in " ++ file
        | none => ""
  | notStructure found shape =>
    "invalid type: " ++ String.ofList found.description ++ ", expected struct "
      ++ shape.name
  | notList found =>
    "invalid type: " ++ String.ofList found.description
      ++ ", expected a sequence"
  | tooShort length shape =>
    "invalid length " ++ String.ofList (numeral length) ++ ", expected "
      ++ shape.description
  | missingField name => "missing field `" ++ name ++ "`"
  | unknownFill name =>
    "enum FillMode does not have variant constructor " ++ String.ofList name
  | notFill =>
    "value of enum FillMode should be represented by either string or table "
      ++ "with exactly one key"

structure Place where
  key : List KeyPart
  value : Value

def Place.field (place : Place) (shape : Shape) (index : Nat) (name : String) :
    Except Error Place :=
  match place.value with
  | .table _ entries =>
    match entries.lookup name.toList with
    | some value => .ok ⟨place.key ++ [.name name], value⟩
    | none => .error (.missingField name)
  | .array _ values =>
    match values[index]? with
    | some value => .ok ⟨place.key ++ [.index index], value⟩
    | none => .error (.tooShort index shape)
  | .scalar _ s => .error (.notStructure (.scalar s) shape)

def Place.wrongValue (place : Place) (expected : Expected) : Error :=
  .wrongValue place.value.kind expected place.key place.value.origin

/-- The number that a text stands for: a word for yes or no in any case, or a
decimal fraction. -/
def numberOfText? (text : List Char) : Option Binary64 :=
  let word := String.ofList (lowerCase text)
  if ["true", "on", "yes"].contains word then some .one
  else if ["false", "off", "no"].contains word then some .zero
  else Decimal.read? text

def Place.number (place : Place) : Except Error Binary64 :=
  match place.value with
  | .scalar _ (.float x) => .ok x
  | .scalar _ (.integer n) => .ok (.ofInt n)
  | .scalar _ (.boolean b) => .ok (if b then .one else .zero)
  | .scalar _ (.text text) =>
    match numberOfText? text with
    | some x => .ok x
    | none => .error (place.wrongValue .number)
  | _ => .error (place.wrongValue .number)

def Place.text (place : Place) : Except Error (List Char) :=
  match place.value with
  | .scalar _ (.text text) => .ok text
  | .scalar _ (.float x) => .ok (Decimal.text x)
  | .scalar _ (.integer n) =>
    .ok ((if n < 0 then ['-'] else []) ++ numeral n.natAbs)
  | .scalar _ (.boolean b) => .ok (if b then "true" else "false").toList
  | _ => .error (place.wrongValue .text)

def fillNamed (name : List Char) : Except Error Fill :=
  match Fill.named? (String.ofList (lowerCase name)) with
  | some fill => .ok fill
  | none => .error (.unknownFill name)

/-- The fill mode at a place: its name, or a table with the name as its only
key. -/
def Place.fill (place : Place) : Except Error Fill :=
  match place.value with
  | .scalar _ (.text name) => fillNamed name
  | .table _ [(name, _)] => fillNamed name
  | _ => .error .notFill

def Place.texts (place : Place) : Except Error (List String) :=
  match place.value with
  | .array _ values =>
    values.zipIdx.mapM fun (value, i) => do
      let text ← Place.text ⟨place.key ++ [.index i], value⟩
      return String.ofList text
  | value => .error (.notList value.kind)

def Place.output (place : Place) : Except Error (List String) := do
  (← place.field .output 0 "formats").texts

def Place.layout (place : Place) : Except Error LayoutSettings := do
  let number (index : Nat) (name : String) : Except Error Binary64 := do
    (← place.field .layout index name).number
  return {
    strokeWidth := ← number 0 "stroke_width"
    marginWidth := ← number 1 "margin_width"
    cellSize := ← number 2 "cell_size"
    extraHeight := ← number 3 "extra_height"
    fill := ← (← place.field .layout 4 "fill").fill }

/-- The settings that a value with all its layers holds. -/
def ofValue (value : Value) : Except Error Settings := do
  let root : Place := ⟨[], value⟩
  return {
    formats := ← (← root.field .root 0 "output").output
    layout := ← (← root.field .root 1 "layout").layout }

end Settings

end TreeCodec
