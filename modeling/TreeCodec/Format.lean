import TreeCodec.Format.Drawing
import TreeCodec.Format.Notation
import TreeCodec.Json.Writer

/-!
The formats in which trees are written out, and their names. Three of them are
notations that the grammar reads back; the other two are for people.
-/

namespace TreeCodec

inductive Format where
  | bracket
  | decimal
  | json
  | prefixed
  | drawing
deriving DecidableEq, Repr

inductive FormatError where
  | unknownFormat (name : String)
  | cannotRender (name reason : String)
deriving DecidableEq, Repr

def FormatError.message : FormatError → String
  | unknownFormat name =>
    "unknown format '" ++ name ++ "' (see treenum list-formats)"
  | cannotRender name reason => "cannot render " ++ name ++ ": " ++ reason

namespace Format

/-- All formats, in the order of their names. -/
def all : List Format := [bracket, decimal, json, prefixed, drawing]

def name : Format → String
  | bracket => "bracket"
  | decimal => "decimal"
  | json => "json"
  | prefixed => "prefix"
  | drawing => "treeviz"

def summary : Format → String
  | bracket =>
    "Bracket notation: '/' left '\\' right, nothing for the empty tree"
  | decimal => "Decimal integer code of the tree"
  | json => "Pretty printed JSON"
  | prefixed => "Prefix notation: '+' left right, '-' for the empty tree"
  | drawing => "One line per node, with fill markers and node codes"

/-- Whether the grammar reads the text of every tree back as that tree. -/
def readsBack : Format → Bool
  | bracket | decimal | prefixed => true
  | json | drawing => false

/-- The text of a tree; `fill` matters to drawings only. -/
def render (fill : Fill) (t : Tree) : Format → List Char
  | bracket => t.bracketText
  | decimal => t.decimalText
  | json => t.indentedJson 0
  | prefixed => t.prefixText
  | drawing => t.drawing fill

def named? (name : String) : Except FormatError Format :=
  match all.find? (·.name == name) with
  | some format => .ok format
  | none => .error (.unknownFormat name)

def renderNamed (fill : Fill) (t : Tree) (name : String) :
    Except FormatError (List Char) := do
  return (← named? name).render fill t

def readBack : List Format := all.filter readsBack

end Format

end TreeCodec
