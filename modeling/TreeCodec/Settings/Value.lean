import TreeCodec.Text.LowerCase
import TreeCodec.Toml.Value

/-!
The values of settings, and how a layer of them is laid over another. A value
that was written in a file knows the name of that file; a table that has been
merged belongs to no file.

Keys are compared in lower case. Tables are merged key by key, and any other
value replaces what was there. A table without entries therefore changes
nothing, and one with entries takes the place of a value that is no table.
-/

namespace TreeCodec.Settings

abbrev Key := List Char

inductive Scalar where
  | nothing
  | boolean (b : Bool)
  | integer (n : Int)
  | float (x : Binary64)
  | text (text : List Char)
deriving DecidableEq, Repr

inductive Value where
  | scalar (origin : Option String) (scalar : Scalar)
  | array (origin : Option String) (values : List Value)
  | table (origin : Option String) (entries : List (Key × Value))

namespace Value

def origin : Value → Option String
  | scalar origin _ => origin
  | array origin _ => origin
  | table origin _ => origin

/-- No value at all, where a place for one had to be made. -/
def nothing : Value := scalar none .nothing

/-- The entries of a table; other values have none. -/
def entries : Value → List (Key × Value)
  | table _ entries => entries
  | _ => []

/-- The elements of an array; other values have none. -/
def elements : Value → List Value
  | array _ values => values
  | _ => []

/-- The file of a table; what takes the place of another value has none. -/
def tableOrigin : Value → Option String
  | table origin _ => origin
  | _ => none

/-- The file of an array; what takes the place of another value has none. -/
def arrayOrigin : Value → Option String
  | array origin _ => origin
  | _ => none

end Value

def update (key : Key) (change : Option Value → Value) :
    List (Key × Value) → List (Key × Value)
  | [] => [(key, change none)]
  | (k, value) :: rest =>
    if k = key then (k, change (some value)) :: rest
    else (k, value) :: update key change rest

def Value.putting (value : Value) (key : Key)
    (change : Option Value → Value) : Value :=
  .table value.tableOrigin (update (Text.lowerCase key) change value.entries)

mutual

/-- What stands at a place after a value was laid over what was there. -/
def Value.over : (incoming : Value) → (existing : Option Value) → Value
  | .table _ entries, existing =>
    overEntries entries (existing.getD (.table none []))
  | .scalar origin scalar, _ => .scalar origin scalar
  | .array origin values, _ => .array origin values

/-- A value after the entries of a table were laid over it, one by one. -/
def overEntries : (incoming : List (Key × Value)) → (existing : Value) → Value
  | [], existing => existing
  | (key, value) :: rest, existing =>
    overEntries rest (existing.putting key value.over)

end

mutual

def Value.ofToml (origin : Option String) : Toml.Value → Value
  | .string text => .scalar origin (.text text)
  | .integer n => .scalar origin (.integer n)
  | .float x => .scalar origin (.float x)
  | .boolean b => .scalar origin (.boolean b)
  | .moment m => .scalar origin (.text m.text)
  | .array values => .array origin (ofTomlValues origin values)
  | .table entries => .table origin (ofTomlEntries origin entries)

def ofTomlValues (origin : Option String) : List Toml.Value → List Value
  | [] => []
  | value :: rest => .ofToml origin value :: ofTomlValues origin rest

def ofTomlEntries (origin : Option String) :
    List (Toml.Key × Toml.Value) → List (Key × Value)
  | [] => []
  | (key, value) :: rest =>
    (key, .ofToml origin value) :: ofTomlEntries origin rest

end

end TreeCodec.Settings
