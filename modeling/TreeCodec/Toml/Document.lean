import TreeCodec.Toml.Quoted
import TreeCodec.Toml.Scalar
import TreeCodec.Toml.Table

/-!
TOML documents: lines that assign values to keys, and headers that say which
table the lines below them belong to. A text is first read as a list of
`Statement`s; `Toml.read?` then carries them out one after another.

Arrays and inline tables nest less than eighty levels deep, and a key has less
than eighty parts, so a number of levels and parts that are left bounds both.
-/

namespace TreeCodec.Toml

/-- The levels, and the parts of a key, that a document may use. -/
def nestingLimit : Nat := 79

/-- A key with the path of tables in front of it. -/
structure KeyPath where
  parents : List Key
  key : Key
deriving DecidableEq, Repr

inductive Statement where
  | assign (path : KeyPath) (value : Value)
  | table (path : KeyPath)
  | element (path : KeyPath)

def skipTomlBlanks (text : List Char) : List Char :=
  text.dropWhile isTomlBlank

/-- What is behind a given character. -/
def behind? (c : Char) : List Char → Option (List Char)
  | [] => none
  | d :: rest => if d = c then some rest else none

/-- Drops blanks, comments and line ends. -/
def skipLines (inComment : Bool) : List Char → List Char
  | [] => []
  | '\r' :: '\n' :: rest => skipLines false rest
  | c :: rest =>
    if inComment && isPlain c then skipLines true rest
    else if isTomlBlank c || c = '\n' then skipLines false rest
    else if c = '#' then skipLines true rest
    else c :: rest

def finishLine? (text : List Char) : Option (List Char) :=
  let text := skipTomlBlanks text
  let text :=
    match text with
    | '#' :: rest => rest.dropWhile isPlain
    | _ => text
  if text.isEmpty then some [] else lineEnd? text

def isBareKeyChar (c : Char) : Bool :=
  c.isAlphanum || c = '_' || c = '-'

def readKey : Reader Key := fun text =>
  match readLineString text with
  | some part => some part
  | none =>
    let (key, rest) := text.span isBareKeyChar
    if key.isEmpty then none else some (key, rest)

/-- A key of at most `parts` parts with dots between them. -/
def readKeyPath : (parts : Nat) → Reader KeyPath
  | 0, _ => none
  | parts + 1, text => do
    let (key, rest) ← readKey (skipTomlBlanks text)
    match skipTomlBlanks rest with
    | '.' :: rest =>
      let (path, rest) ← readKeyPath parts rest
      return (⟨key :: path.parents, path.key⟩, rest)
    | rest => return (⟨[], key⟩, rest)

def readAssignment (value : Reader Value) : Reader (KeyPath × Value) :=
  fun text => do
    let (path, rest) ← readKeyPath nestingLimit text
    let (value, rest) ← value (skipTomlBlanks (← behind? '=' rest))
    return ((path, value), rest)

/-- The elements of an array up to its bracket, with a comma behind each but
the last. Each takes at least one character, which bounds their number. -/
def readElements (value : Reader Value) : (count : Nat) → Reader (List Value)
  | 0, _ => none
  | count + 1, text =>
    match skipLines false text with
    | ']' :: rest => some ([], rest)
    | text => do
      let (first, rest) ← value text
      match skipLines false rest with
      | ',' :: rest =>
        let (others, rest) ← readElements value count rest
        return (first :: others, rest)
      | rest => return ([first], ← behind? ']' rest)

/-- The assignments of an inline table up to its brace, with commas between
them. -/
def readPairs (value : Reader Value) (slots : Slots) :
    (count : Nat) → Reader Slots
  | 0, _ => none
  | count + 1, text => do
    let ((path, value'), rest) ← readAssignment value text
    let slots ← slots.assign path.key value' path.parents
    match skipTomlBlanks rest with
    | ',' :: rest => readPairs value slots count rest
    | rest => return (slots, ← behind? '\x7d' rest)

def readInlineTable (value : Reader Value) : Reader Value := fun text =>
  match skipTomlBlanks text with
  | '\x7d' :: rest => some (.table [], rest)
  | text => do
    let (slots, rest) ← readPairs value [] text.length text
    return (.table (Slots.values slots), rest)

/-- A value, whose parts are values again that `inner` reads. -/
def readNested (inner : Reader Value) : Reader Value := fun text =>
  match text with
  | '[' :: rest =>
    (readElements inner (rest.length + 1) rest).map fun (values, rest) =>
      (.array values, rest)
  | '\x7b' :: rest => readInlineTable inner rest
  | _ =>
    match readString text with
    | some (text, rest) => some (.string text, rest)
    | none => readScalar text

/-- A value that nests at most `depth` levels deep. -/
def readValue : (depth : Nat) → Reader Value
  | 0 => fun text =>
    if text.head?.any fun c => c = '[' || c = '\x7b' then none
    else readNested (fun _ => none) text
  | depth + 1 => readNested (readValue depth)

def readHeader : Reader Statement := fun text =>
  match text with
  | '[' :: rest => do
    let (path, rest) ← readKeyPath nestingLimit rest
    return (.element path, ← behind? ']' (← behind? ']' rest))
  | _ => do
    let (path, rest) ← readKeyPath nestingLimit text
    return (.table path, ← behind? ']' rest)

def readStatement : Reader Statement := fun text =>
  match text with
  | '[' :: rest => readHeader rest
  | _ =>
    (readAssignment (readValue nestingLimit) text).map
      fun ((path, value), rest) => (.assign path value, rest)

/-- The statements of a text, each on a line of its own. Each takes at least
one character, which bounds their number. -/
def readStatements : (count : Nat) → (text : List Char) → Option (List Statement)
  | 0, _ => none
  | count + 1, text =>
    match skipLines false text with
    | [] => some []
    | text => do
      let (statement, rest) ← readStatement text
      return statement :: (← readStatements count (← finishLine? rest))

/-- A document that is being put together, and the path of the table that the
next lines belong to. -/
structure Draft where
  root : Slots
  current : List Key

def Draft.apply (draft : Draft) : Statement → Option Draft
  | .assign path value => do
    let root ←
      draft.root.within (·.assign path.key value path.parents) draft.current
    return { draft with root }
  | .table path => do
    let root ← draft.root.within (·.declareTable path.key) path.parents
    return ⟨root, path.parents ++ [path.key]⟩
  | .element path => do
    let root ← draft.root.within (·.declareElement path.key) path.parents
    return ⟨root, path.parents ++ [path.key]⟩

/-- The entries of the document that a text writes. A byte order mark in front
of it does not count. -/
def read? (text : List Char) : Option (List (Key × Value)) := do
  let text := if text.head? = some '\ufeff' then text.tail else text
  let statements ← readStatements (text.length + 1) text
  let draft ← statements.foldlM Draft.apply ⟨[], []⟩
  return Slots.values draft.root

end TreeCodec.Toml
