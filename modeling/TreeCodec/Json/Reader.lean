import TreeCodec.Json.Scalar
import TreeCodec.Tree

/-!
Reading a tree back from JSON: the inverse of both layouts of `Json.Writer`,
with blanks anywhere between tokens. The empty tree may also be written as an
object whose member `"Empty"` is null.

Reading goes from left to right and stops at the first error. Brackets nest at
most 127 levels deep; a node takes two, so trees of height 63 can be read.
-/

namespace TreeCodec

namespace Json

/-- The names that a tree goes by: of the empty tree, and of a node. -/
inductive Tag where
  | empty
  | node
deriving DecidableEq, Repr

def Tag.named (name : List Char) : Except ReadError Tag :=
  if name = "Empty".toList then .ok .empty
  else if name = "Node".toList then .ok .node
  else .error .notATree

def readTag : Reader Tag := fun text => do
  let (name, rest) ← readString text
  return (← Tag.named name, rest)

def readKey : Reader Tag := fun text =>
  match skipBlanks text with
  | '"' :: rest => readTag rest
  | other => .error (refusal other)

def readNull (text : List Char) : Except ReadError (List Char) :=
  match skipBlanks text with
  | 'n' :: rest => readWord "ull".toList rest
  | other => .error (refusal other)

/-- A list whose inside is read by `inside`, from behind its bracket. -/
def readList {β : Type} (inside : Reader β) : Reader β := fun text =>
  match skipBlanks text with
  | '[' :: rest => inside rest
  | other => .error (refusal other)

/-- The error of a list that ends, and has too few elements, if it does. -/
def checkMore (text : List Char) : Except ReadError Unit :=
  match skipBlanks text with
  | [] => .error .endOfText
  | c :: _ => if c = ']' then .error .notATree else .ok ()

/-- Both children of a node, from behind the opening bracket to behind the
closing one. -/
def readChildren (child : Reader Tree) : Reader Tree := fun text => do
  checkMore text
  let (left, rest) ← child text
  checkMore rest
  let rest ← expect ',' rest
  let (right, rest) ← child rest
  let rest ← expect ']' rest
  return (.node left right, rest)

/-- The value of the object of a tag. -/
def readMember (node : Reader Tree) : Tag → Reader Tree
  | .empty, text => do
    return (.empty, ← readNull text)
  | .node, text => node text

/-- A tree, whose nodes are read by `node` from behind the colon. -/
def readTree (node : Reader Tree) : Reader Tree := fun text =>
  match skipBlanks text with
  | [] => .error .endOfText
  | '"' :: rest => do
    let (tag, rest) ← readTag rest
    match tag with
    | .empty => return (.empty, rest)
    | .node => throw .notATree
  | '\x7b' :: rest => do
    let (tag, rest) ← readKey rest
    let rest ← expect ':' rest
    let (tree, rest) ← readMember node tag rest
    let rest ← expect '\x7d' rest
    return (tree, rest)
  | _ :: _ => .error .badSyntax

/-- Trees in which at most `depth` nodes stand inside one another. -/
def treeWithin : (depth : Nat) → Reader Tree
  | 0 => readTree (readList fun _ => .error .badSyntax)
  | depth + 1 => readTree (readList (readChildren (treeWithin depth)))

def maxHeight : Nat := 63

end Json

/-- The tree that a text writes in JSON, with nothing around it but blanks. -/
def Tree.ofJson? (text : List Char) : Except Json.ReadError Tree := do
  let (tree, rest) ← Json.treeWithin Json.maxHeight text
  if (Json.skipBlanks rest).isEmpty then return tree else throw .badSyntax

end TreeCodec
