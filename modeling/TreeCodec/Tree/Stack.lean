import TreeCodec.Format
import TreeCodec.Grammar

/-!
A stack machine on trees. A command finds out first whether the stack holds as
many trees as it needs; a command that cannot be carried out leaves the stack
as it was.
-/

namespace TreeCodec

/-- The trees on the stack, the top one first. -/
abbrev TreeStack := List Tree

namespace TreeStack

inductive View where
  | isEmpty
  | height
  | size
  | prefixText
  | constructorText
  | jsonText
  | code
  | rendered (format : String) (fill : Fill)

inductive Command where
  | pushEmpty
  | pushParsed (text : List Char)
  | pushDecoded (code : Nat)
  /-- Pops the right and then the left child of a new node. -/
  | makeNode
  | stackLeft (count : Nat)
  | stackRight (count : Nat)
  /-- Replaces a node by its children, the right one on top. -/
  | takeChildren
  | duplicate
  | swap
  | drop
  | count
  | equalTopTwo
  /-- The number of the pair of the codes of the top two trees. -/
  | pairTopTwo
  | view (what : View)

inductive Reply where
  | done
  | underflow
  | noChildren
  | number (n : Nat)
  | flag (b : Bool)
  | code (n : Nat)
  | text (text : List Char)
  | notParsed (cause : ParseFailure)
  | notRendered (cause : FormatError)

def View.reply (t : Tree) : View → Reply
  | isEmpty => .flag t.isEmpty
  | height => .number t.height
  | size => .number t.size
  | prefixText => .text t.prefixText
  | constructorText => .text t.constructorText
  | jsonText => .text t.jsonText
  | code => .code t.code
  | rendered format fill =>
    match Format.renderNamed fill t format with
    | .ok text => .text text
    | .error cause => .notRendered cause

/-- The stack after a command, and the answer. -/
def step : Command → TreeStack → TreeStack × Reply
  | .pushEmpty, stack => (.empty :: stack, .done)
  | .pushParsed text, stack =>
    match Tree.parse? text with
    | .ok t => (t :: stack, .done)
    | .error cause => (stack, .notParsed cause)
  | .pushDecoded code, stack => (.ofCode code :: stack, .done)
  | .makeNode, right :: left :: stack => (.node left right :: stack, .done)
  | .stackLeft count, t :: stack => (t.stackLeft count :: stack, .done)
  | .stackRight count, t :: stack => (t.stackRight count :: stack, .done)
  | .takeChildren, t :: stack =>
    match t.children? with
    | some (left, right) => (right :: left :: stack, .done)
    | none => (t :: stack, .noChildren)
  | .duplicate, t :: stack => (t :: t :: stack, .done)
  | .swap, t :: u :: stack => (u :: t :: stack, .done)
  | .drop, _ :: stack => (stack, .done)
  | .count, stack => (stack, .number stack.length)
  | .equalTopTwo, t :: u :: stack => (t :: u :: stack, .flag (u == t))
  | .pairTopTwo, t :: u :: stack =>
    (t :: u :: stack, .code (Code.pair u.code t.code))
  | .view what, t :: stack => (t :: stack, what.reply t)
  | _, stack => (stack, .underflow)

def replies (stack : TreeStack) : List Command → List Reply
  | [] => []
  | command :: rest =>
    (step command stack).2 :: replies (step command stack).1 rest

end TreeStack

end TreeCodec
