import TreeCodec.Code
import TreeCodec.Fill
import TreeCodec.Text.Numeral

/-!
A drawing of a tree with one line for each subtree, in pre-order. A line has
two characters of indentation for each level above its parent, a connector,
and a label: a sign for an empty tree, otherwise a dot, filled in or not, and
the code of the subtree.

The codes are computed once for all lines, each from the codes below it, and
handed to the lines as a list in the order of the lines.
-/

namespace TreeCodec.Tree

/-- The code of a tree, and those of the subtrees below it in pre-order. -/
def codes : Tree → Nat × List Nat
  | empty => (0, [])
  | node left right =>
    let (x, belowLeft) := left.codes
    let (y, belowRight) := right.codes
    (Code.pair x y, x :: belowLeft ++ y :: belowRight)

def codeList (t : Tree) : List Nat :=
  t.codes.1 :: t.codes.2

/-- What stands for a subtree with a given code. -/
def label (fill : Fill) (code : Nat) (t : Tree) : List Char :=
  if t.isEmpty then ['∅']
  else (if fill.fills t then '●' else '○') :: ' ' :: Text.numeral code

/-- The connector to a child: left children come first, right ones last. -/
def connector (isRight : Bool) : List Char :=
  if isRight then ['└', '─'] else ['├', '─']

/-- What continues below a child: a bar as long as a sibling follows. -/
def continuation (isRight : Bool) : List Char :=
  if isRight then [' ', ' '] else ['│', ' ']

/-- The lines of a child and all below it, and the codes that are left. -/
def branchLines (fill : Fill) (t : Tree) (indent : List Char) (isRight : Bool)
    (codes : List Nat) : List (List Char) × List Nat :=
  let line := indent ++ connector isRight ++ ' ' :: t.label fill (codes.headD 0)
  match t with
  | empty => ([line], codes.tail)
  | node left right =>
    let deeper := indent ++ continuation isRight
    let (first, codes) := left.branchLines fill deeper false codes.tail
    let (second, codes) := right.branchLines fill deeper true codes
    (line :: first ++ second, codes)

def drawingLines (fill : Fill) (t : Tree) : List (List Char) :=
  let line := t.label fill (t.codeList.headD 0)
  match t with
  | empty => [line]
  | node left right =>
    let (first, codes) := left.branchLines fill [] false t.codeList.tail
    let (second, _) := right.branchLines fill [] true codes
    line :: first ++ second

/-- The drawing as a text, every line with a line feed at its end. -/
def drawing (fill : Fill) (t : Tree) : List Char :=
  (t.drawingLines fill).flatMap (· ++ ['\n'])

end TreeCodec.Tree
