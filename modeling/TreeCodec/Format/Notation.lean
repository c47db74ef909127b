import TreeCodec.Code
import TreeCodec.Text.Numeral

/-!
The written forms of trees that the grammar reads back: prefix, bracket and
decimal notation, none of them with blanks. `constructorText` is the form that
spells out how a tree is built.
-/

namespace TreeCodec.Tree

/-- `-` for the empty tree, `+` and both subtrees for a node. -/
def prefixText : Tree → List Char
  | empty => ['-']
  | node left right => '+' :: (left.prefixText ++ right.prefixText)

/-- Nothing for the empty tree; `/`, the left subtree, `\` and the right
subtree for a node. -/
def bracketText : Tree → List Char
  | empty => []
  | node left right => '/' :: (left.bracketText ++ '\\' :: right.bracketText)

def decimalText (t : Tree) : List Char :=
  Text.numeral t.code

/-- `Empty`, or `Node` with both subtrees in brackets. -/
def constructorText : Tree → List Char
  | empty => "Empty".toList
  | node left right =>
    "Node(".toList ++ left.constructorText ++ ", ".toList
      ++ right.constructorText ++ [')']

end TreeCodec.Tree
