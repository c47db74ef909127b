import TreeCodec.Tree

/-!
Trees in JSON: the string `"Empty"`, or an object whose only member `"Node"`
is the list of both subtrees. There is a compact layout and one with a line
for each bracket, each key and each empty tree.
-/

namespace TreeCodec.Tree

def jsonText : Tree → List Char
  | empty => "\"Empty\"".toList
  | node left right =>
    "\x7b\"Node\":[".toList ++ left.jsonText ++ [','] ++ right.jsonText
      ++ "]\x7d".toList

def indentedLine (indent : Nat) : List Char :=
  '\n' :: List.replicate indent ' '

/-- JSON over several lines; those after the first are indented by `indent`
and by two more for each bracket. -/
def indentedJson (indent : Nat) : Tree → List Char
  | empty => "\"Empty\"".toList
  | node left right =>
    ['\x7b'] ++ indentedLine (indent + 2) ++ "\"Node\": [".toList
      ++ indentedLine (indent + 4) ++ left.indentedJson (indent + 4) ++ [',']
      ++ indentedLine (indent + 4) ++ right.indentedJson (indent + 4)
      ++ indentedLine (indent + 2) ++ [']'] ++ indentedLine indent ++ ['\x7d']

theorem indentedJson_node (indent : Nat) (left right : Tree) :
    (node left right).indentedJson indent
      = ['\x7b'] ++ indentedLine (indent + 2) ++ "\"Node\": [".toList
        ++ indentedLine (indent + 4) ++ left.indentedJson (indent + 4) ++ [',']
        ++ indentedLine (indent + 4) ++ right.indentedJson (indent + 4)
        ++ indentedLine (indent + 2) ++ [']'] ++ indentedLine indent ++ ['\x7d'] :=
  rfl

end TreeCodec.Tree
