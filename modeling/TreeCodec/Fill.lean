import TreeCodec.Tree

/-!
Which nodes of a drawing are filled in.
-/

namespace TreeCodec

inductive Fill where
  | all
  /-- Nodes with at least one empty child. -/
  | frontier
  | off
deriving DecidableEq, Repr, Inhabited

/-- Whether the root of a subtree is filled in. Empty trees never are. -/
def Fill.fills : Fill → Tree → Bool
  | _, .empty => false
  | all, .node _ _ => true
  | frontier, .node left right => left.isEmpty || right.isEmpty
  | off, .node _ _ => false

def Fill.name : Fill → String
  | all => "all"
  | frontier => "frontier"
  | off => "none"

def Fill.named? (name : String) : Option Fill :=
  [all, frontier, off].find? (·.name == name)

end TreeCodec
