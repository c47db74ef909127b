/-!
Full binary trees. A tree is empty or an ordered pair of subtrees; nodes carry
no labels, so the shape is the whole value.

The measures (`height`, `size`) count nodes, never empty trees, and `subtrees`
fixes the order in which every line-per-subtree output is written: a node,
then its left subtree, then its right one.
-/

namespace TreeCodec

inductive Tree where
  | empty
  | node (left right : Tree)
deriving DecidableEq, Repr, Inhabited

namespace Tree

def isEmpty : Tree → Bool
  | empty => true
  | node _ _ => false

/-- The left and right subtree of a node; the empty tree has none. -/
def children? : Tree → Option (Tree × Tree)
  | empty => none
  | node left right => some (left, right)

/-- The number of nodes on a longest path from the root. -/
def height : Tree → Nat
  | empty => 0
  | node left right => 1 + max left.height right.height

def size : Tree → Nat
  | empty => 0
  | node left right => 1 + left.size + right.size

/-- Every subtree, the empty ones included, in pre-order. -/
def subtrees : Tree → List Tree
  | empty => [empty]
  | node left right => node left right :: (left.subtrees ++ right.subtrees)

/-- `count` new nodes on top of `tree`, each holding what was there as its
left subtree. -/
def stackLeft : (count : Nat) → (tree : Tree) → Tree
  | 0, tree => tree
  | count + 1, tree => stackLeft count (node tree empty)

/-- `count` new nodes on top of `tree`, each holding what was there as its
right subtree. -/
def stackRight : (count : Nat) → (tree : Tree) → Tree
  | 0, tree => tree
  | count + 1, tree => stackRight count (node empty tree)

theorem length_subtrees (t : Tree) : t.subtrees.length = 2 * t.size + 1 := by
  induction t with
  | empty => rfl
  | node left right ihl ihr => simp [subtrees, size, ihl, ihr]; omega

end Tree

end TreeCodec
