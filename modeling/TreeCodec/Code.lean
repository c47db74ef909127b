import TreeCodec.Tree
import TreeCodec.Code.Pairing

/-!
The codes of trees: the empty tree is 0, a node is the number of the pair of
its children's codes. `Tree.ofCode` undoes each step, and ends because both
components of a split number are smaller than it.
-/

namespace TreeCodec.Tree

/-- The natural number that names the tree. -/
def code : Tree → Nat
  | empty => 0
  | node left right => Code.pair left.code right.code

/-- The tree that `n` names. -/
def ofCode (n : Nat) : Tree :=
  if h : n = 0 then empty
  else
    let parts := Code.split n
    have _hl : parts.1 < n := Code.split_fst_lt h
    have _hr : parts.2 < n := Code.split_snd_lt h
    node (ofCode parts.1) (ofCode parts.2)
termination_by n

/-- The trees of `count` successive codes, starting at `first`. -/
def ofCodes (first count : Nat) : List Tree :=
  (List.range count).map fun k => ofCode (first + k)

end TreeCodec.Tree
