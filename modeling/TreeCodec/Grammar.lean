import TreeCodec.Code
import TreeCodec.Rule
import TreeCodec.Text.Blank
import TreeCodec.Text.Numeral

/-!
The grammar of trees: one rule, tried as an ordered choice.

1. `/ tree \ tree`, the bracket notation
2. `+ tree tree`, the prefix notation
3. a run of ASCII digits, the code of the tree
4. `-`, the empty tree
5. nothing, the empty tree

Blanks are skipped between the parts of the first two alternatives and nowhere
else. The rule is lenient: its last alternative always matches, so inside
another tree it may stop early. Only `Tree.parse?` insists that nothing is left
over and that exactly one tree was produced.
-/

namespace TreeCodec

open Text

/-- The text is not exactly one complete tree. -/
inductive ParseFailure where
  | notOneTree
deriving DecidableEq, Repr

def ParseFailure.message : ParseFailure → String
  | notOneTree => "parse failed"

namespace Grammar

/-- Any run of blanks at the start of the text, as long as possible. -/
def blankRun : Pattern :=
  .append .startOfText (.repeated true 0 none (.oneOf ⟨blankRanges⟩))

/-- A non-empty run of ASCII digits at the start of the text, as long as
possible. -/
def digitRun : Pattern :=
  .append .startOfText
    (.repeated true 1 none (.oneOf ⟨[⟨'0'.toNat, '9'.toNat⟩]⟩))

def blanks : Rule Tree :=
  .discard (.pattern blankRun)

def nodeOfChildren? (nodes : List (Node Tree)) : Option Tree :=
  match nodes.filterMap Node.data? with
  | left :: right :: _ => some (.node left right)
  | _ => none

def treeOfDigits? (nodes : List (Node Tree)) : Option Tree := do
  let digits ← (← nodes.head?).terminal?
  let code ← readNumeral? digits
  return .ofCode code

/-- The five alternatives, where `tree` stands for the rule itself. -/
def alternatives (tree : Rule Tree) : Rule Tree :=
  .choice [
    .tryMap
      (.sequence
        [.literal ['/'], blanks, tree, blanks, .literal ['\\'], blanks, tree])
      nodeOfChildren?,
    .tryMap (.sequence [.literal ['+'], blanks, tree, blanks, tree])
      nodeOfChildren?,
    .tryMap (.pattern digitRun) treeOfDigits?,
    .map (.literal ['-']) (fun _ => .empty),
    .map .epsilon (fun _ => .empty)]

/-- The store with the rule of trees as its only declaration. -/
def store : Store Tree :=
  Store.empty.recursive alternatives

def tree : Rule Tree := .reference 0

end Grammar

/-- The tree that a text writes, if it writes exactly one. -/
def Tree.parse? (text : List Char) : Except ParseFailure Tree :=
  match Grammar.tree.runOn Grammar.store text with
  | .parsed ⟨[], [.data tree]⟩ => .ok tree
  | _ => .error .notOneTree

end TreeCodec
