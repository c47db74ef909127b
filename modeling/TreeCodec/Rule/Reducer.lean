import TreeCodec.Rule
import TreeCodec.Text.Numeral

/-!
Named reductions for rules whose values are texts. A `Reducer` has a value for
every list of nodes; a `Selector` may refuse, which makes the rule fail.
-/

namespace TreeCodec

open Text

def Node.text : Node (List Char) → List Char
  | terminal text => text
  | data value => value

/-- A node as `Reducer.listing` shows it: terminals stand in quotes. -/
def Node.shown : Node (List Char) → List Char
  | terminal text => '\'' :: (text ++ ['\''])
  | data value => value

def joinedText (nodes : List (Node (List Char))) : List Char :=
  nodes.flatMap Node.text

def integerNumeral (n : Int) : List Char :=
  if n < 0 then '-' :: numeral n.natAbs else numeral n.natAbs

/-- The integer of 64 bits that a text writes, with or without a sign. -/
def readInteger? (text : List Char) : Option Int :=
  let value? :=
    match text with
    | '-' :: digits => (readNumeral? digits).map fun n => -(n : Int)
    | '+' :: digits => (readNumeral? digits).map fun n => (n : Int)
    | digits => (readNumeral? digits).map fun n => (n : Int)
  value?.filter fun n =>
    Int64.minValue.toInt ≤ n && n ≤ Int64.maxValue.toInt

/-- The number of 64 bits that a text writes, with or without a plus sign. -/
def readUnsigned? (text : List Char) : Option Nat :=
  let value? :=
    match text with
    | '+' :: digits => readNumeral? digits
    | digits => readNumeral? digits
  value?.filter (· < UInt64.size)

inductive Reducer where
  | count
  | zero
  | joined
  /-- The nodes in brackets, with spaces between them. -/
  | listing
  /-- One more than the sum of the values that are integers. -/
  | depth
deriving DecidableEq, Repr

def Reducer.reduce (reducer : Reducer) (nodes : List (Node (List Char))) :
    List Char :=
  match reducer with
  | count => numeral nodes.length
  | zero => ['0']
  | joined => joinedText nodes
  | listing => '(' :: ((nodes.map Node.shown).intersperse [' ']).flatten ++ [')']
  | depth =>
    integerNumeral
      (1 + ((nodes.filterMap Node.data?).map fun v => (readInteger? v).getD 0).foldr
        (· + ·) 0)

inductive Selector where
  | always (reducer : Reducer)
  | only
  | joinedSome
  | someData
  /-- The first node, if it is a value. -/
  | firstData
  /-- The first node, if it is a terminal. -/
  | firstTerminal
  /-- The first node, if it is a terminal that writes a number below 100. -/
  | smallNumber
deriving DecidableEq, Repr

def Selector.reduce? (selector : Selector) (nodes : List (Node (List Char))) :
    Option (List Char) :=
  match selector with
  | always reducer => some (reducer.reduce nodes)
  | only =>
    match nodes with
    | [node] => some node.text
    | _ => none
  | joinedSome => if nodes.isEmpty then none else some (joinedText nodes)
  | someData => nodes.findSome? Node.data?
  | firstData => nodes.head?.bind Node.data?
  | firstTerminal => nodes.head?.bind Node.terminal?
  | smallNumber =>
    let value? := (nodes.head?.bind Node.terminal?).bind readUnsigned?
    (value?.filter (· < 100)).map numeral

end TreeCodec
