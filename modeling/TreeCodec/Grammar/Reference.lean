import TreeCodec.Code
import TreeCodec.Grammar
import TreeCodec.Text.Blank
import TreeCodec.Text.Numeral

/-!
The grammar of trees a second time, written directly as functions on text
instead of through the rule engine. Each alternative is a function that reads
a tree and says what is left, or fails; `Reader.choose` takes the first that
succeeds.

The functions of `level` read trees whose nested parts are read by the level
below. A part begins behind at least one character, so as many levels as the
text has characters, and one more, never run out.
-/

namespace TreeCodec.Reference

open Text

/-- Reads a tree at the start of a text: the tree and what is left. -/
abbrev Reader := List Char → Option (Tree × List Char)

/-- The first alternative that succeeds, all from the same place. -/
def choose (readers : List Reader) : Reader := fun text =>
  readers.findSome? fun reader => reader text

def skipBlanks (text : List Char) : List Char :=
  text.dropWhile isBlank

/-- What is left behind a given character, if the text begins with it. -/
def expect? (c : Char) : List Char → Option (List Char)
  | [] => none
  | d :: rest => if d = c then some rest else none

/-- `/ tree \ tree` -/
def bracket (tree : Reader) : Reader := fun text => do
  let rest ← expect? '/' text
  let (left, rest) ← tree (skipBlanks rest)
  let rest ← expect? '\\' (skipBlanks rest)
  let (right, rest) ← tree (skipBlanks rest)
  return (.node left right, rest)

/-- `+ tree tree` -/
def plus (tree : Reader) : Reader := fun text => do
  let rest ← expect? '+' text
  let (left, rest) ← tree (skipBlanks rest)
  let (right, rest) ← tree (skipBlanks rest)
  return (.node left right, rest)

def number : Reader := fun text => do
  let code ← readNumeral? (text.takeWhile isDigit)
  return (.ofCode code, text.dropWhile isDigit)

def dash : Reader := fun text => do
  let rest ← expect? '-' text
  return (.empty, rest)

def nothing : Reader := fun text => some (.empty, text)

/-- The reader of trees nested less deeply than `depth`. -/
def level : (depth : Nat) → Reader
  | 0 => fun _ => none
  | depth + 1 =>
    choose [bracket (level depth), plus (level depth), number, dash, nothing]

/-- The tree that a text writes, if it writes exactly one. -/
def parse? (text : List Char) : Except ParseFailure Tree :=
  match level (text.length + 1) text with
  | some (tree, []) => .ok tree
  | _ => .error .notOneTree

end TreeCodec.Reference
