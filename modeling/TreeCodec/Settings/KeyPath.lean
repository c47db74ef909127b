import TreeCodec.Settings.Value
import TreeCodec.Text.Numeral

/-!
Paths to a place among settings: a key, then further keys behind points and
positions in brackets. The keys of a file's top level are paths in this sense,
so that a quoted `"layout.fill"` means the key `fill` of the table `layout`. A
key that is no path stands for itself.

Everything on the way to the place is made a table or an array as the path
needs it.
-/

namespace TreeCodec.Settings

open Text

inductive KeyStep where
  | key (key : Key)
  /-- A position; negative ones count from the end. -/
  | index (n : Int)
deriving DecidableEq, Repr

def isPathChar (c : Char) : Bool :=
  c.isAlphanum || c = '_' || c = '-' || c = ' '

def readStepKey? (text : List Char) : Option (Key × List Char) :=
  let (key, rest) := text.span isPathChar
  if key.isEmpty then none else some (key, rest)

def skipSpaces (text : List Char) : List Char :=
  text.dropWhile fun c => c = ' ' || c = '\t'

/-- A position, from behind its opening bracket. -/
def readIndex? (text : List Char) : Option (Int × List Char) :=
  let (negative, text) :=
    match skipSpaces text with
    | '-' :: rest => (true, rest)
    | rest => (false, rest)
  let (digits, rest) := text.span isDigit
  match readNumeral? digits, skipSpaces rest with
  | some n, ']' :: rest =>
    let n : Int := if negative then -n else n
    if Int64.minValue.toInt ≤ n && n ≤ Int64.maxValue.toInt then some (n, rest)
    else none
  | _, _ => none

/-- The steps behind the first key. Each takes at least one character, which
bounds their number. -/
def readSteps? : (count : Nat) → (text : List Char) → Option (List KeyStep)
  | _, [] => some []
  | 0, _ => none
  | count + 1, '.' :: rest => do
    let (key, rest) ← readStepKey? rest
    return .key key :: (← readSteps? count rest)
  | count + 1, '[' :: rest => do
    let (n, rest) ← readIndex? rest
    return .index n :: (← readSteps? count rest)
  | _, _ => none

def readPath? (text : List Char) : Option (List KeyStep) := do
  let (key, rest) ← readStepKey? text
  return .key key :: (← readSteps? rest.length rest)

def pathOf (key : Key) : List KeyStep :=
  (readPath? key).getD [.key key]

/-- The most elements that an array has room for: it takes up to 2^63 - 1 bytes,
96 for each element. -/
def longestArray : Nat := Int64.maxValue.toInt.toNat / 96

/-- Where a position lies among `length` elements, or behind them. A negative one
that counts back past the first element lies nowhere, and neither does one for
which no array is long enough. -/
def position? (n : Int) (length : Nat) : Option Nat :=
  if n < 0 then
    if n.natAbs ≤ length then some (length - n.natAbs) else none
  else if n.toNat < longestArray then some n.toNat
  else none

/-- The value with a change at a position, as an array that is long enough. -/
def Value.puttingAt (value : Value) (n : Int) (change : Value → Option Value) :
    Option Value := do
  let i ← position? n value.elements.length
  let padded :=
    value.elements
      ++ List.replicate (i + 1 - value.elements.length) Value.nothing
  let changed ← change (padded.getD i .nothing)
  return .array value.arrayOrigin (padded.set i changed)

/-- A value after another one was laid over the place that a path leads to.
There is none if the path asks for a position that lies nowhere: then the
program crashes. A key is the only last step at which tables are merged. -/
def Value.setAt (incoming : Value) : (path : List KeyStep) → Value → Option Value
  | [], _ => some incoming
  | [.key key], value => some (value.putting key incoming.over)
  | .key key :: path, value => do
    let old := value.entries.lookup (lowerCase key)
    let changed ← incoming.setAt path (old.getD .nothing)
    return value.putting key fun _ => changed
  | .index n :: path, value => value.puttingAt n (incoming.setAt path)

/-- A layer after the entries of a file were laid over it, one by one. The program
takes them in no fixed order, which matters only if two of them meet in one
place; here it is the order of the file. -/
def Value.layered (entries : List (Key × Value)) (base : Value) : Option Value :=
  entries.foldlM (fun base (key, value) => value.setAt (pathOf key) base) base

theorem Value.layered_cons (entry : Key × Value) (entries : List (Key × Value))
    (base : Value) :
    base.layered (entry :: entries)
      = (entry.2.setAt (pathOf entry.1) base).bind (Value.layered entries) := rfl

end TreeCodec.Settings
