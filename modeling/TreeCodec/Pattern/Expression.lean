import TreeCodec.Pattern.Normal
import TreeCodec.Text.Blank
import TreeCodec.Text.DecimalDigit
import TreeCodec.Text.Numeral

/-!
Reading patterns from their written form. The text is first cut into pieces
(plain and escaped characters), then into tokens (parts, brackets, bars and
quantifiers), and the tokens are put together with a stack of open groups.

Two limits keep patterns small: how deeply an expression may nest, and how much
its pattern may weigh once all counts are written out.

`anchoredText` is the written form that asks for a match at the start of the
text. It wraps the expression as text and does not check that the expression
stands on its own.
-/

namespace TreeCodec.Pattern

open Text

inductive ExpressionError where
  | loneBackslash
  | unknownEscape (c : Char)
  | unclosedClass
  | badRange
  | unsupportedClass
  | unclosedGroup
  | unopenedGroup
  | unsupportedGroup
  | nothingToRepeat
  | badCount
  | tooDeep
  | tooLarge
deriving DecidableEq, Repr

/-- A character as written: by itself or behind a backslash. -/
inductive Piece where
  | plain (c : Char)
  | escaped (c : Char)
deriving DecidableEq, Repr

/-- A backslash takes the next character with it. -/
def pieces : List Char → Except ExpressionError (List Piece)
  | [] => .ok []
  | '\\' :: c :: rest => (pieces rest).map (.escaped c :: ·)
  | ['\\'] => .error .loneBackslash
  | c :: rest => (pieces rest).map (.plain c :: ·)

inductive Meaning where
  | char (c : Char)
  | ofClass (cls : CharClass)
deriving DecidableEq, Repr

/-- Punctuation stands for itself, a few letters for controls and classes. -/
def escapeMeaning (c : Char) : Except ExpressionError Meaning :=
  match c with
  | 'n' => .ok (.char '\n')
  | 't' => .ok (.char '\t')
  | 'r' => .ok (.char '\r')
  | 'a' => .ok (.char '\x07')
  | 'v' => .ok (.char '\x0b')
  | 'f' => .ok (.char '\x0c')
  | 'd' => .ok (.ofClass (.of decimalDigitRanges))
  | 'D' => .ok (.ofClass (CharClass.of decimalDigitRanges).others)
  | 's' => .ok (.ofClass (.of blankRanges))
  | 'S' => .ok (.ofClass (CharClass.of blankRanges).others)
  | _ =>
    if c.toNat < 0x80 && !c.isAlphanum && c ≠ '<' && c ≠ '>' then .ok (.char c)
    else .error (.unknownEscape c)

def Piece.meaning : Piece → Except ExpressionError Meaning
  | plain c => .ok (.char c)
  | escaped c => escapeMeaning c

def Meaning.toClass : Meaning → CharClass
  | .char c => .ofChar c
  | .ofClass cls => cls

/-- Two equal signs of these kinds next to each other combine classes, which
is not supported; nor is a class inside a class. -/
def combinesClasses : List Piece → Bool
  | .plain '[' :: _ => true
  | .plain '&' :: .plain '&' :: _ => true
  | .plain '-' :: .plain '-' :: _ => true
  | .plain '~' :: .plain '~' :: _ => true
  | _ => false

/-- The items between the brackets of a class: characters, escapes and ranges.
A hyphen at the end, or behind a range, stands for itself; two hyphens would
combine classes. -/
def classItems : List Piece → Except ExpressionError (List CharClass)
  | [] => .ok []
  | first :: .plain '-' :: last :: rest => do
    if combinesClasses (first :: .plain '-' :: last :: rest) then
      throw .unsupportedClass
    else if last = .plain '-' then throw .unsupportedClass
    else
      match ← first.meaning, ← last.meaning with
      | .char a, .char b =>
        if a ≤ b then return ⟨[⟨a.toNat, b.toNat⟩]⟩ :: (← classItems rest)
        else throw .badRange
      | _, _ => throw .badRange
  | first :: rest => do
    if combinesClasses (first :: rest) then throw .unsupportedClass
    else return (← first.meaning).toClass :: (← classItems rest)

/-- The pieces at the beginning of a class that stand for themselves, and what
follows them: hyphens, or a single closing bracket. -/
def classStart (rest : List Piece) : List Piece × List Piece :=
  match rest.takeWhile (· == .plain '-'), rest with
  | [], .plain ']' :: after => ([.plain ']'], after)
  | hyphens, rest => (hyphens, rest.drop hyphens.length)

theorem length_classStart_le (rest : List Piece) :
    (classStart rest).2.length ≤ rest.length := by
  unfold classStart
  split <;> simp

def classBody (rest : List Piece) :
    Except ExpressionError (List CharClass × List Piece) := do
  let (start, rest) := classStart rest
  match rest.dropWhile (· != .plain ']') with
  | [] => .error .unclosedClass
  | _ :: after =>
    let first ← start.mapM Piece.meaning
    let items ← classItems (rest.takeWhile (· != .plain ']'))
    return (first.map Meaning.toClass ++ items, after)

def countNumber? (text : List Char) : Option Nat :=
  let trimmed := (text.dropWhile isBlank).reverse.dropWhile isBlank |>.reverse
  match readNumeral? trimmed with
  | some n => if n < UInt32.size then some n else none
  | none => none

/-- The inside of a count: a number, a lower bound, or both bounds. -/
def countBounds (body : List Piece) :
    Except ExpressionError (Nat × Option Nat) :=
  let text := body.map fun
    | .plain c => c
    | .escaped _ => '\\'
  let low := text.takeWhile (· ≠ ',')
  match countNumber? low, text.dropWhile (· ≠ ',') with
  | some n, [] => .ok (n, some n)
  | some n, [_] => .ok (n, none)
  | some n, _ :: high =>
    match countNumber? high with
    | some m => if n ≤ m then .ok (n, some m) else .error .badCount
    | none => .error .badCount
  | none, _ => .error .badCount

/-- A pattern, and how deeply its written form nests. -/
structure Part where
  pattern : Pattern
  depth : Nat
deriving DecidableEq, Repr

def Part.plain (p : Pattern) : Part := ⟨p, 0⟩

/-- A class in brackets. Two or more items are one level deeper than one. -/
def Part.ofItems (negated : Bool) (items : List CharClass) : Part :=
  let cls := CharClass.union items
  ⟨oneOf (if negated then cls.others else cls), if items.length < 2 then 1 else 2⟩

/-- A part, or a sign that says how parts go together. -/
inductive Token where
  | part (p : Part)
  | openGroup (counted : Bool)
  | closeGroup
  | bar
  /-- At least `low` rounds, at most `high` of them if there is a bound. -/
  | quantifier (low : Nat) (high : Option Nat) (greedy : Bool)
deriving DecidableEq, Repr

/-- A question mark behind a quantifier makes it lazy. -/
def laziness : List Piece → Bool × List Piece
  | .plain '?' :: rest => (false, rest)
  | rest => (true, rest)

theorem length_laziness_le (rest : List Piece) :
    (laziness rest).2.length ≤ rest.length := by
  unfold laziness
  split <;> simp

theorem length_classBody_le {rest : List Piece} {r : List CharClass × List Piece}
    (h : classBody rest = .ok r) : r.2.length ≤ rest.length := by
  have hstart := length_classStart_le rest
  have hdrop := (List.dropWhile_suffix (· != Piece.plain ']')
    (l := (classStart rest).2)).length_le
  simp only [classBody, bind, Except.bind] at h
  split at h
  · simp at h
  · rename_i heq
    rw [heq] at hdrop
    simp only [List.length_cons] at hdrop
    split at h
    · simp at h
    · split at h
      · simp at h
      · simp only [pure, Except.pure, Except.ok.injEq] at h
        subst h
        simp only
        omega

theorem length_behind_dropWhile_lt {p : Piece → Bool} {first : Piece}
    {text after : List Piece} (h : text.dropWhile p = first :: after) :
    after.length < text.length := by
  have hdrop := (List.dropWhile_suffix p (l := text)).length_le
  rw [h] at hdrop
  exact hdrop

def notLineFeed : CharClass := (CharClass.ofChar '\n').others

def tokens (text : List Piece) : Except ExpressionError (List Token) :=
  match text with
  | [] => .ok []
  | .escaped c :: rest => do
    let meaning ← escapeMeaning c
    return .part (.plain (oneOf meaning.toClass)) :: (← tokens rest)
  | .plain '(' :: .plain '?' :: .plain ':' :: rest =>
    (tokens rest).map (.openGroup false :: ·)
  | .plain '(' :: .plain '?' :: _ => .error .unsupportedGroup
  | .plain '(' :: rest => (tokens rest).map (.openGroup true :: ·)
  | .plain ')' :: rest => (tokens rest).map (.closeGroup :: ·)
  | .plain '|' :: rest => (tokens rest).map (.bar :: ·)
  | .plain '*' :: rest =>
    have := length_laziness_le rest
    (tokens (laziness rest).2).map (.quantifier 0 none (laziness rest).1 :: ·)
  | .plain '+' :: rest =>
    have := length_laziness_le rest
    (tokens (laziness rest).2).map (.quantifier 1 none (laziness rest).1 :: ·)
  | .plain '?' :: rest =>
    have := length_laziness_le rest
    (tokens (laziness rest).2).map
      (.quantifier 0 (some 1) (laziness rest).1 :: ·)
  | .plain '\x7b' :: rest =>
    match h : rest.dropWhile (· != .plain '\x7d') with
    | [] => .error .badCount
    | _ :: after => do
      have := length_laziness_le after
      have := length_behind_dropWhile_lt h
      let (low, high) ← countBounds (rest.takeWhile (· != .plain '\x7d'))
      return .quantifier low high (laziness after).1 ::
        (← tokens (laziness after).2)
  | .plain '[' :: .plain '^' :: rest =>
    match h : classBody rest with
    | .error e => .error e
    | .ok (items, after) => do
      have := length_classBody_le h
      return .part (.ofItems true items) :: (← tokens after)
  | .plain '[' :: rest =>
    match h : classBody rest with
    | .error e => .error e
    | .ok (items, after) => do
      have := length_classBody_le h
      return .part (.ofItems false items) :: (← tokens after)
  | .plain '^' :: rest => (tokens rest).map (.part (.plain startOfText) :: ·)
  | .plain '$' :: rest => (tokens rest).map (.part (.plain endOfText) :: ·)
  | .plain '.' :: rest =>
    (tokens rest).map (.part (.plain (oneOf notLineFeed)) :: ·)
  | .plain c :: rest =>
    (tokens rest).map (.part (.plain (oneOf (.ofChar c))) :: ·)
termination_by text.length
decreasing_by all_goals (simp only [List.length_cons] at *; omega)

/-- The greatest depth of some parts, one more if there are two or more. -/
def depthOfAll (ps : List Part) : Nat :=
  (ps.map Part.depth).foldl max 0 + (if ps.length < 2 then 0 else 1)

def Part.sequence (ps : List Part) : Part :=
  ⟨Pattern.sequence (ps.map Part.pattern), depthOfAll ps⟩

def Part.alternatives (ps : List Part) : Part :=
  ⟨Pattern.alternatives (ps.map Part.pattern), depthOfAll ps⟩

/-- The part in brackets, as the group of that number if it has one. -/
def Part.grouped (number : Option Nat) (p : Part) : Part :=
  match number with
  | none => ⟨p.pattern, p.depth + 1⟩
  | some number => ⟨group number p.pattern, p.depth + 1⟩

def Part.rounds (greedy : Bool) (low : Nat) (high : Option Nat) (p : Part) : Part :=
  ⟨Pattern.rounds greedy low high p.pattern, p.depth + 1⟩

/-- A group that is open: its number, its finished alternatives and the parts
of the one under way, both newest first. -/
structure OpenGroup where
  number : Option Nat
  finished : List Part
  parts : List Part
deriving DecidableEq, Repr

namespace OpenGroup

def start (number : Option Nat) : OpenGroup := ⟨number, [], []⟩

def push (g : OpenGroup) (p : Part) : OpenGroup :=
  { g with parts := p :: g.parts }

def startAlternative (g : OpenGroup) : OpenGroup :=
  { g with finished := .sequence g.parts.reverse :: g.finished, parts := [] }

def inside (g : OpenGroup) : Part :=
  .alternatives (.sequence g.parts.reverse :: g.finished).reverse

end OpenGroup

/-- Puts tokens together, given the number of groups counted so far, the
innermost open group and those around it. -/
def assemble (counted : Nat) :
    List Token → OpenGroup → List OpenGroup → Except ExpressionError Part
  | [], g, [] => .ok g.inside
  | [], _, _ :: _ => .error .unclosedGroup
  | .part p :: rest, g, around => assemble counted rest (g.push p) around
  | .bar :: rest, g, around => assemble counted rest g.startAlternative around
  | .openGroup false :: rest, g, around =>
    assemble counted rest (.start none) (g :: around)
  | .openGroup true :: rest, g, around =>
    assemble (counted + 1) rest (.start (some (counted + 1))) (g :: around)
  | .closeGroup :: rest, g, outer :: around =>
    assemble counted rest (outer.push (g.inside.grouped g.number)) around
  | .closeGroup :: _, _, [] => .error .unopenedGroup
  | .quantifier low high greedy :: rest, g, around =>
    match g.parts with
    | [] => .error .nothingToRepeat
    | p :: parts =>
      assemble counted rest { g with parts := p.rounds greedy low high :: parts }
        around

def depthLimit : Nat := 250

/-- About how many states it takes to recognise the characters of a range byte
by byte. A range within ASCII is a single transition, and one that goes through
several lengths of characters needs states for each of them. -/
def rangeWeight (r : CharRange) : Nat :=
  if r.last < 0x80 then 1
  else if r.last < r.first + 0x40 then 2
  else if r.last ≤ 0xFFFF then 5
  else 26

/-- About how many states a class needs. A single character needs one for each
of its bytes. -/
def classWeight (cls : CharClass) : Nat :=
  match cls.ranges with
  | [r] =>
    if r.first = r.last then (Char.ofNat r.last).utf8Size else 2 + rangeWeight r
  | ranges =>
    if ranges.all (·.last < 0x80) then 2 + ranges.length / 4
    else 2 + (ranges.map rangeWeight).foldr (· + ·) 0

/-- About how many states a pattern needs, all rounds of a repetition written
out. The beginning and the end of a group are states of their own. -/
def weight : Pattern → Nat
  | empty | startOfText | endOfText => 1
  | oneOf cls => classWeight cls
  | append p q => p.weight + q.weight
  | either p q => p.weight + q.weight + 1
  | repeated _ low none p => p.weight * max low 1 + 2
  | repeated _ low (some high) p => p.weight * high + (high - low) + 1
  | group _ p => p.weight + 2

def weightLimit : Nat := 327680

def parse (text : List Char) : Except ExpressionError Pattern := do
  let whole ← assemble 0 (← tokens (← pieces text)) (.start none) []
  if depthLimit < whole.depth then throw .tooDeep
  else if weightLimit < whole.pattern.weight then throw .tooLarge
  else return whole.pattern

/-- The expression with a demand for the start of the text, unless it already
begins with one. -/
def anchoredText (expression : List Char) : List Char :=
  if expression.head? = some '^' then expression
  else "^(?:".toList ++ expression ++ [')']

def parseAnchored (expression : List Char) : Except ExpressionError Pattern :=
  parse (anchoredText expression)

end TreeCodec.Pattern
