import TreeCodec.Decimal.Reading

/-!
The parts of JSON that hold no other values: strings, numbers and the three
words. Only strings are read for their value. Of the others it matters where a
tree is expected in which way they are wrong: cut short, malformed, or well
formed and of the wrong kind.
-/

namespace TreeCodec.Json

open Text

inductive ReadError where
  | badSyntax
  | endOfText
  /-- What was read is JSON, but of another kind. -/
  | notATree
deriving DecidableEq, Repr

/-- Reads something at the start of a text; the second component is what is
left. -/
abbrev Reader (β : Type) := List Char → Except ReadError (β × List Char)

def isJsonBlank (c : Char) : Bool :=
  c = ' ' || c = '\n' || c = '\t' || c = '\r'

def skipBlanks (text : List Char) : List Char :=
  text.dropWhile isJsonBlank

/-- What is behind a given character, blanks aside. -/
def expect (c : Char) (text : List Char) : Except ReadError (List Char) :=
  match skipBlanks text with
  | [] => .error .endOfText
  | d :: rest => if d = c then .ok rest else .error .badSyntax

/-- The error at four hexadecimal digits that are not there: what is left has
fewer than four bytes, or something else stands there. -/
def missingUnit (text : List Char) : ReadError :=
  if (text.map Char.utf8Size).foldr (· + ·) 0 < 4 then .endOfText else .badSyntax

def readUnit : Reader Nat
  | a :: b :: c :: d :: rest =>
    match [a, b, c, d].mapM hexValue? with
    | some digits => .ok (valueInBase 16 digits, rest)
    | none => .error .badSyntax
  | text => .error (missingUnit text)

/-- The character of a number behind `\u`. A high surrogate needs a low one,
written the same way, and a low one does not stand alone. -/
def pairedChar (unit : Nat) (text : List Char) :
    Except ReadError (Char × List Char) :=
  if unit < 0xD800 || 0xE000 ≤ unit then .ok (Char.ofNat unit, text)
  else if 0xDC00 ≤ unit then .error .badSyntax
  else
    match text with
    | '\\' :: 'u' :: rest => do
      let (low, rest) ← readUnit rest
      if 0xDC00 ≤ low && low < 0xE000 then
        return (Char.ofNat
          (0x10000 + (unit - 0xD800) * 0x400 + (low - 0xDC00)), rest)
      else throw .badSyntax
    | ['\\'] => .error .endOfText
    | [] => .error .endOfText
    | _ => .error .badSyntax

/-- The character of an escape, from behind the backslash. -/
def readEscape : Reader Char
  | [] => .error .endOfText
  | '"' :: rest => .ok ('"', rest)
  | '\\' :: rest => .ok ('\\', rest)
  | '/' :: rest => .ok ('/', rest)
  | 'b' :: rest => .ok ('\x08', rest)
  | 'f' :: rest => .ok ('\x0c', rest)
  | 'n' :: rest => .ok ('\n', rest)
  | 'r' :: rest => .ok ('\r', rest)
  | 't' :: rest => .ok ('\t', rest)
  | 'u' :: rest => do
    let (unit, rest) ← readUnit rest
    pairedChar unit rest
  | _ :: _ => .error .badSyntax

theorem length_of_readUnit {text rest : List Char} {unit : Nat}
    (h : readUnit text = .ok (unit, rest)) : rest.length < text.length := by
  unfold readUnit at h
  split at h
  · split at h
    · simp only [Except.ok.injEq, Prod.mk.injEq] at h
      obtain ⟨-, rfl⟩ := h
      simp only [List.length_cons]
      omega
    · simp at h
  · simp at h

theorem length_of_pairedChar {text rest : List Char} {unit : Nat} {c : Char}
    (h : pairedChar unit text = .ok (c, rest)) : rest.length ≤ text.length := by
  unfold pairedChar at h
  split at h
  · simp only [Except.ok.injEq, Prod.mk.injEq] at h
    simp [h.2]
  · split at h
    · simp at h
    · split at h
      · rename_i behind
        match hr : readUnit behind with
        | .error e => simp [hr, bind, Except.bind] at h
        | .ok (low, left) =>
          have := length_of_readUnit hr
          simp only [hr, bind, Except.bind] at h
          split at h
          · simp only [pure, Except.pure, Except.ok.injEq, Prod.mk.injEq] at h
            obtain ⟨-, rfl⟩ := h
            simp only [List.length_cons]
            omega
          · simp [throw, throwThe, MonadExceptOf.throw] at h
      all_goals simp at h

theorem length_of_readEscape {text rest : List Char} {c : Char}
    (h : readEscape text = .ok (c, rest)) : rest.length < text.length := by
  unfold readEscape at h
  split at h
  case h_10 behind =>
    match hr : readUnit behind with
    | .error e => simp [hr, bind, Except.bind] at h
    | .ok (unit, left) =>
      have hu := length_of_readUnit hr
      simp only [hr, bind, Except.bind] at h
      have hp := length_of_pairedChar h
      simp only [List.length_cons]
      omega
  all_goals
    first
    | simp only [reduceCtorEq] at h
    | simp only [Except.ok.injEq, Prod.mk.injEq] at h
      obtain ⟨-, rfl⟩ := h
      simp

/-- The characters of a string, from behind its opening quotation mark.
Control characters must be escaped. -/
def readString (text : List Char) : Except ReadError (List Char × List Char) :=
  match text with
  | [] => .error .endOfText
  | '"' :: rest => .ok ([], rest)
  | '\\' :: rest =>
    match _h : readEscape rest with
    | .error e => .error e
    | .ok (c, behind) =>
      (readString behind).map fun (chars, behind) => (c :: chars, behind)
  | c :: rest =>
    if c.toNat < 0x20 then .error .badSyntax
    else (readString rest).map fun (chars, behind) => (c :: chars, behind)
termination_by text.length
decreasing_by
  · have := length_of_readEscape _h
    simp only [List.length_cons]
    omega
  · simp only [List.length_cons]
    omega

/-- What is behind a word, or behind all that is left of it. -/
def readWord : (word text : List Char) → Except ReadError (List Char)
  | [], text => .ok text
  | _ :: _, [] => .error .endOfText
  | c :: word, d :: rest =>
    if d = c then readWord word rest else .error .badSyntax

def missingDigits : List Char → ReadError
  | [] => .endOfText
  | _ :: _ => .badSyntax

/-- The error at a complete number where a tree is expected. A number beyond
the range of numbers is malformed. -/
def numberError (number : List Char) : ReadError :=
  match Decimal.read? number with
  | some (.finite _ _) => .notATree
  | _ => .badSyntax

/-- The error at a number, given what stands before the exponent and what
comes next. -/
def exponentError (number behind : List Char) : ReadError :=
  match behind with
  | c :: rest =>
    if c = 'e' || c = 'E' then
      let (negative, rest) := Decimal.splitSign rest
      let digits := rest.takeWhile isDigit
      if digits.isEmpty then missingDigits rest
      else
        numberError
          (number ++ 'e' :: (if negative then '-' :: digits else digits))
    else numberError number
  | [] => numberError number

/-- The error at a number where a tree is expected, from behind the sign. -/
def unsignedError (text : List Char) : ReadError :=
  let (whole, behind) := text.span isDigit
  if whole.isEmpty then missingDigits text
  else if whole.head? = some '0' && whole.length ≠ 1 then .badSyntax
  else
    match behind with
    | '.' :: rest =>
      let (fraction, behind) := rest.span isDigit
      if fraction.isEmpty then missingDigits rest
      else exponentError (whole ++ '.' :: fraction) behind
    | _ => exponentError whole behind

/-- The error of a reader that finds something well formed of a wrong kind. -/
def wrongKind {β : Type} : Except ReadError β → ReadError
  | .error e => e
  | .ok _ => .notATree

def refusal (text : List Char) : ReadError :=
  match text with
  | [] => .endOfText
  | c :: rest =>
    if c = 'n' then wrongKind (readWord "ull".toList rest)
    else if c = 't' then wrongKind (readWord "rue".toList rest)
    else if c = 'f' then wrongKind (readWord "alse".toList rest)
    else if c = '"' then wrongKind (readString rest)
    else if c = '[' || c = '\x7b' then .notATree
    else if c = '-' then unsignedError rest
    else if isDigit c then unsignedError text
    else .badSyntax

end TreeCodec.Json
