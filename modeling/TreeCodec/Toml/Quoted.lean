import TreeCodec.Text.Numeral
import TreeCodec.Toml.Value

/-!
Strings in TOML: basic ones with escapes, and literal ones without; both also
over several lines. Line ends within a string are read as line feeds, and one
right behind the opening marks is dropped.
-/

namespace TreeCodec.Toml

open Text

/-- The characters that separate tokens within a line. -/
def isTomlBlank (c : Char) : Bool :=
  c = ' ' || c = '\t'

/-- Characters that may stand for themselves: all but the control characters,
of which the tab is allowed. -/
def isPlain (c : Char) : Bool :=
  c = '\t' || (0x20 ≤ c.toNat && c.toNat ≠ 0x7F)

/-- The character of a number in base sixteen with `count` digits. Surrogates
are no characters. -/
def readCodePoint (count : Nat) : Reader Char := fun text => do
  let digits := text.take count
  let values ← digits.mapM hexValue?
  let n := valueInBase 16 values
  if digits.length = count && n.isValidChar then
    some (Char.ofNat n, text.drop count)
  else none

def readTomlEscape : Reader Char
  | [] => none
  | c :: rest =>
    if c = 'u' then readCodePoint 4 rest
    else if c = 'U' then readCodePoint 8 rest
    else if c = 'b' then some ('\x08', rest)
    else if c = 't' then some ('\t', rest)
    else if c = 'n' then some ('\n', rest)
    else if c = 'f' then some ('\x0c', rest)
    else if c = 'r' then some ('\r', rest)
    else if c = '"' then some ('"', rest)
    else if c = '\\' then some ('\\', rest)
    else none

theorem length_of_readCodePoint {count : Nat} {text rest : List Char} {c : Char}
    (h : readCodePoint count text = some (c, rest)) :
    rest.length ≤ text.length := by
  unfold readCodePoint at h
  simp only [Option.bind_eq_bind, Option.bind_eq_some_iff] at h
  obtain ⟨values, -, h⟩ := h
  split at h
  · simp only [Option.some.injEq, Prod.mk.injEq] at h
    simp [← h.2]
  · simp at h

theorem length_of_readTomlEscape {text rest : List Char} {c : Char}
    (h : readTomlEscape text = some (c, rest)) : rest.length < text.length := by
  match text, h with
  | d :: behind, h =>
    rw [readTomlEscape] at h
    simp only [List.length_cons]
    by_cases hu : d = 'u'
    · have := length_of_readCodePoint (by simpa [hu] using h)
      omega
    by_cases hU : d = 'U'
    · have := length_of_readCodePoint (by simpa [hu, hU] using h)
      omega
    have : rest = behind := by
      simp only [hu, hU, ↓reduceIte] at h
      repeat' split at h
      all_goals simp_all
    simp [this]

def consRead (c : Char) (read : Option (List Char × List Char)) :
    Option (List Char × List Char) :=
  read.map fun (chars, rest) => (c :: chars, rest)

def readBasic (text : List Char) : Option (List Char × List Char) :=
  match text with
  | [] => none
  | '"' :: rest => some ([], rest)
  | '\\' :: rest =>
    match _h : readTomlEscape rest with
    | none => none
    | some (c, behind) => consRead c (readBasic behind)
  | c :: rest => if isPlain c then consRead c (readBasic rest) else none
termination_by text.length
decreasing_by
  · have := length_of_readTomlEscape _h
    simp only [List.length_cons]
    omega
  · simp only [List.length_cons]
    omega

def readLiteral : List Char → Option (List Char × List Char)
  | [] => none
  | c :: rest =>
    if c = '\'' then some ([], rest)
    else if isPlain c then consRead c (readLiteral rest)
    else none

def lineEnd? : List Char → Option (List Char)
  | '\n' :: rest => some rest
  | '\r' :: '\n' :: rest => some rest
  | _ => none

def dropLineEnd (text : List Char) : List Char :=
  (lineEnd? text).getD text

/-- The string before three marks. Up to two more marks in front of these
belong to the string. -/
def closing? (mark : Char) (text : List Char) :
    Option (List Char × List Char) :=
  let marks := (text.take 5).takeWhile (· = mark)
  if marks.length < 3 then none
  else some (marks.drop 3, text.drop marks.length)

/-- A literal string over several lines, from behind its opening marks and the
end of their line. -/
def readLiteralLines (text : List Char) : Option (List Char × List Char) :=
  match text with
  | [] => none
  | '\r' :: '\n' :: rest => consRead '\n' (readLiteralLines rest)
  | c :: rest =>
    match closing? '\'' (c :: rest) with
    | some closed => some closed
    | none =>
      if isPlain c || c = '\n' then consRead c (readLiteralLines rest) else none

/-- Whether a line ends here, blanks aside. -/
def endsLine (text : List Char) : Bool :=
  (lineEnd? (text.dropWhile isTomlBlank)).isSome

def dropLines : List Char → List Char
  | [] => []
  | '\r' :: '\n' :: rest => dropLines rest
  | c :: rest =>
    if isTomlBlank c || c = '\n' then dropLines rest else c :: rest

theorem length_dropLines_le (text : List Char) :
    (dropLines text).length ≤ text.length := by
  fun_induction dropLines text with
  | case1 => simp
  | case2 rest ih => simp only [List.length_cons]; omega
  | case3 c rest _ _ ih => simp only [List.length_cons]; omega
  | case4 c rest _ _ => simp

/-- A basic string over several lines, from behind its opening marks and the
end of their line. A backslash at the end of a line drops all blanks and line
ends behind it. -/
def readBasicLines (text : List Char) : Option (List Char × List Char) :=
  match text with
  | [] => none
  | '\r' :: '\n' :: rest => consRead '\n' (readBasicLines rest)
  | '\\' :: rest =>
    if endsLine rest then readBasicLines (dropLines rest)
    else
      match _h : readTomlEscape rest with
      | none => none
      | some (c, behind) => consRead c (readBasicLines behind)
  | c :: rest =>
    match closing? '"' (c :: rest) with
    | some closed => some closed
    | none =>
      if isPlain c || c = '\n' then consRead c (readBasicLines rest) else none
termination_by text.length
decreasing_by
  · simp only [List.length_cons]
    omega
  · have := length_dropLines_le rest
    simp only [List.length_cons]
    omega
  · have := length_of_readTomlEscape _h
    simp only [List.length_cons]
    omega
  · simp only [List.length_cons]
    omega

def readLineString : List Char → Option (List Char × List Char)
  | '"' :: rest => readBasic rest
  | '\'' :: rest => readLiteral rest
  | _ => none

def readString : List Char → Option (List Char × List Char)
  | '"' :: '"' :: '"' :: rest => readBasicLines (dropLineEnd rest)
  | '\'' :: '\'' :: '\'' :: rest => readLiteralLines (dropLineEnd rest)
  | text => readLineString text

end TreeCodec.Toml
