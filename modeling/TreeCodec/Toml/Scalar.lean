import TreeCodec.Decimal.Reading
import TreeCodec.Text.Numeral
import TreeCodec.Toml.Value

/-!
Numbers and words in TOML. Each is a token that ends where none of its
characters can follow, so it is cut off first and then read as a whole.
Underscores may stand between two digits.
-/

namespace TreeCodec.Toml

open Text

def isTokenChar (c : Char) : Bool :=
  c.isAlphanum || c = '_' || c = '+' || c = '-' || c = '.'

/-- The digits of a token, each underscore between two of them dropped. -/
def ungrouped? (isDigit : Char → Bool) : List Char → Option (List Char)
  | [] => none
  | [c] => if isDigit c then some [c] else none
  | c :: '_' :: rest =>
    if isDigit c then (ungrouped? isDigit rest).map (c :: ·) else none
  | c :: rest =>
    if isDigit c then (ungrouped? isDigit rest).map (c :: ·) else none

/-- The digits of a number that begins with zero only if it is zero. -/
def wholeDigits? (token : List Char) : Option (List Char) :=
  match ungrouped? isDigit token with
  | some ['0'] => some ['0']
  | some ('0' :: _) => none
  | digits => digits

def fitsInteger (n : Int) : Bool :=
  Int64.minValue.toInt ≤ n && n ≤ Int64.maxValue.toInt

/-- An integer in a base other than ten, from behind the mark of the base. -/
def readInBase? (base : Nat) (token : List Char) : Option Int := do
  let isDigit (c : Char) : Bool := (hexValue? c).any (· < base)
  let digits ← ungrouped? isDigit token
  return valueInBase base (digits.filterMap hexValue?)

def readDecimalInteger? (token : List Char) : Option Int := do
  let (negative, digits) := Decimal.splitSign token
  let n := numeralValue (← wholeDigits? digits)
  return if negative then -(n : Int) else n

def readInteger? (token : List Char) : Option Int :=
  let n? :=
    match token with
    | '0' :: 'x' :: digits => readInBase? 16 digits
    | '0' :: 'o' :: digits => readInBase? 8 digits
    | '0' :: 'b' :: digits => readInBase? 2 digits
    | _ => readDecimalInteger? token
  n?.filter fitsInteger

/-- The exponent of a float, from its letter on, without underscores. -/
def exponentText? (token : List Char) : Option (List Char) :=
  match token with
  | [] => some []
  | c :: rest =>
    if c = 'e' || c = 'E' then
      match rest with
      | '+' :: digits => (ungrouped? isDigit digits).map fun ds => 'e' :: ds
      | '-' :: digits =>
        (ungrouped? isDigit digits).map fun ds => 'e' :: '-' :: ds
      | digits => (ungrouped? isDigit digits).map fun ds => 'e' :: ds
    else none

/-- The fraction and the exponent of a float, without underscores. -/
def fractionalText? (token : List Char) : Option (List Char) :=
  match token with
  | '.' :: rest => do
    let (fraction, exponent) := rest.span fun c => isDigit c || c = '_'
    return '.' :: (← ungrouped? isDigit fraction) ++ (← exponentText? exponent)
  | _ => exponentText? token

/-- A float with a fraction, an exponent or both. One that is too great is
refused; one that is too small becomes negative infinity. -/
def readFractional? (token : List Char) : Option Binary64 := do
  let (negative, unsigned) := Decimal.splitSign token
  let (whole, behind) := unsigned.span fun c => isDigit c || c = '_'
  if behind.isEmpty then none
  else
    let text := (← wholeDigits? whole) ++ (← fractionalText? behind)
    let x ← Decimal.read? (if negative then '-' :: text else text)
    if x = .infinite false then none else some x

def readSpecial? (token : List Char) : Option Binary64 :=
  let (negative, word) := Decimal.splitSign token
  if word = "inf".toList then some (.infinite negative)
  else if word = "nan".toList then some .notANumber
  else none

def Value.ofToken? (token : List Char) : Option Value :=
  if token = "true".toList then some (.boolean true)
  else if token = "false".toList then some (.boolean false)
  else
    (readFractional? token).map .float
      <|> (readSpecial? token).map .float
      <|> (readInteger? token).map .integer

def readScalar : Reader Value := fun text =>
  match readMoment? text with
  | some (moment, rest) => some (.moment moment, rest)
  | none =>
    let (token, rest) := text.span isTokenChar
    (Value.ofToken? token).map fun value => (value, rest)

end TreeCodec.Toml
