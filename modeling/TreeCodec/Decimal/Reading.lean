import TreeCodec.Decimal.Binary64
import TreeCodec.Text.Numeral

/-!
Decimal fractions as text. A number may have a sign, digits with a point
before, between or behind them, and an exponent; infinity and the values that
are no number are written as words in any case.
-/

namespace TreeCodec.Decimal

open Text

/-- A sign at the start of a text, if there is one: whether it is negative,
and what follows. -/
def splitSign (text : List Char) : Bool × List Char :=
  match text with
  | '-' :: rest => (true, rest)
  | '+' :: rest => (false, rest)
  | rest => (false, rest)

def readSigned? (text : List Char) : Option Int :=
  let (negative, digits) := splitSign text
  (readNumeral? digits).map fun n => if negative then -(n : Int) else n

/-- The digits after the point, without the point, and what follows. -/
def splitFraction (text : List Char) : List Char × List Char :=
  match text with
  | '.' :: rest => rest.span isDigit
  | rest => ([], rest)

/-- The exponent that ends a text; no text is the exponent zero. -/
def readExponent? (text : List Char) : Option Int :=
  match text with
  | [] => some 0
  | c :: rest => if c = 'e' || c = 'E' then readSigned? rest else none

def lowerAscii (text : List Char) : List Char :=
  text.map Char.toLower

def readWord? (negative : Bool) (text : List Char) : Option Binary64 :=
  let word := lowerAscii text
  if word = "nan".toList then some .notANumber
  else if word = "inf".toList || word = "infinity".toList then
    some (.infinite negative)
  else none

/-- The number nearest to the decimal fraction that a text writes. -/
def read? (text : List Char) : Option Binary64 :=
  let (negative, unsigned) := splitSign text
  let (whole, behind) := unsigned.span isDigit
  let (fraction, behind) := splitFraction behind
  if whole.isEmpty && fraction.isEmpty then readWord? negative unsigned
  else
    (readExponent? behind).map fun exponent =>
      .ofDecimal negative (numeralValue (whole ++ fraction))
        (exponent - fraction.length)

end TreeCodec.Decimal
