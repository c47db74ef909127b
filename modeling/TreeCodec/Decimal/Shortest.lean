import TreeCodec.Decimal.Binary64
import TreeCodec.Text.Numeral

/-!
The shortest decimal fraction that reads back as a given number. The fractions
that read back are those between the midpoints to both neighbouring numbers,
and the midpoints themselves if the place of the number is even. Among the
multiples of the powers of ten, from the greatest power down, the first that
lies there has the fewest digits; of two neighbours on one grid the nearer is
taken, and the greater one if both are equally near.

Numbers are written with a point and never with an exponent.
-/

namespace TreeCodec.Decimal

open Text

structure Fraction where
  digits : Nat
  exponent : Int
deriving DecidableEq, Repr

/-- The powers of ten that a shortest fraction can need, the greatest first. -/
def gridExponents : List Int :=
  (List.range 640).map fun (k : Nat) => 310 - (k : Int)

/-- The multiple of a power of ten that reads back as the number at a place,
if one does. All quantities are doubled units, and scaled to be whole. -/
def onGrid? (place : Nat) (exponent : Int) : Option Fraction :=
  let scale := Nat.pow 10 (-exponent).toNat
  let spacing := 2 * Binary64.unitsPerOne * Nat.pow 10 exponent.toNat
  let value := 2 * Binary64.unitsAt place * scale
  let low :=
    (Binary64.unitsAt (place - 1) + Binary64.unitsAt place) * scale
  let high :=
    (Binary64.unitsAt place + Binary64.unitsAt (place + 1)) * scale
  let readsBack (point : Nat) : Bool :=
    if place % 2 = 0 then low ≤ point && point ≤ high
    else low < point && point < high
  let below := value / spacing
  let above := below + 1
  let fitsBelow := readsBack (below * spacing)
  let fitsAbove := readsBack (above * spacing)
  if fitsAbove
      && (!fitsBelow || above * spacing - value ≤ value - below * spacing) then
    some ⟨above, exponent⟩
  else if fitsBelow then some ⟨below, exponent⟩
  else none

/-- The shortest fraction for the number at a place; zero for the first. -/
def shortest (place : Nat) : Fraction :=
  if place = 0 then ⟨0, 0⟩
  else (gridExponents.findSome? (onGrid? place)).getD ⟨0, 0⟩

/-- A fraction with a point, unless it is whole. -/
def positional (fraction : Fraction) : List Char :=
  let digits := numeral fraction.digits
  if 0 ≤ fraction.exponent then
    digits ++ List.replicate fraction.exponent.toNat '0'
  else
    let places := (-fraction.exponent).toNat
    let padded := List.replicate (places + 1 - digits.length) '0' ++ digits
    let whole := padded.length - places
    padded.take whole ++ '.' :: padded.drop whole

def signText (negative : Bool) : List Char :=
  if negative then ['-'] else []

def text : Binary64 → List Char
  | .notANumber => "NaN".toList
  | .infinite negative => signText negative ++ "inf".toList
  | .finite negative place => signText negative ++ positional (shortest place)

/-- The shortest text of a number, where whole numbers too have a point. -/
def textWithPoint (number : Binary64) : List Char :=
  match number with
  | .finite _ _ =>
    let text := text number
    if text.contains '.' then text else text ++ ".0".toList
  | _ => text number

end TreeCodec.Decimal
