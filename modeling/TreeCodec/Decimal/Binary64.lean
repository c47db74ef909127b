/-!
Binary floating point numbers of 64 bits. The absolute values that such a
number can have are listed in ascending order, and a finite number is a sign
with a place in that list, so that the next place is always the next number.

All values are whole multiples of the smallest positive one. `unitsAt` says
which multiple stands at a place, and `nearestPlace` finds the place of the
value nearest to a quotient, in exact arithmetic.
-/

namespace TreeCodec

/-- A number of 64 bits. All values that are no number are one. -/
inductive Binary64 where
  | notANumber
  | infinite (negative : Bool)
  | finite (negative : Bool) (place : Nat)
deriving DecidableEq, Repr

namespace Binary64

def placesPerPower : Nat := Nat.pow 2 52

/-- The first place behind those of the finite numbers. -/
def endOfPlaces : Nat := 2047 * placesPerPower

/-- How many of the smallest positive values make one. -/
def unitsPerOne : Nat := Nat.pow 2 1074

/-- The absolute value at a place, as a multiple of the smallest positive one.
The values below the second power of two are as dense as those above it. -/
def unitsAt (place : Nat) : Nat :=
  if place < placesPerPower then place
  else
    (placesPerPower + place % placesPerPower)
      * Nat.pow 2 (place / placesPerPower - 1)

/-- The whole number nearest to `n / d`, and the even one of two. -/
def nearestQuotient (n d : Nat) : Nat :=
  let below := n / d
  let twice := 2 * (n % d)
  if twice < d || (twice == d && below % 2 == 0) then below else below + 1

/-- The place of the value nearest to `n / d` units. Between two powers of two
the places are evenly spaced, so the nearest multiple of the spacing gives the
place, and a carry into the next power gives its first place. -/
def nearestPlace (n d : Nat) : Nat :=
  let power := (n / d).log2 - 52
  power * placesPerPower + nearestQuotient n (d * Nat.pow 2 power)

def atPlace (negative : Bool) (place : Nat) : Binary64 :=
  if place < endOfPlaces then finite negative place else infinite negative

/-- The number nearest to `digits * 10 ^ exponent`. An exponent so large or so
small that it decides alone is not computed with. -/
def ofDecimal (negative : Bool) (digits : Nat) (exponent : Int) : Binary64 :=
  if digits = 0 || exponent < -(400 + digits.log2) then finite negative 0
  else if 400 < exponent then infinite negative
  else
    atPlace negative
      (nearestPlace (digits * Nat.pow 10 exponent.toNat * unitsPerOne)
        (Nat.pow 10 (-exponent).toNat))

def ofInt (n : Int) : Binary64 :=
  ofDecimal (n < 0) n.natAbs 0

def one : Binary64 := ofInt 1

def zero : Binary64 := ofInt 0

/-- The 64 bits: the sign, then the place. -/
def bits : Binary64 → Nat
  | notANumber => endOfPlaces + placesPerPower / 2
  | infinite negative => negative.toNat * Nat.pow 2 63 + endOfPlaces
  | finite negative place => negative.toNat * Nat.pow 2 63 + place

end Binary64

end TreeCodec
