/-!
Decimal numerals in the ten ASCII digits: reading a run of digits, leading
zeros allowed, and writing a number without them. Digits in base sixteen are
read one by one.
-/

namespace TreeCodec.Text

/-- The digits zero to nine. Digits of other scripts do not count. -/
def isDigit (c : Char) : Bool :=
  '0' ≤ c && c ≤ '9'

def digitValue (c : Char) : Nat :=
  c.toNat - '0'.toNat

def digitChar (n : Nat) : Char :=
  Char.ofNat ('0'.toNat + n)

/-- The value of a digit in base sixteen, in either case. -/
def hexValue? (c : Char) : Option Nat :=
  if isDigit c then some (digitValue c)
  else if 'a' ≤ c && c ≤ 'f' then some (c.toNat - 'a'.toNat + 10)
  else if 'A' ≤ c && c ≤ 'F' then some (c.toNat - 'A'.toNat + 10)
  else none

/-- The number of digits below a base, the first one counting most. -/
def valueInBase (base : Nat) (digits : List Nat) : Nat :=
  digits.foldl (fun n digit => base * n + digit) 0

def numeralValue (digits : List Char) : Nat :=
  valueInBase 10 (digits.map digitValue)

/-- The number, if the text is a non-empty run of digits. -/
def readNumeral? (text : List Char) : Option Nat :=
  if !text.isEmpty && text.all isDigit then some (numeralValue text) else none

/-- The digits of `n`, written in front of `rest`. -/
def numeralOnto (n : Nat) (rest : List Char) : List Char :=
  if n < 10 then digitChar n :: rest
  else numeralOnto (n / 10) (digitChar (n % 10) :: rest)
termination_by n

/-- The shortest numeral of `n`. -/
def numeral (n : Nat) : List Char :=
  numeralOnto n []

end TreeCodec.Text
