import TreeCodec.Text.Ending
import TreeCodec.Text.Numeral

/-!
Dates and times of day. A date is one of the Gregorian calendar, continued into
the past; a minute may have a leap second. Fractions of a second are cut after
nine digits.
-/

namespace TreeCodec.Toml

open Text

structure Date where
  year : Nat
  month : Nat
  day : Nat
deriving DecidableEq, Repr

structure Time where
  hour : Nat
  minute : Nat
  second : Nat
  nanosecond : Nat
deriving DecidableEq, Repr

inductive Offset where
  | universal
  | minutes (n : Int)
deriving DecidableEq, Repr

inductive Moment where
  | date (date : Date)
  | time (time : Time)
  | dateTime (date : Date) (time : Time) (offset : Option Offset)
deriving DecidableEq, Repr

/-! Reading. -/

def readDigits? (count : Nat) (text : List Char) : Option (Nat × List Char) :=
  let digits := text.take count
  if digits.length = count && digits.all isDigit then
    some (numeralValue digits, text.drop count)
  else none

def readPair? (last : Nat) (text : List Char) : Option (Nat × List Char) := do
  let (n, rest) ← readDigits? 2 text
  if n ≤ last then some (n, rest) else none

def expect? (c : Char) : List Char → Option (List Char)
  | [] => none
  | d :: rest => if d = c then some rest else none

def isLeapYear (year : Nat) : Bool :=
  year % 4 = 0 && (year % 100 ≠ 0 || year % 400 = 0)

def daysInMonth (year month : Nat) : Nat :=
  if month = 2 then if isLeapYear year then 29 else 28
  else if month = 4 || month = 6 || month = 9 || month = 11 then 30
  else 31

def Date.exists (d : Date) : Bool :=
  1 ≤ d.month && d.month ≤ 12 && 1 ≤ d.day
    && d.day ≤ daysInMonth d.year d.month

def readDate? (text : List Char) : Option (Date × List Char) := do
  let (year, rest) ← readDigits? 4 text
  let (month, rest) ← readDigits? 2 (← expect? '-' rest)
  let (day, rest) ← readDigits? 2 (← expect? '-' rest)
  let date : Date := ⟨year, month, day⟩
  if date.exists then some (date, rest) else none

/-- The billionths in a fraction of a second. -/
def nanoseconds (digits : List Char) : Nat :=
  numeralValue ((digits ++ List.replicate 9 '0').take 9)

/-- The fraction that may follow the seconds, in billionths. -/
def readFraction (text : List Char) : Nat × List Char :=
  match text with
  | '.' :: rest =>
    let (digits, behind) := rest.span isDigit
    if digits.isEmpty then (0, text) else (nanoseconds digits, behind)
  | _ => (0, text)

def readTime? (text : List Char) : Option (Time × List Char) := do
  let (hour, rest) ← readPair? 23 text
  let (minute, rest) ← readPair? 59 (← expect? ':' rest)
  let (second, rest) ← readPair? 60 (← expect? ':' rest)
  let (nanosecond, rest) := readFraction rest
  return (⟨hour, minute, second, nanosecond⟩, rest)

/-- Hours and minutes behind the sign of an offset. -/
def readOffsetMinutes? (text : List Char) : Option (Nat × List Char) := do
  let (hour, rest) ← readPair? 23 text
  let (minute, rest) ← readPair? 59 (← expect? ':' rest)
  return (60 * hour + minute, rest)

def readOffset (text : List Char) : Option Offset × List Char :=
  match text with
  | [] => (none, [])
  | c :: rest =>
    if c = 'Z' || c = 'z' then (some .universal, rest)
    else if c = '+' || c = '-' then
      match readOffsetMinutes? rest with
      | some (n, behind) =>
        (some (.minutes (if c = '-' then -(n : Int) else n)), behind)
      | none => (none, text)
    else (none, text)

/-- The time behind a date: a letter or one space stands between them. -/
def readTimeOfDate? (text : List Char) : Option (Time × List Char) :=
  match text with
  | c :: rest =>
    if c = 'T' || c = 't' || c = ' ' then readTime? rest else none
  | [] => none

def readMoment? (text : List Char) : Option (Moment × List Char) :=
  match readDate? text with
  | some (date, rest) =>
    match readTimeOfDate? rest with
    | some (time, rest) =>
      let (offset, rest) := readOffset rest
      some (.dateTime date time offset, rest)
    | none => some (.date date, rest)
  | none => (readTime? text).map fun (time, rest) => (.time time, rest)

/-! Writing. -/

/-- A number with at least `count` digits. -/
def paddedNumeral (count n : Nat) : List Char :=
  let digits := numeral n
  List.replicate (count - digits.length) '0' ++ digits

def Date.text (d : Date) : List Char :=
  paddedNumeral 4 d.year ++ '-' :: paddedNumeral 2 d.month
    ++ '-' :: paddedNumeral 2 d.day

/-- A fraction of a second without zeros at its end; nothing for none. -/
def fractionText (nanosecond : Nat) : List Char :=
  if nanosecond = 0 then []
  else
    '.' :: trimEnd (· = '0') (paddedNumeral 9 nanosecond)

def Time.text (t : Time) : List Char :=
  paddedNumeral 2 t.hour ++ ':' :: paddedNumeral 2 t.minute
    ++ ':' :: paddedNumeral 2 t.second ++ fractionText t.nanosecond

def Offset.text : Offset → List Char
  | universal => ['Z']
  | minutes n =>
    (if n < 0 then '-' else '+') :: paddedNumeral 2 (n.natAbs / 60)
      ++ ':' :: paddedNumeral 2 (n.natAbs % 60)

def Moment.text : Moment → List Char
  | date d => d.text
  | time t => t.text
  | dateTime d t offset =>
    d.text ++ 'T' :: t.text
      ++ match offset with
        | some offset => offset.text
        | none => []

end TreeCodec.Toml
