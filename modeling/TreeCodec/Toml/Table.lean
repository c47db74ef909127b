import TreeCodec.Toml.Value

/-!
Tables under construction. A document makes tables in several ways: with a
header of their own, because they stand on the way to one, and because a key
with dots leads through them. What may still be added to a table depends on how
it was made; a second definition of anything is refused, which is what `none`
means below.
-/

namespace TreeCodec.Toml

inductive Making where
  | header
  /-- On the way to another header. -/
  | passing
  /-- On the way of a key with dots. -/
  | dotted
deriving DecidableEq, Repr

/-- What stands at a key of an unfinished table. -/
inductive Slot where
  /-- A value that was written as a whole. -/
  | fixed (value : Value)
  | table (making : Making) (entries : List (Key × Slot))
  /-- Tables that are elements of an array, the last of them unfinished. -/
  | elements (earlier : List Value) (last : List (Key × Slot))

abbrev Slots := List (Key × Slot)

namespace Slots

/-- Changes what stands at a key, or puts something there. -/
def alter (key : Key) (change : Option Slot → Option Slot) :
    Slots → Option Slots
  | [] => (change none).map fun slot => [(key, slot)]
  | (k, slot) :: rest =>
    if k = key then (change (some slot)).map fun slot => (k, slot) :: rest
    else (alter key change rest).map ((k, slot) :: ·)

/-- A value at a key, reached over the keys of a path. A path leads through
tables that were made on the way of a key or of a header, but the last of them
must be one that keys with dots have made. -/
def assign (key : Key) (value : Value) : (path : List Key) → Slots → Option Slots
  | [], slots =>
    slots.alter key fun
      | none => some (.fixed value)
      | some _ => none
  | k :: path, slots =>
    slots.alter k fun
      | none => (assign key value path []).map (.table .dotted)
      | some (.table .dotted inner) =>
        (assign key value path inner).map (.table .dotted)
      | some (.table .passing inner) =>
        if path.isEmpty then none
        else (assign key value path inner).map (.table .passing)
      | some (.elements earlier last) =>
        if path.isEmpty then none
        else (assign key value path last).map (.elements earlier)
      | some (.table .header _) => none
      | some (.fixed _) => none

def within (change : Slots → Option Slots) :
    (path : List Key) → Slots → Option Slots
  | [], slots => change slots
  | k :: path, slots =>
    slots.alter k fun
      | none => (within change path []).map (.table .passing)
      | some (.table making inner) =>
        (within change path inner).map (.table making)
      | some (.elements earlier last) =>
        (within change path last).map (.elements earlier)
      | some (.fixed _) => none

end Slots

mutual

def Slot.value : Slot → Value
  | .fixed value => value
  | .table _ entries => .table (Slots.values entries)
  | .elements earlier last =>
    .array (earlier ++ [.table (Slots.values last)])

def Slots.values : List (Key × Slot) → List (Key × Value)
  | [] => []
  | (key, slot) :: rest => (key, slot.value) :: Slots.values rest

end

namespace Slots

def declareTable (key : Key) (slots : Slots) : Option Slots :=
  slots.alter key fun
    | none => some (.table .header [])
    | some (.table .passing inner) => some (.table .header inner)
    | some _ => none

def declareElement (key : Key) (slots : Slots) : Option Slots :=
  slots.alter key fun
    | none => some (.elements [] [])
    | some (.elements earlier last) =>
      some (.elements (earlier ++ [.table (values last)]) [])
    | some _ => none

end Slots

end TreeCodec.Toml
