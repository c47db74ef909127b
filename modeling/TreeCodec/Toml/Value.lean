import TreeCodec.Decimal.Binary64
import TreeCodec.Toml.Moment

/-!
The values of a TOML document. A document is a table; its entries stand in the
order in which their keys first appear.
-/

namespace TreeCodec.Toml

abbrev Key := List Char

inductive Value where
  | string (text : List Char)
  | integer (n : Int)
  | float (x : Binary64)
  | boolean (b : Bool)
  | moment (m : Moment)
  | array (values : List Value)
  | table (entries : List (Key × Value))

/-- Reads something at the start of a text; the second component is what is
left. -/
abbrev Reader (β : Type) := List Char → Option (β × List Char)

end TreeCodec.Toml
