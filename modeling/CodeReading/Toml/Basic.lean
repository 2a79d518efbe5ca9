import CodeReading.Scalar

set_option autoImplicit false

namespace CodeReading.Toml

inductive Origin where
  /-- written between braces; nothing is added to it -/
  | inlined
  /-- named by a header of its own, or the document itself -/
  | header
  /-- passed through by the header of a table below it -/
  | implied
  /-- passed through by a dotted key -/
  | dotted
  deriving DecidableEq, Repr

inductive Value where
  | str (text : String)
  | int (value : Int)
  | float (value : Scalar)
  | bool (value : Bool)
  | datetime
  | arr (items : List Value)
  | table (origin : Origin) (entries : List (String × Value))
  | tables (items : List Value)

abbrev Entries := List (String × Value)

abbrev Reader (α : Type) := List Char → Option (α × List Char)

end CodeReading.Toml
