import CodeReading.Decimal.Numeral

set_option autoImplicit false

namespace CodeReading

/-- A value as it is written: members of an object in order, repeated keys included. A string
    literal can hold half of a surrogate pair, which is no text. -/
inductive Json where
  | null
  | bool (value : Bool)
  | num (value : Numeral)
  | str (text : Option String)
  | arr (items : List Json)
  | obj (members : List (Option String × Json))
  deriving Repr

namespace Json

def text (s : String) : Json :=
  .str (some s)

def nat (n : Nat) : Json :=
  .num (.ofNat n)

def strings (items : List String) : Json :=
  .arr (items.map text)

def record (members : List (String × Json)) : Json :=
  .obj (members.map fun member => (some member.1, member.2))

def optional (value : Option String) : Json :=
  value.elim .null text

/-- The last member of an object with the given key. -/
def member? (key : String) : Json → Option Json
  | .obj members => (members.reverse.find? fun member => member.1 == some key).map (·.2)
  | _ => none

def text? : Json → Option String
  | .str text => text
  | _ => none

def items? : Json → Option (List Json)
  | .arr items => some items
  | _ => none

end Json
end CodeReading
