import CodeReading.Json.Basic

set_option autoImplicit false

namespace CodeReading.Json

abbrev Decoder (α : Type) := Json → Option α

def asBool : Decoder Bool
  | .bool value => some value
  | _ => none

def asNatBelow (bound : Nat) : Decoder Nat
  | .num n => n.toNat?.bind fun value => if value < bound then some value else none
  | _ => none

def asUInt32 : Decoder UInt32 :=
  fun value => (asNatBelow UInt32.size value).map UInt32.ofNat

def asUInt64 : Decoder UInt64 :=
  fun value => (asNatBelow UInt64.size value).map UInt64.ofNat

def asOption {α : Type} (decode : Decoder α) : Decoder (Option α)
  | .null => some none
  | value => (decode value).map some

def asList {α : Type} (decode : Decoder α) : Decoder (List α)
  | .arr items => items.mapM decode
  | _ => none

/-- A choice by name, alone or as the only key of an object whose member is null. -/
def asChoice {α : Type} (all : List α) (name : α → String) : Decoder α
  | .str (some text) => all.find? (name · == text)
  | .obj [(some text, .null)] => all.find? (name · == text)
  | _ => none

/-- Values of the given fields that are present. Every key must be a text, and no field may come
    twice. -/
def asRecord (fields : List String) : Decoder (List (String × Json))
  | .obj members =>
    if members.all fun member => member.1.isSome then
      let present := (members.map fun member => (member.1.getD "", member.2)).filter
        fun member => member.1 ∈ fields
      if (present.map (·.1)).Nodup then some present else none
    else none
  | .arr items => if items.length ≤ fields.length then some (fields.zip items) else none
  | _ => none

def required {α : Type} (decode : Decoder α) (field : String) (record : List (String × Json)) :
    Option α :=
  (record.lookup field).bind decode

def defaulted {α : Type} (absent : α) (decode : Decoder α) (field : String)
    (record : List (String × Json)) : Option α :=
  match record.lookup field with
  | some value => decode value
  | none => some absent

end CodeReading.Json
