set_option autoImplicit false

namespace CodeReading

structure Numeral where
  negative : Bool
  whole : Nat
  /-- Digits after the point; none when there is no point. -/
  fraction : List Char
  exponent : Option Int
  deriving DecidableEq, Repr

namespace Numeral

def ofNat (n : Nat) : Numeral :=
  ⟨false, n, [], none⟩

def toNat? (n : Numeral) : Option Nat :=
  if n.negative = false ∧ n.fraction = [] ∧ n.exponent = none then some n.whole else none

theorem toNat?_ofNat (n : Nat) : (ofNat n).toNat? = some n := rfl

def significand (n : Numeral) : Nat :=
  Nat.ofDigitChars 10 n.fraction n.whole

def scale (n : Numeral) : Int :=
  n.exponent.getD 0 - n.fraction.length

def exponentRange : Int := 400

def infinity : Float := Float.ofBits 0x7FF0000000000000

/-- The magnitude; far outside the range of binary numbers it is decided without computing it. -/
def magnitude (n : Numeral) : Float :=
  let places := n.scale + n.significand.repr.length
  if n.significand = 0 ∨ places < -exponentRange then 0.0
  else if exponentRange < places then infinity
  else Float.ofScientific n.significand (n.scale < 0) n.scale.natAbs

def toFloat (n : Numeral) : Float :=
  if n.negative then -n.magnitude else n.magnitude

def render (n : Numeral) : String :=
  (if n.negative then "-" else "") ++ n.whole.repr
    ++ (if n.fraction = [] then "" else "." ++ String.ofList n.fraction)
    ++ (match n.exponent with
      | none => ""
      | some e => "e" ++ (if e < 0 then "-" else "+") ++ e.natAbs.repr)

end Numeral
end CodeReading
