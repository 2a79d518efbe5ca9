set_option autoImplicit false

/-!
# Scalars

Settings and scores are binary numbers of 64 bits. An operation without a result, such as the
difference of two infinities, gives a scalar that is undefined. It has a sign, which every further
operation keeps, and in the order of scalars it lies beyond the infinity of that sign.
-/
namespace CodeReading

inductive Scalar where
  | number (value : Float)
  | undefined (negative : Bool)

namespace Scalar

instance : OfScientific Scalar :=
  ⟨fun significand negative places => .number (Float.ofScientific significand negative places)⟩

def ofNat (n : Nat) : Scalar :=
  .number (Float.ofNat n)

/-- The outcome of an operation on numbers. Without a result it is undefined and negative. -/
def ofResult (x : Float) : Scalar :=
  if x.isNaN then .undefined true else .number x

def toFloat : Scalar → Float
  | .number x => x
  | .undefined _ => Float.ofBits 0x7FF8000000000000

/-- An operation on scalars. Of two undefined ones the left one is kept. -/
def combine (op : Float → Float → Float) : Scalar → Scalar → Scalar
  | .undefined negative, _ => .undefined negative
  | .number _, .undefined negative => .undefined negative
  | .number x, .number y => ofResult (op x y)

instance : Add Scalar := ⟨combine (· + ·)⟩

instance : Mul Scalar := ⟨combine (· * ·)⟩

instance : Div Scalar := ⟨combine (· / ·)⟩

def isFinite : Scalar → Bool
  | .number x => x.isFinite
  | .undefined _ => false

def compares (test : Float → Float → Bool) : Scalar → Scalar → Bool
  | .number x, .number y => test x y
  | _, _ => false

instance : LT Scalar := ⟨fun a b => compares (· < ·) a b = true⟩

instance : LE Scalar := ⟨fun a b => compares (· ≤ ·) a b = true⟩

instance (a b : Scalar) : Decidable (a < b) :=
  inferInstanceAs (Decidable (compares (· < ·) a b = true))

instance (a b : Scalar) : Decidable (a ≤ b) :=
  inferInstanceAs (Decidable (compares (· ≤ ·) a b = true))

/-- The lesser of two scalars, the second of two equal ones; what is undefined gives way. -/
def lesser (a b : Scalar) : Scalar :=
  match a with
  | .undefined _ => b
  | .number _ => if b ≤ a then b else a

/-- The place of a scalar in a total order: numbers by value, minus zero before zero, and what is
    undefined at the end of its sign. -/
def orderKey : Scalar → Int
  | .undefined negative => if negative then -0x8000000000000000 else 0x8000000000000000
  | .number x =>
    let bits := x.toBits.toNat
    if bits < 0x8000000000000000 then bits else 0x7FFFFFFFFFFFFFFF - bits

end Scalar
end CodeReading
