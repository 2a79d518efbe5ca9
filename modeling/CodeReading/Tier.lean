set_option autoImplicit false

namespace CodeReading

inductive Tier where
  | tutorial
  | basic
  | intermediate
  | advanced
  | expert
  deriving DecidableEq, Repr

namespace Tier

def all : List Tier := [.tutorial, .basic, .intermediate, .advanced, .expert]

def rank : Tier → Nat
  | .tutorial => 0
  | .basic => 1
  | .intermediate => 2
  | .advanced => 3
  | .expert => 4

def name : Tier → String
  | .tutorial => "tutorial"
  | .basic => "basic"
  | .intermediate => "intermediate"
  | .advanced => "advanced"
  | .expert => "expert"

instance : LE Tier := ⟨fun a b => a.rank ≤ b.rank⟩

instance : LT Tier := ⟨fun a b => a.rank < b.rank⟩

instance (a b : Tier) : Decidable (a ≤ b) := inferInstanceAs (Decidable (a.rank ≤ b.rank))

instance (a b : Tier) : Decidable (a < b) := inferInstanceAs (Decidable (a.rank < b.rank))

end Tier
end CodeReading
