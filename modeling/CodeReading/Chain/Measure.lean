import CodeReading.Chain.Basic
import CodeReading.Graph.CallGraph
import CodeReading.Scalar

set_option autoImplicit false

namespace CodeReading

namespace Measure

def total : List Nat → Nat
  | [] => 0
  | n :: ns => n + total ns

theorem total_append (ms ns : List Nat) : total (ms ++ ns) = total ms + total ns := by
  induction ms with
  | nil => exact (Nat.zero_add _).symm
  | cons m ms ih => simp only [List.cons_append, total, ih, Nat.add_assoc]

/-- Sum from left to right. -/
def sum (xs : List Scalar) : Scalar :=
  xs.foldl (· + ·) 0.0

/-- Mean over `count` values, those that are missing counting as zero. -/
def mean (count : Nat) (xs : List Scalar) : Scalar :=
  if count = 0 then 0.0 else sum xs / Scalar.ofNat count

def timesPower (r x : Scalar) (n : Nat) : Scalar :=
  let r := if n % 2 = 1 then r * x else r
  if _h : n / 2 = 0 then r else timesPower r (x * x) (n / 2)
termination_by n
decreasing_by omega

def power (x : Scalar) (n : Nat) : Scalar :=
  timesPower 1.0 x n

end Measure

def CallGraph.chainNodes (g : CallGraph) (chain : Chain) : List Node :=
  g.known chain.ids

def meanComplexity (count : Nat) (nodes : List Node) : Scalar :=
  Measure.mean count (nodes.map fun node => Scalar.number node.complexity.toFloat)

end CodeReading
