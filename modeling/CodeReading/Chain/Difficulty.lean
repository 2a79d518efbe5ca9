import CodeReading.Chain.Measure
import CodeReading.Config.Basic

set_option autoImplicit false

namespace CodeReading

structure DifficultyScore where
  length : Scalar := 0.0
  complexity : Scalar := 0.0
  abstraction : Scalar := 0.0
  dependencies : Scalar := 0.0
  total : Scalar := 0.0

namespace DifficultyScore

def add (score : DifficultyScore) (signal : DifficultySignal) (value : Scalar) : DifficultyScore :=
  let score := { score with total := score.total + value }
  match signal with
  | .length => { score with length := score.length + value }
  | .complexity => { score with complexity := score.complexity + value }
  | .abstraction => { score with abstraction := score.abstraction + value }
  | .dependencies => { score with dependencies := score.dependencies + value }

end DifficultyScore

def AbstractionWeights.units (weights : AbstractionWeights) (node : Node) : Scalar :=
  let units := Scalar.ofNat node.decorators.length * weights.decorator
  let units := if node.isAsync then units + weights.asyncFn else units
  if node.isGenerator then units + weights.generator else units

def DifficultySignal.raw (signal : DifficultySignal) (weights : AbstractionWeights) (g : CallGraph)
    (chain : Chain) : Scalar :=
  let nodes := g.chainNodes chain
  match signal with
  | .length => Scalar.ofNat chain.length
  | .complexity => meanComplexity nodes.length nodes
  | .abstraction => Measure.sum (nodes.map weights.units)
  | .dependencies => Scalar.ofNat (Measure.total (nodes.map fun node => node.dependsOn.size))

namespace DifficultyConfig

def score (config : DifficultyConfig) (g : CallGraph) (chain : Chain) : DifficultyScore :=
  config.terms.foldl
    (fun score term =>
      score.add term.signal (term.apply (term.signal.raw config.abstraction g chain)))
    {}

/-- Tier of the first band above a score. -/
def tier (config : DifficultyConfig) (total : Scalar) : Tier :=
  match config.bands.find? fun band => total < band.below with
  | some band => band.tier
  | none => .expert

def classify (config : DifficultyConfig) (g : CallGraph) (chain : Chain) : Tier :=
  config.tier (config.score g chain).total

end DifficultyConfig
end CodeReading
