import CodeReading.Chain.Enumeration
import CodeReading.Chain.Measure
import CodeReading.Config.Basic

set_option autoImplicit false

namespace CodeReading

structure Importance where
  entryProximity : Scalar := 0.0
  callFrequency : Scalar := 0.0
  complexity : Scalar := 0.0
  documentation : Scalar := 0.0
  total : Scalar := 0.0

namespace Importance

def add (score : Importance) (signal : RankingSignal) (value : Scalar) : Importance :=
  let score := { score with total := score.total + value }
  match signal with
  | .entryProximity => { score with entryProximity := score.entryProximity + value }
  | .callFrequency => { score with callFrequency := score.callFrequency + value }
  | .complexity => { score with complexity := score.complexity + value }
  | .documentation => { score with documentation := score.documentation + value }

end Importance

def RankingSignal.raw (signal : RankingSignal) (decay : Scalar) (g : CallGraph) (chain : Chain) :
    Scalar :=
  let nodes := g.chainNodes chain
  match signal with
  | .entryProximity => Measure.sum ((List.range chain.length).map (Measure.power decay))
  | .callFrequency =>
    Measure.mean chain.length (nodes.map fun node => Scalar.ofNat (g.callers node.id).length)
  | .complexity => meanComplexity chain.length nodes
  | .documentation =>
    Measure.mean chain.length (nodes.map fun node => if node.isDocumented then 1.0 else 0.0)

def RankingConfig.importance (config : RankingConfig) (g : CallGraph) (chain : Chain) :
    Importance :=
  config.terms.foldl
    (fun score term =>
      score.add term.signal (term.apply (term.signal.raw config.proximityDecay g chain)))
    {}

structure RankedChain where
  chain : Chain
  score : Importance

namespace RankedChain

def precedes (a b : RankedChain) : Bool :=
  let keyA := a.score.total.orderKey
  let keyB := b.score.total.orderKey
  keyB < keyA
    || (keyA == keyB && (a.chain.length < b.chain.length
      || (a.chain.length == b.chain.length && a.chain.ids < b.chain.ids)))

end RankedChain

/-- The best `maxChains` of the enumerated chains, best first. -/
def RankingConfig.rank (config : RankingConfig) (g : CallGraph)
    (maxDepth maxCandidates maxChains : Nat) : List RankedChain :=
  (((g.enumerate maxDepth maxCandidates).map fun chain =>
    { chain, score := config.importance g chain : RankedChain }).mergeSort
      fun a b => !b.precedes a).take maxChains

end CodeReading
