import CodeReading.Chain.Measure
import CodeReading.Config.Basic

set_option autoImplicit false

namespace CodeReading

def maxChallenges : Nat := 5

def minChallenges : Nat := 3

namespace ChallengeConfig

/-- Kinds of challenges with the condition on which each is selected. -/
def rules (config : ChallengeConfig) (g : CallGraph) (chain : Chain) (tier : Tier) :
    List (ChallengeKind × Bool) :=
  let nodes := g.chainNodes chain
  [(.multipleChoice, true),
    (.codeTracing, config.tracingMinChainLen.toNat ≤ chain.length),
    (.fillBlank, (nodes.any fun node => !node.decorators.isEmpty) || Tier.intermediate ≤ tier),
    (.codeCompletion, Tier.intermediate ≤ tier),
    (.debugging, config.debuggingMinComplexity < meanComplexity chain.length nodes),
    (.architecture, Tier.advanced ≤ tier)]

def select (config : ChallengeConfig) (g : CallGraph) (chain : Chain) (tier : Tier) :
    List ChallengeKind :=
  (((config.rules g chain tier).filter (·.2)).map (·.1)).take maxChallenges

end ChallengeConfig

namespace ChallengeKind

def fallbackOrder : List ChallengeKind :=
  [.fillBlank, .codeCompletion, .debugging, .architecture, .codeTracing]

def fallbacks (selected : List ChallengeKind) : List ChallengeKind :=
  fallbackOrder.filter fun kind => kind ∉ selected

end ChallengeKind
end CodeReading
