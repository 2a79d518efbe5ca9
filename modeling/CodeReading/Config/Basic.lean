import CodeReading.Challenge.Kind
import CodeReading.Scalar
import CodeReading.Tier

set_option autoImplicit false

namespace CodeReading

structure ScoreTerm (Signal : Type) where
  signal : Signal
  weight : Scalar
  cap : Option Scalar := none

def ScoreTerm.apply {Signal : Type} (term : ScoreTerm Signal) (raw : Scalar) : Scalar :=
  let value := raw * term.weight
  match term.cap with
  | some cap => value.lesser cap
  | none => value

inductive RankingSignal where
  | entryProximity
  | callFrequency
  | complexity
  | documentation
  deriving DecidableEq, Repr

namespace RankingSignal

def all : List RankingSignal := [.entryProximity, .callFrequency, .complexity, .documentation]

def name : RankingSignal → String
  | .entryProximity => "entry_proximity"
  | .callFrequency => "call_frequency"
  | .complexity => "complexity"
  | .documentation => "documentation"

def title : RankingSignal → String
  | .entryProximity => "EntryProximity"
  | .callFrequency => "CallFrequency"
  | .complexity => "Complexity"
  | .documentation => "Documentation"

end RankingSignal

inductive DifficultySignal where
  | length
  | complexity
  | abstraction
  | dependencies
  deriving DecidableEq, Repr

namespace DifficultySignal

def all : List DifficultySignal := [.length, .complexity, .abstraction, .dependencies]

def name : DifficultySignal → String
  | .length => "length"
  | .complexity => "complexity"
  | .abstraction => "abstraction"
  | .dependencies => "dependencies"

def title : DifficultySignal → String
  | .length => "Length"
  | .complexity => "Complexity"
  | .abstraction => "Abstraction"
  | .dependencies => "Dependencies"

end DifficultySignal

structure RankingConfig where
  terms : List (ScoreTerm RankingSignal) :=
    [⟨.entryProximity, 40.0, none⟩, ⟨.callFrequency, 5.0, some 30.0⟩,
      ⟨.complexity, 1.0, some 20.0⟩, ⟨.documentation, 10.0, some 10.0⟩]
  proximityDecay : Scalar := 0.7

structure AbstractionWeights where
  decorator : Scalar := 3.0
  asyncFn : Scalar := 5.0
  generator : Scalar := 5.0

/-- Scores below the bound belong to the tier. -/
structure DifficultyBand where
  below : Scalar
  tier : Tier

structure DifficultyConfig where
  terms : List (ScoreTerm DifficultySignal) :=
    [⟨.length, 4.0, some 20.0⟩, ⟨.complexity, 2.0, some 30.0⟩,
      ⟨.abstraction, 1.0, some 25.0⟩, ⟨.dependencies, 2.0, some 25.0⟩]
  abstraction : AbstractionWeights := {}
  bands : List DifficultyBand :=
    [⟨20.0, .tutorial⟩, ⟨40.0, .basic⟩, ⟨60.0, .intermediate⟩, ⟨80.0, .advanced⟩]

structure ChallengeConfig where
  tracingMinChainLen : UInt64 := 3
  debuggingMinComplexity : Scalar := 10.0
  highComplexity : UInt32 := 10
  /-- Greatest share of the words of a text that are blanked. -/
  maxBlankFraction : Scalar := 0.3
  maxBlanks : UInt64 := 5
  points : KindTable UInt32 := ⟨10, 15, 12, 20, 15, 25⟩

structure XpTable where
  tutorial : UInt32 := 50
  basic : UInt32 := 100
  intermediate : UInt32 := 150
  advanced : UInt32 := 200
  expert : UInt32 := 300

def XpTable.reward (table : XpTable) : Tier → UInt32
  | .tutorial => table.tutorial
  | .basic => table.basic
  | .intermediate => table.intermediate
  | .advanced => table.advanced
  | .expert => table.expert

structure RewardConfig where
  xp : XpTable := {}
  minutes : KindTable UInt32 := ⟨2, 4, 3, 6, 5, 5⟩

structure Config where
  maxLevels : UInt64 := 10
  maxDepth : UInt64 := 5
  maxCandidateChains : UInt64 := 10000
  /-- Fail when there are no entry points, instead of giving no levels. -/
  requireEntryPoints : Bool := false
  ranking : RankingConfig := {}
  difficulty : DifficultyConfig := {}
  challenges : ChallengeConfig := {}
  rewards : RewardConfig := {}

end CodeReading
