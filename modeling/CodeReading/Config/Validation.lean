import CodeReading.Config.Basic

set_option autoImplicit false

namespace CodeReading

inductive ConfigFault where
  | zeroLimit (field : String)
  | decayOutOfRange
  | termWeight (table signal : String)
  | termCap (table signal : String)
  | abstractionWeight (field : String)
  | bandNotFinite
  | bandsNotIncreasing
  | bandsListExpert
  | blankFractionOutOfRange
  | debuggingNotFinite
  | zeroPoints (kind : ChallengeKind)
  | zeroMinutes (kind : ChallengeKind)
  | zeroXp
  | xpDecreases (easier harder : Tier)
  deriving DecidableEq, Repr

def ConfigFault.message : ConfigFault → String
  | .zeroLimit field => field ++ " must be at least 1"
  | .decayOutOfRange => "ranking.proximity_decay must be in (0, 1]"
  | .termWeight table signal =>
    table ++ ": weight of " ++ signal ++ " must be a finite non-negative number"
  | .termCap table signal =>
    table ++ ": cap of " ++ signal ++ " must be a finite non-negative number"
  | .abstractionWeight field =>
    "difficulty.abstraction." ++ field ++ " must be a finite non-negative number"
  | .bandNotFinite => "difficulty.bands thresholds must be finite"
  | .bandsNotIncreasing => "difficulty.bands must be strictly increasing in threshold and tier"
  | .bandsListExpert =>
    "difficulty.bands must not list expert; it is the open-ended top tier"
  | .blankFractionOutOfRange => "challenges.max_blank_fraction must be in (0, 1]"
  | .debuggingNotFinite => "challenges.debugging_min_complexity must be finite"
  | .zeroPoints kind => "challenges.points." ++ kind.name ++ " must be positive"
  | .zeroMinutes kind => "rewards.minutes." ++ kind.name ++ " must be positive"
  | .zeroXp => "rewards.xp values must be positive"
  | .xpDecreases easier harder =>
    "rewards.xp." ++ harder.name ++ " must not be lower than rewards.xp." ++ easier.name

def faultIf (wrong : Bool) (fault : ConfigFault) : List ConfigFault :=
  if wrong then [fault] else []

def isWeight (x : Scalar) : Bool :=
  x.isFinite && !(x < 0.0)

def neighbours {α : Type} (xs : List α) : List (α × α) :=
  xs.zip xs.tail

namespace ScoreTerm

def faults {Signal : Type} (table : String) (title : Signal → String) (term : ScoreTerm Signal) :
    List ConfigFault :=
  faultIf (!isWeight term.weight) (.termWeight table (title term.signal))
    ++ faultIf (term.cap.any fun cap => !isWeight cap) (.termCap table (title term.signal))

end ScoreTerm

def RankingConfig.faults (config : RankingConfig) : List ConfigFault :=
  faultIf (!config.proximityDecay.isFinite || config.proximityDecay ≤ 0.0
    || 1.0 < config.proximityDecay) .decayOutOfRange
    ++ config.terms.flatMap (ScoreTerm.faults "ranking.terms" RankingSignal.title)

def AbstractionWeights.faults (weights : AbstractionWeights) : List ConfigFault :=
  faultIf (!isWeight weights.decorator) (.abstractionWeight "decorator")
    ++ faultIf (!isWeight weights.asyncFn) (.abstractionWeight "async_fn")
    ++ faultIf (!isWeight weights.generator) (.abstractionWeight "generator")

def bandFaults (bands : List DifficultyBand) : List ConfigFault :=
  faultIf (bands.any fun band => !band.below.isFinite) .bandNotFinite
    ++ faultIf ((neighbours bands).any fun (band, next) =>
      next.below ≤ band.below || next.tier ≤ band.tier) .bandsNotIncreasing
    ++ faultIf (bands.getLast?.any fun band => band.tier = .expert) .bandsListExpert

def DifficultyConfig.faults (config : DifficultyConfig) : List ConfigFault :=
  config.terms.flatMap (ScoreTerm.faults "difficulty.terms" DifficultySignal.title)
    ++ config.abstraction.faults ++ bandFaults config.bands

def ChallengeConfig.faults (config : ChallengeConfig) : List ConfigFault :=
  faultIf (!(0.0 < config.maxBlankFraction && config.maxBlankFraction ≤ 1.0))
      .blankFractionOutOfRange
    ++ faultIf (config.maxBlanks = 0) (.zeroLimit "challenges.max_blanks")
    ++ faultIf (!config.debuggingMinComplexity.isFinite) .debuggingNotFinite

def kindFaults (points minutes : KindTable UInt32) (kind : ChallengeKind) : List ConfigFault :=
  faultIf (points.get kind = 0) (.zeroPoints kind)
    ++ faultIf (minutes.get kind = 0) (.zeroMinutes kind)

def XpTable.faults (table : XpTable) : List ConfigFault :=
  faultIf (table.reward .tutorial = 0) .zeroXp
    ++ (neighbours Tier.all).flatMap fun (easier, harder) =>
      faultIf (table.reward harder < table.reward easier) (.xpDecreases easier harder)

namespace Config

def faults (config : Config) : List ConfigFault :=
  faultIf (config.maxLevels = 0) (.zeroLimit "max_levels")
    ++ faultIf (config.maxDepth = 0) (.zeroLimit "max_depth")
    ++ faultIf (config.maxCandidateChains = 0) (.zeroLimit "max_candidate_chains")
    ++ config.ranking.faults ++ config.difficulty.faults ++ config.challenges.faults
    ++ ChallengeKind.all.flatMap (kindFaults config.challenges.points config.rewards.minutes)
    ++ config.rewards.xp.faults

def validate (config : Config) : Except ConfigFault Unit :=
  match config.faults with
  | [] => .ok ()
  | fault :: _ => .error fault

theorem validate_eq_ok_iff (config : Config) : config.validate = .ok () ↔ config.faults = [] := by
  unfold validate
  split <;> simp_all

end Config
end CodeReading
