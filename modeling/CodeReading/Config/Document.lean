import CodeReading.Config.Validation
import CodeReading.Decimal.Shortest
import CodeReading.Json.Basic
import CodeReading.Toml.Parser

set_option autoImplicit false

namespace CodeReading

namespace Toml

abbrev Decoder (α : Type) := Value → Option α

def asBool : Decoder Bool
  | .bool value => some value
  | _ => none

def asNatBelow (bound : Nat) : Decoder Nat
  | .int value => if 0 ≤ value ∧ value < bound then some value.toNat else none
  | _ => none

def asUInt32 : Decoder UInt32 :=
  fun value => (asNatBelow UInt32.size value).map UInt32.ofNat

def asUInt64 : Decoder UInt64 :=
  fun value => (asNatBelow UInt64.size value).map UInt64.ofNat

/-- A float, or the nearest one to an integer. -/
def asFloat : Decoder Scalar
  | .float value => some value
  | .int value => some (.number (Float.ofInt value))
  | _ => none

def asList {α : Type} (decode : Decoder α) : Decoder (List α)
  | .arr items => items.mapM decode
  | .tables items => items.mapM decode
  | _ => none

def isEmpty : Value → Bool
  | .table _ [] => true
  | .arr [] => true
  | _ => false

/-- A choice by name, alone or as the only key of a table, with nothing in it. -/
def asChoice {α : Type} (all : List α) (name : α → String) : Decoder α
  | .str text => all.find? (name · == text)
  | .table _ [(text, value)] => if isEmpty value then all.find? (name · == text) else none
  | _ => none

/-- The fields of a record: the keys of a table, or the items of an array in their order. A date
    counts as a table without any of the fields. -/
def asRecord (fields : List String) : Decoder Entries
  | .table _ entries => some entries
  | .datetime => some []
  | .arr items => some (fields.zip items)
  | .tables items => some (fields.zip items)
  | _ => none

def required {α : Type} (decode : Decoder α) (field : String) (record : Entries) : Option α :=
  (record.lookup field).bind decode

def defaulted {α : Type} (absent : α) (decode : Decoder α) (field : String) (record : Entries) :
    Option α :=
  match record.lookup field with
  | some value => decode value
  | none => some absent

end Toml

open Toml

def ScoreTerm.ofToml {Signal : Type} (signal : Decoder Signal) : Decoder (ScoreTerm Signal) :=
  fun value => do
    let record ← asRecord ["signal", "weight", "cap"] value
    pure {
      signal := ← required signal "signal" record
      weight := ← required asFloat "weight" record
      cap := ← defaulted none (fun value => (asFloat value).map some) "cap" record }

def RankingConfig.ofToml : Decoder RankingConfig := fun value => do
  let absent : RankingConfig := {}
  let record ← asRecord ["terms", "proximity_decay"] value
  let term := ScoreTerm.ofToml (asChoice RankingSignal.all RankingSignal.name)
  pure {
    terms := ← defaulted absent.terms (asList term) "terms" record
    proximityDecay := ← defaulted absent.proximityDecay asFloat "proximity_decay" record }

def AbstractionWeights.ofToml : Decoder AbstractionWeights := fun value => do
  let absent : AbstractionWeights := {}
  let record ← asRecord ["decorator", "async_fn", "generator"] value
  pure {
    decorator := ← defaulted absent.decorator asFloat "decorator" record
    asyncFn := ← defaulted absent.asyncFn asFloat "async_fn" record
    generator := ← defaulted absent.generator asFloat "generator" record }

def DifficultyBand.ofToml : Decoder DifficultyBand := fun value => do
  let record ← asRecord ["below", "tier"] value
  pure {
    below := ← required asFloat "below" record
    tier := ← required (asChoice Tier.all Tier.name) "tier" record }

def DifficultyConfig.ofToml : Decoder DifficultyConfig := fun value => do
  let absent : DifficultyConfig := {}
  let record ← asRecord ["terms", "abstraction", "bands"] value
  let term := ScoreTerm.ofToml (asChoice DifficultySignal.all DifficultySignal.name)
  pure {
    terms := ← defaulted absent.terms (asList term) "terms" record
    abstraction := ← defaulted absent.abstraction AbstractionWeights.ofToml "abstraction" record
    bands := ← defaulted absent.bands (asList DifficultyBand.ofToml) "bands" record }

def KindTable.ofToml : Decoder (KindTable UInt32) := fun value => do
  let record ← asRecord (ChallengeKind.all.map ChallengeKind.name) value
  let field (kind : ChallengeKind) := required asUInt32 kind.name record
  pure {
    multipleChoice := ← field .multipleChoice
    codeTracing := ← field .codeTracing
    fillBlank := ← field .fillBlank
    codeCompletion := ← field .codeCompletion
    debugging := ← field .debugging
    architecture := ← field .architecture }

def ChallengeConfig.ofToml : Decoder ChallengeConfig := fun value => do
  let absent : ChallengeConfig := {}
  let record ← asRecord ["tracing_min_chain_len", "debugging_min_complexity", "high_complexity",
    "max_blank_fraction", "max_blanks", "points"] value
  pure {
    tracingMinChainLen :=
      ← defaulted absent.tracingMinChainLen asUInt64 "tracing_min_chain_len" record
    debuggingMinComplexity :=
      ← defaulted absent.debuggingMinComplexity asFloat "debugging_min_complexity" record
    highComplexity := ← defaulted absent.highComplexity asUInt32 "high_complexity" record
    maxBlankFraction := ← defaulted absent.maxBlankFraction asFloat "max_blank_fraction" record
    maxBlanks := ← defaulted absent.maxBlanks asUInt64 "max_blanks" record
    points := ← defaulted absent.points KindTable.ofToml "points" record }

def XpTable.ofToml : Decoder XpTable := fun value => do
  let absent : XpTable := {}
  let record ← asRecord (Tier.all.map Tier.name) value
  let field (tier : Tier) := defaulted (absent.reward tier) asUInt32 tier.name record
  pure {
    tutorial := ← field .tutorial
    basic := ← field .basic
    intermediate := ← field .intermediate
    advanced := ← field .advanced
    expert := ← field .expert }

def RewardConfig.ofToml : Decoder RewardConfig := fun value => do
  let absent : RewardConfig := {}
  let record ← asRecord ["xp", "minutes"] value
  pure {
    xp := ← defaulted absent.xp XpTable.ofToml "xp" record
    minutes := ← defaulted absent.minutes KindTable.ofToml "minutes" record }

def Config.ofToml (record : Entries) : Option Config := do
  let absent : Config := {}
  pure {
    maxLevels := ← defaulted absent.maxLevels asUInt64 "max_levels" record
    maxDepth := ← defaulted absent.maxDepth asUInt64 "max_depth" record
    maxCandidateChains :=
      ← defaulted absent.maxCandidateChains asUInt64 "max_candidate_chains" record
    requireEntryPoints := ← defaulted absent.requireEntryPoints asBool "require_entry_points" record
    ranking := ← defaulted absent.ranking RankingConfig.ofToml "ranking" record
    difficulty := ← defaulted absent.difficulty DifficultyConfig.ofToml "difficulty" record
    challenges := ← defaulted absent.challenges ChallengeConfig.ofToml "challenges" record
    rewards := ← defaulted absent.rewards RewardConfig.ofToml "rewards" record }

def Config.parse (text : String) : Option Config :=
  (Toml.parse text).bind Config.ofToml

/-- A number in its shortest form; what is not finite is null. -/
def Json.float (x : Scalar) : Json :=
  (Numeral.ofFloat? x.toFloat).elim .null .num

def Json.word (n : UInt32) : Json :=
  .nat n.toNat

def Json.longWord (n : UInt64) : Json :=
  .nat n.toNat

def ScoreTerm.toJson {Signal : Type} (name : Signal → String) (term : ScoreTerm Signal) : Json :=
  .record [
    ("signal", .text (name term.signal)),
    ("weight", .float term.weight),
    ("cap", term.cap.elim .null .float)]

def RankingConfig.toJson (config : RankingConfig) : Json :=
  .record [
    ("terms", .arr (config.terms.map (ScoreTerm.toJson RankingSignal.name))),
    ("proximity_decay", .float config.proximityDecay)]

def AbstractionWeights.toJson (weights : AbstractionWeights) : Json :=
  .record [
    ("decorator", .float weights.decorator),
    ("async_fn", .float weights.asyncFn),
    ("generator", .float weights.generator)]

def DifficultyBand.toJson (band : DifficultyBand) : Json :=
  .record [("below", .float band.below), ("tier", .text band.tier.name)]

def DifficultyConfig.toJson (config : DifficultyConfig) : Json :=
  .record [
    ("terms", .arr (config.terms.map (ScoreTerm.toJson DifficultySignal.name))),
    ("abstraction", config.abstraction.toJson),
    ("bands", .arr (config.bands.map DifficultyBand.toJson))]

def KindTable.toJson (table : KindTable UInt32) : Json :=
  .record (ChallengeKind.all.map fun kind => (kind.name, .word (table.get kind)))

def ChallengeConfig.toJson (config : ChallengeConfig) : Json :=
  .record [
    ("tracing_min_chain_len", .longWord config.tracingMinChainLen),
    ("debugging_min_complexity", .float config.debuggingMinComplexity),
    ("high_complexity", .word config.highComplexity),
    ("max_blank_fraction", .float config.maxBlankFraction),
    ("max_blanks", .longWord config.maxBlanks),
    ("points", config.points.toJson)]

def XpTable.toJson (table : XpTable) : Json :=
  .record (Tier.all.map fun tier => (tier.name, .word (table.reward tier)))

def RewardConfig.toJson (config : RewardConfig) : Json :=
  .record [("xp", config.xp.toJson), ("minutes", config.minutes.toJson)]

def Config.toJson (config : Config) : Json :=
  .record [
    ("max_levels", .longWord config.maxLevels),
    ("max_depth", .longWord config.maxDepth),
    ("max_candidate_chains", .longWord config.maxCandidateChains),
    ("require_entry_points", .bool config.requireEntryPoints),
    ("ranking", config.ranking.toJson),
    ("difficulty", config.difficulty.toJson),
    ("challenges", config.challenges.toJson),
    ("rewards", config.rewards.toJson)]

end CodeReading
