import CodeReading.Config.Document
import CodeReading.Curriculum.Assembly
import CodeReading.Chain.Difficulty
import CodeReading.Graph.Depth

set_option autoImplicit false

namespace CodeReading

open Json

def ChoiceOption.toJson (option : ChoiceOption) : Json :=
  .record [("key", .text option.key), ("text", .text option.text)]

def optionsToJson (options : List ChoiceOption) : Json :=
  .arr (options.map ChoiceOption.toJson)

def TraceStep.toJson (step : TraceStep) : Json :=
  .record [
    ("function", .optional step.function),
    ("location", .text step.location),
    ("step", .nat step.step)]

def Blank.toJson (blank : Blank) : Json :=
  .record [
    ("index", .nat blank.index),
    ("kind", .text blank.kind.name),
    ("text", .text blank.text)]

namespace ChallengeSpec

def question : ChallengeSpec → Json
  | .multipleChoice spec => .record [
    ("code", .text spec.code),
    ("options", optionsToJson spec.options),
    ("prompt", .text spec.prompt),
    ("template", .text spec.template.name)]
  | .codeTracing spec => .record [
    ("code", .text spec.code),
    ("prompt", .text spec.prompt),
    ("steps", .arr (spec.steps.map TraceStep.toJson))]
  | .fillBlank spec => .record [
    ("blank_count", .nat spec.blanks.length),
    ("code", .text spec.code),
    ("function", .text spec.function),
    ("prompt", .text spec.prompt)]
  | .codeCompletion spec => .record [
    ("code", .text spec.code),
    ("function", .text spec.function),
    ("prompt", .text spec.prompt)]
  | .debugging spec => .record [
    ("code", .text spec.code),
    ("function", .text spec.function),
    ("prompt", .text spec.prompt)]
  | .architecture spec => .record [
    ("chain", .strings spec.chain),
    ("code", .text spec.code),
    ("options", optionsToJson spec.options),
    ("prompt", .text spec.prompt)]

def answer : ChallengeSpec → Json
  | .multipleChoice spec => .record [
    ("key", .text spec.answerKey),
    ("text", .text spec.answerText)]
  | .codeTracing spec => .record [("sequence", .strings spec.sequence)]
  | .fillBlank spec => .record [("blanks", .arr (spec.blanks.map Blank.toJson))]
  | .codeCompletion spec => .record [
    ("reference", .text spec.reference),
    ("required_calls", .strings spec.requiredCalls),
    ("returns", .optional spec.returns),
    ("rubric", .strings spec.rubric)]
  | .debugging spec => .record [
    ("buggy_line", .text spec.buggyLine),
    ("fixed_line", .text spec.fixedLine),
    ("line", .nat spec.line),
    ("mutation", .text spec.mutation.name)]
  | .architecture spec => .record [
    ("evidence", .strings spec.evidence),
    ("key", .text spec.answerKey),
    ("pattern", .text spec.pattern.name)]

end ChallengeSpec

def Challenge.toJson (withAnswer : Bool) (challenge : Challenge) : Json :=
  .record ([
      ("id", .text challenge.id),
      ("type", .text challenge.kind.name),
      ("question", challenge.spec.question)]
    ++ (if withAnswer then [("answer", challenge.spec.answer)] else [])
    ++ [("hints", .strings challenge.hints), ("points", .word challenge.points)])

def Level.toJson (withAnswers : Bool) (level : Level) : Json :=
  .record [
    ("id", .text level.id.name),
    ("name", .text level.name),
    ("description", .text level.description),
    ("difficulty", .text level.tier.name),
    ("entry_function", .text level.entryFunction),
    ("call_chain", .strings level.chain.ids),
    ("code_snippet", .text level.codeSnippet),
    ("challenges", .arr (level.challenges.map (Challenge.toJson withAnswers))),
    ("objectives", .strings level.objectives),
    ("xp_reward", .word level.xpReward),
    ("estimated_time", .word level.estimatedTime),
    ("prerequisites", .strings (level.prerequisites.map LevelId.name))]

def Gap.toJson (gap : Gap) : Json :=
  .record [
    ("challenge_type", .text gap.kind.name),
    ("entry", .text gap.entry),
    ("reason", .text gap.reason.message)]

def DroppedChain.toJson (dropped : DroppedChain) : Json :=
  .record [("chain", .strings dropped.chain.ids), ("reason", .text dropped.reason.message)]

def Curriculum.toJson (withAnswers : Bool) (curriculum : Curriculum) : Json :=
  .record [
    ("levels", .arr (curriculum.levels.map (Level.toJson withAnswers))),
    ("gaps", .arr (curriculum.gaps.map Gap.toJson)),
    ("dropped", .arr (curriculum.dropped.map DroppedChain.toJson))]

def Importance.toJson (score : Importance) : Json :=
  .record [
    ("entry_proximity", .float score.entryProximity),
    ("call_frequency", .float score.callFrequency),
    ("complexity", .float score.complexity),
    ("documentation", .float score.documentation),
    ("total", .float score.total)]

def DifficultyScore.toJson (score : DifficultyScore) : Json :=
  .record [
    ("length", .float score.length),
    ("complexity", .float score.complexity),
    ("abstraction", .float score.abstraction),
    ("dependencies", .float score.dependencies),
    ("total", .float score.total)]

def CallGraph.Stats.toJson (stats : CallGraph.Stats) : Json :=
  .record [
    ("nodes", .nat stats.nodes),
    ("edges", .nat stats.edges),
    ("entry_points", .nat stats.entryPoints),
    ("max_depth", .nat stats.maxDepth)]

def RankedChain.summary (rank : Nat) (tier : Tier) (ranked : RankedChain) : Json :=
  .record [
    ("rank", .nat rank),
    ("chain", .strings ranked.chain.ids),
    ("score", ranked.score.toJson),
    ("difficulty", .text tier.name)]

end CodeReading
