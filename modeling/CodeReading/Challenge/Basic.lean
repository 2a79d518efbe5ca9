import CodeReading.Chain.Measure
import CodeReading.Config.Basic
import CodeReading.Graph.Source

set_option autoImplicit false

namespace CodeReading

structure ChoiceOption where
  key : String
  text : String
  deriving DecidableEq, Repr

inductive QuestionTemplate where
  | returnType
  | parameterCount
  | callTarget
  | purpose
  deriving DecidableEq, Repr

namespace QuestionTemplate

def all : List QuestionTemplate := [.returnType, .parameterCount, .callTarget, .purpose]

def name : QuestionTemplate → String
  | .returnType => "return_type"
  | .parameterCount => "parameter_count"
  | .callTarget => "call_target"
  | .purpose => "purpose"

end QuestionTemplate

structure MultipleChoiceSpec where
  template : QuestionTemplate
  prompt : String
  code : String
  options : List ChoiceOption
  answerKey : String
  answerText : String
  deriving DecidableEq, Repr

/-- One step of a traced chain; the function is hidden unless it is given away. -/
structure TraceStep where
  step : Nat
  function : Option String
  location : String
  deriving DecidableEq, Repr

structure CodeTracingSpec where
  prompt : String
  code : String
  steps : List TraceStep
  sequence : List String
  deriving DecidableEq, Repr

inductive BlankKind where
  | decorator
  | returnValue
  | keyword
  | callTarget
  deriving DecidableEq, Repr

namespace BlankKind

def priority : BlankKind → Nat
  | .decorator => 0
  | .returnValue => 1
  | .keyword => 2
  | .callTarget => 3

def name : BlankKind → String
  | .decorator => "decorator"
  | .returnValue => "return_value"
  | .keyword => "keyword"
  | .callTarget => "call_target"

def label : BlankKind → String
  | .decorator => "a decorator name"
  | .returnValue => "the return value"
  | .keyword => "a control keyword"
  | .callTarget => "a called function"

end BlankKind

structure Blank where
  index : Nat
  text : String
  kind : BlankKind
  deriving DecidableEq, Repr

structure FillBlankSpec where
  prompt : String
  function : String
  code : String
  blanks : List Blank
  deriving DecidableEq, Repr

structure CodeCompletionSpec where
  prompt : String
  function : String
  code : String
  requiredCalls : List String
  returns : Option String
  rubric : List String
  reference : String
  deriving DecidableEq, Repr

inductive Mutation where
  | flipComparison
  | swapCall
  | dropAwait
  | returnNone
  | flipBoolean
  | skipCall
  deriving DecidableEq, Repr

namespace Mutation

def all : List Mutation :=
  [.flipComparison, .swapCall, .dropAwait, .returnNone, .flipBoolean, .skipCall]

def name : Mutation → String
  | .flipComparison => "flip_comparison"
  | .swapCall => "swap_call"
  | .dropAwait => "drop_await"
  | .returnNone => "return_none"
  | .flipBoolean => "flip_boolean"
  | .skipCall => "skip_call"

def description : Mutation → String
  | .flipComparison => "an inverted comparison"
  | .swapCall => "a call to the wrong function"
  | .dropAwait => "a missing await"
  | .returnNone => "a discarded return value"
  | .flipBoolean => "a flipped boolean literal"
  | .skipCall => "a call that never happens"

end Mutation

structure DebuggingSpec where
  prompt : String
  function : String
  code : String
  /-- Number of the wrong line, from one. -/
  line : Nat
  buggyLine : String
  fixedLine : String
  mutation : Mutation
  deriving DecidableEq, Repr

inductive DesignPattern where
  | recursion
  | decorator
  | facade
  | factory
  | iterator
  | coroutineChain
  | pipeline
  | delegation
  | observer
  | singleton
  deriving DecidableEq, Repr

namespace DesignPattern

def all : List DesignPattern :=
  [.recursion, .decorator, .facade, .factory, .iterator, .coroutineChain, .pipeline, .delegation,
    .observer, .singleton]

def name : DesignPattern → String
  | .recursion => "recursion"
  | .decorator => "decorator"
  | .facade => "facade"
  | .factory => "factory"
  | .iterator => "iterator"
  | .coroutineChain => "coroutine_chain"
  | .pipeline => "pipeline"
  | .delegation => "delegation"
  | .observer => "observer"
  | .singleton => "singleton"

def label : DesignPattern → String
  | .recursion => "Recursion: the path calls back into itself"
  | .decorator => "Decorator: behaviour is wrapped around functions"
  | .facade => "Facade: one entry point fans out to several subsystems"
  | .factory => "Factory: a function builds and returns new objects"
  | .iterator => "Iterator: values are produced lazily with yield"
  | .coroutineChain => "Coroutine chain: async functions await each other"
  | .pipeline => "Pipeline: each step hands its result to the next"
  | .delegation => "Delegation: the entry forwards the work to a helper"
  | .observer => "Observer: listeners are notified of state changes"
  | .singleton => "Singleton: a single shared instance is reused"

end DesignPattern

structure ArchitectureSpec where
  prompt : String
  chain : List String
  code : String
  options : List ChoiceOption
  answerKey : String
  pattern : DesignPattern
  evidence : List String
  deriving DecidableEq, Repr

inductive ChallengeSpec where
  | multipleChoice (spec : MultipleChoiceSpec)
  | codeTracing (spec : CodeTracingSpec)
  | fillBlank (spec : FillBlankSpec)
  | codeCompletion (spec : CodeCompletionSpec)
  | debugging (spec : DebuggingSpec)
  | architecture (spec : ArchitectureSpec)
  deriving DecidableEq, Repr

def ChallengeSpec.kind : ChallengeSpec → ChallengeKind
  | .multipleChoice _ => .multipleChoice
  | .codeTracing _ => .codeTracing
  | .fillBlank _ => .fillBlank
  | .codeCompletion _ => .codeCompletion
  | .debugging _ => .debugging
  | .architecture _ => .architecture

structure Challenge where
  id : String
  spec : ChallengeSpec
  /-- The vaguest hint comes first. -/
  hints : List String
  points : UInt32
  deriving DecidableEq, Repr

def Challenge.kind (challenge : Challenge) : ChallengeKind :=
  challenge.spec.kind

inductive GapReason where
  | unknownEntry
  | nothingToAsk
  | unknownNodes
  | nothingToBlank
  | nothingToGrade
  | noKnownNodes
  | noMutableLine (function : String)
  | tooFewNodes
  | noPattern
  deriving DecidableEq, Repr

def GapReason.message : GapReason → String
  | .unknownEntry => "entry node is not in the graph"
  | .nothingToAsk => "entry has no parameters, return type, calls or docstring"
  | .unknownNodes => "chain references unknown nodes"
  | .nothingToBlank => "no node has enough tokens to blank"
  | .nothingToGrade => "no node has calls or a return type to grade against"
  | .noKnownNodes => "chain has no known nodes"
  | .noMutableLine function => "no mutable line in " ++ function
  | .tooFewNodes => "architecture needs a path of at least two known nodes"
  | .noPattern => "no pattern detected"

def orGap {α : Type} (reason : GapReason) : Option α → Except GapReason α
  | some found => .ok found
  | none => .error reason

theorem orGap_eq_ok_iff {α : Type} {reason : GapReason} {found? : Option α} {found : α} :
    orGap reason found? = .ok found ↔ found? = some found := by
  cases found? <;> simp [orGap]

theorem orGap_eq_error_iff {α : Type} {reason gap : GapReason} {found? : Option α} :
    orGap reason found? = .error gap ↔ gap = reason ∧ found? = none := by
  cases found? <;> simp [orGap, eq_comm]

structure Gap where
  kind : ChallengeKind
  entry : NodeId
  reason : GapReason
  deriving DecidableEq, Repr

def Gap.message (gap : Gap) : String :=
  "cannot generate " ++ gap.kind.name ++ " challenge for chain at " ++ gap.entry ++ ": "
    ++ gap.reason.message

structure Material where
  graph : CallGraph
  source : SourceLookup
  config : ChallengeConfig

namespace Material

def nodes (m : Material) (chain : Chain) : List Node :=
  m.graph.chainNodes chain

def text (m : Material) (node : Node) : String :=
  node.text m.graph m.source

def texts (m : Material) (nodes : List Node) : String :=
  "\n\n".intercalate (nodes.map m.text)

def calleeNames (m : Material) (node : Node) : List String :=
  node.calls.ids.map m.graph.nodeName

def challenge (m : Material) (chain : Chain) (spec : ChallengeSpec) (hints : List String) :
    Challenge :=
  { id := spec.kind.idPrefix ++ "_" ++ chain.entry
    spec
    hints
    points := m.config.points.get spec.kind }

end Material
end CodeReading
