import CodeReading.Challenge.Hints
import CodeReading.Challenge.Options

set_option autoImplicit false

namespace CodeReading.MultipleChoice

def returnTypePool : List String :=
  ["None", "str", "int", "bool", "dict", "list[str]", "Optional[str]", "bytes"]

def purposePool : List String :=
  ["Parse command line arguments", "Serialize the result to JSON", "Open a database connection",
    "Render an HTML template", "Retry a failed network request"]

structure Fact where
  prompt : String
  correct : String
  distractors : List String
  hint : String

def lookalikes (name : String) : List String :=
  [name ++ "_impl", "_" ++ name, "handle_" ++ name]

def otherNodes (g : CallGraph) (entry : Node) : List Node :=
  g.nodes.filter fun node => node.id != entry.id

/-- A fact of the entry itself, with those of other nodes and a pool of common ones as its
    alternatives. -/
def pooledFact (g : CallGraph) (entry : Node) (field : Node → Option String) (pool : List String)
    (prompt hint : String) : Option Fact := do
  let correct ← field entry
  let others := (otherNodes g entry).filterMap field
  let distractors ← Options.distractors? correct (Options.shuffled entry.id others ++ pool)
  pure { prompt, correct, distractors, hint }

def returnTypeFact (g : CallGraph) (entry : Node) : Option Fact :=
  pooledFact g entry (·.returnType) returnTypePool
    ("What type does `" ++ entry.name ++ "` return?")
    "Check the annotation after `->` in the signature"

def parameterCountFact (entry : Node) : Option Fact :=
  match entry.parameters.length with
  | 0 => none
  | fewer + 1 => do
    let correct := (fewer + 1).repr
    let distractors ←
      Options.distractors? correct [fewer.repr, (fewer + 2).repr, (fewer + 3).repr]
    pure {
      prompt := "How many parameters does `" ++ entry.name ++ "` take?"
      correct
      distractors
      hint := "Count the names between the parentheses of the signature" }

def callTargetFact (g : CallGraph) (chain : Chain) (entry : Node) : Option Fact := do
  let target ← chain.second?.or entry.calls.ids.head?
  let correct := g.nodeName target
  let others := ((otherNodes g entry).filter fun node => node.id ∉ entry.calls).map (·.name)
  let distractors ←
    Options.distractors? correct (Options.shuffled entry.id others ++ lookalikes correct)
  pure {
    prompt := "Which function does `" ++ entry.name ++ "` call next on this execution path?"
    correct
    distractors
    hint := "Follow the first call in the body that stays on the path" }

def purposeFact (g : CallGraph) (entry : Node) : Option Fact :=
  pooledFact g entry Node.docSummary purposePool
    ("What is the purpose of `" ++ entry.name ++ "`?")
    "The first sentence of the docstring says it directly"

def fact? (g : CallGraph) (chain : Chain) (entry : Node) : QuestionTemplate → Option Fact
  | .returnType => returnTypeFact g entry
  | .parameterCount => parameterCountFact entry
  | .callTarget => callTargetFact g chain entry
  | .purpose => purposeFact g entry

def templates (entry : Node) : List QuestionTemplate :=
  Text.rotated (Text.fingerprint [entry.id]) QuestionTemplate.all

/-- The first template that has a fact about the entry, with the fact. -/
def question? (g : CallGraph) (chain : Chain) (entry : Node) : Option (QuestionTemplate × Fact) :=
  (templates entry).findSome? fun template => (fact? g chain entry template).map (template, ·)

def spec (m : Material) (entry : Node) (template : QuestionTemplate) (fact : Fact) :
    MultipleChoiceSpec :=
  let seed := Text.fingerprint [entry.id, template.name]
  let (options, answerKey) := Options.arrange fact.correct fact.distractors seed
  { template
    prompt := fact.prompt
    code := m.text entry
    options
    answerKey
    answerText := fact.correct }

def generate (m : Material) (chain : Chain) : Except GapReason Challenge := do
  let entry ← orGap .unknownEntry (m.graph.node? chain.entry)
  let (template, fact) ← orGap .nothingToAsk (question? m.graph chain entry)
  pure (m.challenge chain (.multipleChoice (spec m entry template fact))
    (Hints.ladder entry [fact.hint]))

end CodeReading.MultipleChoice
