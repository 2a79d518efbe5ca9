import CodeReading.Challenge.Basic
import CodeReading.Challenge.Hints

set_option autoImplicit false

namespace CodeReading.CodeCompletion

def placeholder : String := "    ...  # complete the body"

def target? (nodes : List Node) : Option Node :=
  (nodes.find? fun node => !node.calls.isEmpty).or (nodes.find? fun node => node.returnType.isSome)

def headerStarts : List String := ["def ", "async def ", "class "]

def startsHeader (line : String) : Bool :=
  headerStarts.any fun start => start.toList.isPrefixOf line.toList

def startsDocstring (line : String) : Bool :=
  ['"', '"', '"'].isPrefixOf (Text.trimStart line.toList)

/-- Lines up to the header, and the line after it if a docstring starts there. -/
def headLines : List String → List String
  | [] => []
  | line :: lines =>
    if startsHeader line then line :: (lines.take 1).filter startsDocstring
    else line :: headLines lines

/-- The head of the skeleton of a node, and a placeholder for its body. -/
def stub (g : CallGraph) (node : Node) : String :=
  "\n".intercalate (headLines (Text.lines (node.skeleton g)) ++ [placeholder])

def rubric (node : Node) (requiredCalls : List String) : List String :=
  requiredCalls.map ("Calls " ++ ·)
    ++ (if node.isAsync then ["Awaits its asynchronous calls"] else [])
    ++ (if node.isGenerator then ["Yields values instead of returning once"] else [])
    ++ (node.returnType.map ("Returns a value of type " ++ ·)).toList

def structureHint (node : Node) (requiredCalls : List String) : String :=
  let calls := "The body makes " ++ requiredCalls.length.repr ++ " call(s)"
  match requiredCalls, node.returnType with
  | [], some returns => "The body returns a " ++ returns
  | _, some returns => calls ++ " and returns a " ++ returns
  | _, none => calls ++ ": " ++ ", ".intercalate requiredCalls

def spec (m : Material) (node : Node) : CodeCompletionSpec :=
  let requiredCalls := m.calleeNames node
  { prompt := "Complete the body of `" ++ node.name ++ "`"
    function := node.name
    code := stub m.graph node
    requiredCalls
    returns := node.returnType
    rubric := rubric node requiredCalls
    reference := m.text node }

def generate (m : Material) (chain : Chain) : Except GapReason Challenge := do
  let node ← orGap .nothingToGrade (target? (m.nodes chain))
  pure (m.challenge chain (.codeCompletion (spec m node))
    (Hints.ladder node [structureHint node (m.calleeNames node)]))

end CodeReading.CodeCompletion
