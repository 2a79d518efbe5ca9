import CodeReading.Challenge.Basic
import CodeReading.Challenge.Hints
import CodeReading.Text.Alphanumeric
import CodeReading.Text.Fingerprint
import CodeReading.Text.Search

set_option autoImplicit false

namespace CodeReading.Debugging

/-- Comparisons and what takes their place, in the order in which they are looked for. -/
def comparisonFlips : List (String × String) :=
  [(" is not ", " is "), (" is ", " is not "), (" == ", " != "), (" != ", " == "),
    (" <= ", " > "), (" >= ", " < "), (" < ", " >= "), (" > ", " <= ")]

def startsWord (line : List Char) (position : Nat) : Bool :=
  !((line.take position).getLast?.any Text.isIdentifierChar)

def endsWord (line : List Char) (position : Nat) : Bool :=
  !((line.drop position).head?.any Text.isIdentifierChar)

def callOf? (line name : List Char) : Option Nat :=
  (Text.occurrences name line).find? fun position =>
    startsWord line position && (line.drop (position + name.length)).head? == some '('

def earlier (a b : Nat × List Char) : Nat × List Char :=
  if b.1 < a.1 then b else a

/-- The leftmost call of one of the given names, with the name. -/
def findCall? (line : List Char) (names : List (List Char)) : Option (Nat × List Char) :=
  match names.filterMap fun name => (callOf? line name).map (·, name) with
  | [] => none
  | call :: calls => some (calls.foldl earlier call)

def replaceWord? (word replacement line : List Char) : Option (List Char) :=
  ((Text.occurrences word line).find? fun position =>
    startsWord line position && endsWord line (position + word.length)).map
      (Text.replaceAt · word.length replacement line)

def flipComparison? (line : List Char) : Option (List Char) :=
  comparisonFlips.findSome? fun (comparison, replacement) =>
    Text.replaceFirst? comparison.toList replacement.toList line

def swapCall? (names : List (List Char)) (line : List Char) : Option (List Char) := do
  let (position, name) ← findCall? line names
  let other ← names.find? (· != name)
  pure (Text.replaceAt position name.length other line)

def returnNone? (line : List Char) : Option (List Char) := do
  let value ← Text.dropPrefix? "return ".toList (Text.trimStart line)
  let value := Text.trim value
  if value = [] ∨ value = "None".toList then none
  else some (Text.indent line ++ "return None".toList)

def flipBoolean? (line : List Char) : Option (List Char) :=
  (replaceWord? "True".toList "False".toList line).or
    (replaceWord? "False".toList "True".toList line)

def skipCall? (names : List (List Char)) (line : List Char) : Option (List Char) :=
  (findCall? line names).map fun _ => Text.indent line ++ "pass".toList

def mutate? (mutation : Mutation) (names : List (List Char)) (line : List Char) :
    Option (List Char) :=
  match mutation with
  | .flipComparison => flipComparison? line
  | .swapCall => swapCall? names line
  | .dropAwait => Text.replaceFirst? "await ".toList [] line
  | .returnNone => returnNone? line
  | .flipBoolean => flipBoolean? line
  | .skipCall => skipCall? names line

/-- What lines start with that do not belong to a body. -/
def headStarts : List String := ["@", "#", "\"\"\"", "def ", "async def ", "class "]

def isBodyLine (line : List Char) : Bool :=
  let code := Text.trimStart line
  !code.isEmpty && !headStarts.any fun start => start.toList.isPrefixOf code

structure Fault where
  mutation : Mutation
  place : Nat
  fixed : String
  buggy : String

def faultBy? (names : List (List Char)) (lines : List String) (mutation : Mutation) :
    Option Fault :=
  lines.zipIdx.findSome? fun (line, place) =>
    if isBodyLine line.toList then
      (mutate? mutation names line.toList).map fun buggy =>
        ⟨mutation, place, line, String.ofList buggy⟩
    else none

def mutations (node : Node) : List Mutation :=
  Text.rotated (Text.fingerprint [node.id, "debugging"]) Mutation.all

def fault? (names : List String) (lines : List String) (node : Node) : Option Fault :=
  (mutations node).findSome? (faultBy? (names.map String.toList) lines)

/-- The first of the most complex nodes. -/
def mostComplex? : List Node → Option Node
  | [] => none
  | node :: nodes =>
    some (nodes.foldl (fun best other => if best.complexity < other.complexity then other else best)
      node)

def spec (node : Node) (lines : List String) (fault : Fault) : DebuggingSpec :=
  { prompt := "`" ++ node.name ++ "` has one wrong line. Find it and write the fix."
    function := node.name
    code := "\n".intercalate (lines.set fault.place fault.buggy)
    line := fault.place + 1
    buggyLine := fault.buggy
    fixedLine := fault.fixed
    mutation := fault.mutation }

def hint (fault : Fault) : String :=
  "Look for " ++ fault.mutation.description ++ " around line " ++ (fault.place + 1).repr

def generate (m : Material) (chain : Chain) : Except GapReason Challenge := do
  let node ← orGap .noKnownNodes (mostComplex? (m.nodes chain))
  let lines := Text.lines (m.text node)
  let fault ← orGap (.noMutableLine node.name) (fault? (m.calleeNames node) lines node)
  pure (m.challenge chain (.debugging (spec node lines fault)) (Hints.ladder node [hint fault]))

end CodeReading.Debugging
