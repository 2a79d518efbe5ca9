import CodeReading.Graph.IdSet
import CodeReading.Text.Blank
import CodeReading.Text.Search

set_option autoImplicit false

namespace CodeReading

inductive NodeKind where
  | function
  | method
  | classDef
  deriving DecidableEq, Repr

namespace NodeKind

def all : List NodeKind := [.function, .method, .classDef]

def name : NodeKind → String
  | .function => "function"
  | .method => "method"
  | .classDef => "class"

/-- Functions and methods can start a chain of calls, classes cannot. -/
def isCallable : NodeKind → Bool
  | .classDef => false
  | _ => true

end NodeKind

structure Parameter where
  name : String
  typeHint : Option String := none
  defaultValue : Option String := none
  deriving DecidableEq, Repr

structure Node where
  id : NodeId
  name : String
  kind : NodeKind
  filePath : String := ""
  lineStart : UInt64 := 0
  lineEnd : UInt64 := 0
  parameters : List Parameter := []
  returnType : Option String := none
  decorators : List String := []
  calls : IdSet := ∅
  calledBy : IdSet := ∅
  dependsOn : IdSet := ∅
  docstring : Option String := none
  isAsync : Bool := false
  isGenerator : Bool := false
  complexity : UInt32 := 1
  loc : UInt32 := 0
  deriving DecidableEq, Repr

namespace Node

def isDocumented (node : Node) : Bool :=
  match node.docstring with
  | some doc => !Text.allBlank doc.toList
  | none => false

/-- First sentence of a docstring: up to a period or the end of its first line that is not blank. -/
def summarize (doc : List Char) : List Char :=
  Text.trim ((Text.trim doc).takeWhile fun c => c != '.' && c != '\n')

def docSummary (node : Node) : Option String :=
  match node.docstring with
  | some doc =>
    let summary := summarize doc.toList
    if summary = [] then none else some (String.ofList summary)
  | none => none

def lineRange (node : Node) : String :=
  let range := "lines " ++ node.lineStart.toNat.repr ++ "-" ++ node.lineEnd.toNat.repr
  if node.filePath = "" then range else node.filePath ++ " (" ++ range ++ ")"

end Node

structure Edge where
  caller : NodeId
  callee : NodeId
  count : UInt32 := 1
  deriving DecidableEq, Repr

namespace Edge

def ends (edge : Edge) : NodeId × NodeId :=
  (edge.caller, edge.callee)

def joins (edge : Edge) (caller callee : NodeId) : Bool :=
  edge.caller == caller && edge.callee == callee

end Edge

/-- Name of an identifier that belongs to no node: its last segment. -/
def NodeId.shortName (id : NodeId) : String :=
  String.ofList (Text.lastSegment id.toList)

end CodeReading
