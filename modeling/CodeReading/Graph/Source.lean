import CodeReading.Graph.CallGraph
import CodeReading.Text.Lines

set_option autoImplicit false

namespace CodeReading

abbrev SourceLookup := Node → Option String

namespace SourceLookup

def none : SourceLookup := fun _ => .none

/-- Whole files by their path, of which a node takes its lines. -/
def ofFiles (files : List (String × String)) : SourceLookup := fun node =>
  (files.lookup node.filePath).bind fun text => Text.sliceLines text node.lineStart node.lineEnd

end SourceLookup

def Parameter.signature (p : Parameter) : String :=
  p.name ++ (p.typeHint.map (": " ++ ·)).getD "" ++ (p.defaultValue.map (" = " ++ ·)).getD ""

def bareDecorator (decorator : String) : String :=
  String.ofList (decorator.toList.dropWhile (· == '@'))

namespace Node

def decoratorLines (node : Node) : List String :=
  node.decorators.map fun decorator => "@" ++ bareDecorator decorator

def keyword (node : Node) : String :=
  if node.kind = .classDef then "class" else if node.isAsync then "async def" else "def"

def header (node : Node) : String :=
  node.keyword ++ " " ++ node.name
    ++ "(" ++ ", ".intercalate (node.parameters.map Parameter.signature) ++ ")"
    ++ (node.returnType.map (" -> " ++ ·)).getD "" ++ ":"

def docLines (node : Node) : List String :=
  (node.docSummary.map fun summary => "    \"\"\"" ++ summary ++ ".\"\"\"").toList

def callLine (g : CallGraph) (node : Node) (callee : NodeId) : String :=
  "    " ++ (if node.isAsync then "await " else "") ++ g.nodeName callee ++ "(...)"

def closingLines (node : Node) : List String :=
  if node.isGenerator then ["    yield ..."]
  else if node.returnType.isSome then ["    return ..."]
  else if node.calls.isEmpty then ["    ..."]
  else []

def bodyLines (g : CallGraph) (node : Node) : List String :=
  node.calls.ids.map (node.callLine g) ++ node.closingLines

def skeletonLines (g : CallGraph) (node : Node) : List String :=
  node.decoratorLines ++ node.header :: node.docLines ++ node.bodyLines g

def skeleton (g : CallGraph) (node : Node) : String :=
  String.ofList (Text.trimEnd ("\n".intercalate (node.skeletonLines g)).toList)

/-- Source text where there is any, the skeleton otherwise. -/
def text (g : CallGraph) (source : SourceLookup) (node : Node) : String :=
  (source node).getD (node.skeleton g)

end Node
end CodeReading
