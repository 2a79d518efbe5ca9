import CodeReading.Graph.CallGraph

set_option autoImplicit false

namespace CodeReading.Dot

def escapeChar (c : Char) : List Char :=
  if c = '\\' ∨ c = '"' then ['\\', c] else [c]

def quote (text : String) : String :=
  "\"" ++ String.ofList (text.toList.flatMap escapeChar) ++ "\""

def opening : String :=
  "digraph CallGraph \x7b\n  rankdir=LR;\n  node [shape=box, style=rounded];\n"

def nodeLine (entryPoints : IdSet) (node : Node) : String :=
  "  " ++ quote node.id ++ " [label=" ++ quote node.name
    ++ (if node.id ∈ entryPoints then ", fillcolor=lightgreen, style=\"rounded,filled\"" else "")
    ++ "];\n"

def edgeLine (edge : Edge) : String :=
  "  " ++ quote edge.caller ++ " -> " ++ quote edge.callee
    ++ (if 1 < edge.count then " [label=" ++ quote edge.count.toNat.repr ++ "]" else "") ++ ";\n"

def render (g : CallGraph) : String :=
  opening ++ String.join (g.nodes.map (nodeLine g.entryPoints))
    ++ String.join (g.edges.map edgeLine) ++ "\x7d\n"

end CodeReading.Dot
