import CodeReading.Graph.CallGraph

set_option autoImplicit false

namespace CodeReading

/-- Of equal neighbours the first one stays. -/
def dropRepeats {α : Type} [DecidableEq α] : List α → List α
  | [] => []
  | x :: xs =>
    match dropRepeats xs with
    | [] => [x]
    | y :: ys => if x = y then x :: ys else x :: y :: ys

namespace Hints

def about (node : Node) : List String :=
  (if node.docSummary.isSome then ["Read the docstring of " ++ node.name] else [])
    ++ ["Look at " ++ node.name ++ " in " ++ node.lineRange]

/-- The next step after a node, which gives a part of the answer away. -/
def handOff (g : CallGraph) (node : Node) (next : NodeId) : String :=
  node.name ++ " hands work to " ++ g.nodeName next

def ladder (node : Node) (others : List String) : List String :=
  dropRepeats (about node ++ others)

end Hints
end CodeReading
