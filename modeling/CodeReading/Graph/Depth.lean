import CodeReading.Graph.Reachability

set_option autoImplicit false

/-!
# Call depth

The depth of a node counts the calls below it. Nodes that reach each other form a component; a
component of `n` nodes counts as `n - 1` calls, and one more call leads to the next component, so
the depth is the length of a longest path when there are no cycles and bounds it otherwise.

Depths are computed callees first: a node reaches fewer nodes than a caller outside its component.
-/
namespace CodeReading.CallGraph

def reachTable (g : CallGraph) : List (NodeId × List NodeId) :=
  g.ids.map fun id => (id, g.reachable [id])

def reachOf (table : List (NodeId × List NodeId)) (id : NodeId) : List NodeId :=
  (table.lookup id).getD []

/-- Nodes that reach `id` and are reached from it. -/
def component (table : List (NodeId × List NodeId)) (id : NodeId) : List NodeId :=
  (reachOf table id).filter fun other => id ∈ reachOf table other

def depthOf (depths : List (NodeId × Nat)) (id : NodeId) : Nat :=
  (depths.lookup id).getD 0

/-- Depth of `id`, from the depths of the nodes that its component calls. -/
def depthAbove (g : CallGraph) (table : List (NodeId × List NodeId))
    (depths : List (NodeId × Nat)) (id : NodeId) : Nat :=
  let members := component table id
  let callees := (members.flatMap g.successors).filter fun callee => callee ∉ members
  members.length - 1 + (callees.map fun callee => depthOf depths callee + 1).foldl max 0

def extendDepths (g : CallGraph) (table : List (NodeId × List NodeId))
    (depths : List (NodeId × Nat)) (entry : NodeId × List NodeId) : List (NodeId × Nat) :=
  (entry.1, g.depthAbove table depths entry.1) :: depths

def depths (g : CallGraph) : List (NodeId × Nat) :=
  let table := g.reachTable
  (table.mergeSort fun a b => a.2.length ≤ b.2.length).foldl (g.extendDepths table) []

/-- Depth of a node; an unknown id has depth zero. -/
def callDepth (g : CallGraph) (id : NodeId) : Nat :=
  depthOf g.depths id

structure Stats where
  nodes : Nat
  edges : Nat
  entryPoints : Nat
  /-- Greatest depth of an entry point. -/
  maxDepth : Nat
  deriving DecidableEq, Repr

def stats (g : CallGraph) : Stats :=
  let depths := g.depths
  { nodes := g.nodes.length
    edges := g.edges.length
    entryPoints := g.entryPoints.size
    maxDepth := (g.entryPoints.ids.map (depthOf depths)).foldl max 0 }

end CodeReading.CallGraph
