import CodeReading.Graph.Node

set_option autoImplicit false

namespace CodeReading

structure CallGraph where
  nodes : List Node
  edges : List Edge
  entryPoints : IdSet
  deriving DecidableEq, Repr

def findNode? (nodes : List Node) (id : NodeId) : Option Node :=
  nodes.find? (·.id == id)

namespace CallGraph

def node? (g : CallGraph) (id : NodeId) : Option Node :=
  findNode? g.nodes id

def contains (g : CallGraph) (id : NodeId) : Bool :=
  g.nodes.any (·.id == id)

def ids (g : CallGraph) : List NodeId :=
  g.nodes.map (·.id)

/-- Name of a node, or what can be read off an unknown id. -/
def nodeName (g : CallGraph) (id : NodeId) : String :=
  match g.node? id with
  | some node => node.name
  | none => NodeId.shortName id

def known (g : CallGraph) (ids : List NodeId) : List Node :=
  ids.filterMap g.node?

def callees (g : CallGraph) (id : NodeId) : List Node :=
  match g.node? id with
  | some node => g.known node.calls.ids
  | none => []

def callers (g : CallGraph) (id : NodeId) : List Node :=
  match g.node? id with
  | some node => g.known node.calledBy.ids
  | none => []

/-- Heads of the edges that leave `id`. -/
def successors (g : CallGraph) (id : NodeId) : List NodeId :=
  (g.edges.filter (·.caller == id)).map (·.callee)

/-- Callable nodes that nobody calls. -/
def uncalledNodes (g : CallGraph) : List Node :=
  g.nodes.filter fun node => node.kind.isCallable && node.calledBy.isEmpty

end CallGraph
end CodeReading
