import CodeReading.Graph.CallGraph

set_option autoImplicit false

/-!
# Drafts of call graphs

A draft collects nodes, edges and entry points in any order; `Draft.build` checks it and makes a
call graph of it. A strict draft must already agree with itself about who calls whom. A lenient one
may say it once, in either call set or by an edge, and the missing halves are filled in.
-/
namespace CodeReading

inductive AdjacencyFault where
  | edgeWithoutCall
  | edgeWithoutCaller
  | callWithoutCaller
  | callerWithoutCall
  deriving DecidableEq, Repr

def AdjacencyFault.message : AdjacencyFault → String
  | .edgeWithoutCall => "edge target missing from `calls`"
  | .edgeWithoutCaller => "edge source missing from `called_by`"
  | .callWithoutCaller => "caller missing from `called_by`"
  | .callerWithoutCall => "callee missing from `calls`"

inductive GraphError where
  | duplicateNode (id : NodeId)
  | danglingEdge (caller callee missing : NodeId)
  | unknownEntryPoint (id : NodeId)
  | inconsistentAdjacency (caller callee : NodeId) (fault : AdjacencyFault)
  | uncalledEdge (caller callee : NodeId)
  deriving DecidableEq, Repr

def GraphError.message : GraphError → String
  | .duplicateNode id => "Duplicate node id: " ++ id
  | .danglingEdge caller callee missing =>
    "Edge " ++ caller ++ " -> " ++ callee ++ " references unknown node " ++ missing
  | .unknownEntryPoint id => "Entry point " ++ id ++ " is not a node of the graph"
  | .inconsistentAdjacency caller callee fault =>
    "Adjacency of " ++ caller ++ " -> " ++ callee ++ " is inconsistent: " ++ fault.message
  | .uncalledEdge caller callee =>
    "Invalid edge " ++ caller ++ " -> " ++ callee ++ ": call_count must be at least 1"

/-- Sum of two counts, held at the largest count. -/
def addCounts (a b : UInt32) : UInt32 :=
  if a.toNat + b.toNat < UInt32.size then a + b else UInt32.ofNat (UInt32.size - 1)

structure Draft where
  nodes : List Node := []
  edges : List Edge := []
  entryPoints : List NodeId := []
  /-- Fill in missing halves of the call sets instead of refusing them. -/
  lenient : Bool := false
  /-- Take the uncalled functions as entry points when none are given. -/
  detectEntryPoints : Bool := false
  deriving DecidableEq, Repr

namespace Draft

def addNode (draft : Draft) (node : Node) : Draft :=
  { draft with nodes := draft.nodes ++ [node] }

def addEdge (draft : Draft) (edge : Edge) : Draft :=
  { draft with edges := draft.edges ++ [edge] }

def addCall (draft : Draft) (caller callee : NodeId) : Draft :=
  draft.addEdge { caller, callee }

def addEntryPoint (draft : Draft) (id : NodeId) : Draft :=
  { draft with entryPoints := draft.entryPoints ++ [id] }

def placeNode (node : Node) : List Node → List Node
  | [] => [node]
  | other :: nodes =>
    if node.id < other.id then node :: other :: nodes else other :: placeNode node nodes

def placeNodes (placed : List Node) : List Node → Except GraphError (List Node)
  | [] => .ok placed
  | node :: nodes =>
    match findNode? placed node.id with
    | some _ => .error (.duplicateNode node.id)
    | none => placeNodes (placeNode node placed) nodes

def edgeFault? (nodes : List Node) (edge : Edge) : Option GraphError :=
  if edge.count = 0 then some (.uncalledEdge edge.caller edge.callee)
  else if (findNode? nodes edge.caller).isNone then
    some (.danglingEdge edge.caller edge.callee edge.caller)
  else if (findNode? nodes edge.callee).isNone then
    some (.danglingEdge edge.caller edge.callee edge.callee)
  else none

/-- The count of an edge added to the edge between the same nodes, or the edge put last. -/
def tally (edge : Edge) : List Edge → List Edge
  | [] => [edge]
  | other :: edges =>
    if other.joins edge.caller edge.callee then
      { other with count := addCounts other.count edge.count } :: edges
    else other :: tally edge edges

def mergeEdges (nodes : List Node) (merged : List Edge) :
    List Edge → Except GraphError (List Edge)
  | [] => .ok merged
  | edge :: edges =>
    match edgeFault? nodes edge with
    | some fault => .error fault
    | none => mergeEdges nodes (tally edge merged) edges

def danglingCall? (nodes : List Node) (node : Node) : Option GraphError :=
  match node.calls.ids.find? fun callee => (findNode? nodes callee).isNone with
  | some callee => some (.danglingEdge node.id callee callee)
  | none =>
    match node.calledBy.ids.find? fun caller => (findNode? nodes caller).isNone with
    | some caller => some (.danglingEdge caller node.id caller)
    | none => none

/-- What the edges at one end of which `id` stands have at the other end, and the nodes that list
    `id` themselves. -/
def told (nodes : List Node) (edges : List Edge) (near far : Edge → NodeId) (mirror : Node → IdSet)
    (id : NodeId) : List NodeId :=
  (edges.filter (near · == id)).map far ++ (nodes.filter fun other => id ∈ mirror other).map (·.id)

def linkNode (nodes : List Node) (edges : List Edge) (node : Node) : Node :=
  { node with
    calls := node.calls.insertAll (told nodes edges (·.caller) (·.callee) (·.calledBy) node.id)
    calledBy := node.calledBy.insertAll (told nodes edges (·.callee) (·.caller) (·.calls) node.id) }

def linkNodes (nodes : List Node) (edges : List Edge) : Except GraphError (List Node) :=
  match nodes.findSome? (danglingCall? nodes) with
  | some fault => .error fault
  | none => .ok (nodes.map (linkNode nodes edges))

def edgeMismatch? (nodes : List Node) (edge : Edge) : Option GraphError :=
  if !(findNode? nodes edge.caller).any (fun node => edge.callee ∈ node.calls) then
    some (.inconsistentAdjacency edge.caller edge.callee .edgeWithoutCall)
  else if !(findNode? nodes edge.callee).any (fun node => edge.caller ∈ node.calledBy) then
    some (.inconsistentAdjacency edge.caller edge.callee .edgeWithoutCaller)
  else none

/-- What is wrong with an id that `node` lists: no node has it, or the one that has it does not list
    `node` in turn. -/
def mirrorFault? (nodes : List Node) (mirror : Node → IdSet) (node : Node) (listed : NodeId)
    (unknown unmirrored : GraphError) : Option GraphError :=
  match findNode? nodes listed with
  | none => some unknown
  | some other => if node.id ∈ mirror other then none else some unmirrored

def callMismatch? (nodes : List Node) (node : Node) (callee : NodeId) : Option GraphError :=
  mirrorFault? nodes (·.calledBy) node callee (.danglingEdge node.id callee callee)
    (.inconsistentAdjacency node.id callee .callWithoutCaller)

def callerMismatch? (nodes : List Node) (node : Node) (caller : NodeId) : Option GraphError :=
  mirrorFault? nodes (·.calls) node caller (.danglingEdge caller node.id caller)
    (.inconsistentAdjacency caller node.id .callerWithoutCall)

def nodeMismatch? (nodes : List Node) (node : Node) : Option GraphError :=
  (node.calls.ids.findSome? (callMismatch? nodes node)).or
    (node.calledBy.ids.findSome? (callerMismatch? nodes node))

def checkNodes (nodes : List Node) (edges : List Edge) : Except GraphError (List Node) :=
  match (edges.findSome? (edgeMismatch? nodes)).or (nodes.findSome? (nodeMismatch? nodes)) with
  | some fault => .error fault
  | none => .ok nodes

/-- Single edges for the calls of a node that no edge of the list stands for. -/
def impliedEdges (edges : List Edge) (node : Node) : List Edge :=
  (node.calls.ids.filter fun callee => !edges.any (·.joins node.id callee)).map fun callee =>
    { caller := node.id, callee }

def resolveEntries (nodes : List Node) (entries : List NodeId) : Except GraphError IdSet :=
  match entries.find? fun id => (findNode? nodes id).isNone with
  | some id => .error (.unknownEntryPoint id)
  | none => .ok (IdSet.ofList entries)

def withDetected (detect : Bool) (g : CallGraph) : CallGraph :=
  if detect && g.entryPoints.isEmpty then
    { g with entryPoints := IdSet.ofList (g.uncalledNodes.map (·.id)) }
  else g

def build (draft : Draft) : Except GraphError CallGraph := do
  let placed ← placeNodes [] draft.nodes
  let merged ← mergeEdges placed [] draft.edges
  let nodes ← if draft.lenient then linkNodes placed merged else checkNodes placed merged
  let entryPoints ← resolveEntries nodes draft.entryPoints
  pure (withDetected draft.detectEntryPoints
    { nodes, edges := merged ++ nodes.flatMap (impliedEdges merged), entryPoints })

end Draft
end CodeReading
