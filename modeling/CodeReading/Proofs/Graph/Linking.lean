import CodeReading.Proofs.Graph.Acceptance

set_option autoImplicit false

/-!
# Calls told by halves

A lenient draft may tell of a call by an edge, from the side of the caller or from the side of the
callee. Its graph has each call that is told of in one of these ways, so that it does not matter in
which; and where a strict draft is accepted nothing is left to fill in.
-/
namespace CodeReading

def Node.bare (node : Node) : Node :=
  { node with calls := ∅, calledBy := ∅ }

theorem Node.eq_of_bare_eq {node other : Node} (bare : node.bare = other.bare)
    (calls : ∀ id, id ∈ node.calls ↔ id ∈ other.calls)
    (calledBy : ∀ id, id ∈ node.calledBy ↔ id ∈ other.calledBy) : node = other := by
  have callsEq : node.calls = other.calls := IdSet.ext calls
  have calledByEq : node.calledBy = other.calledBy := IdSet.ext calledBy
  calc
    node = { node.bare with calls := node.calls, calledBy := node.calledBy } := rfl
    _ = { other.bare with calls := other.calls, calledBy := other.calledBy } := by
      rw [bare, callsEq, calledByEq]
    _ = other := rfl

namespace Draft

/-- Whether a draft tells of a call, by an edge or from either side. -/
def Tells (draft : Draft) (caller callee : NodeId) : Prop :=
  (∃ edge ∈ draft.edges, edge.caller = caller ∧ edge.callee = callee) ∨
    ListsCall draft.nodes caller callee ∨ ListsCaller draft.nodes caller callee

/-- Whether `other` tells of the same calls between the same nodes, wherever it writes them. -/
structure Retells (draft other : Draft) : Prop where
  nodes : (draft.nodes.map Node.bare).Perm (other.nodes.map Node.bare)
  calls : ∀ caller callee, draft.Tells caller callee ↔ other.Tells caller callee
  counted : ∀ edge ∈ other.edges, 1 ≤ edge.count
  entries_known : ∀ id ∈ other.entryPoints, id ∈ other.ids

end Draft

/-- Whether a graph has the nodes of a draft with all calls that the draft tells of, in both of
    their sets, and no others. -/
structure CallGraph.Gathers (g : CallGraph) (draft : Draft) : Prop where
  nodes : (g.nodes.map Node.bare).Perm (draft.nodes.map Node.bare)
  calls_iff : ∀ caller callee, g.Calls caller callee ↔ draft.Tells caller callee
  calledBy_iff : ∀ caller callee, g.CalledBy callee caller ↔ draft.Tells caller callee

section
variable {nodes : List Node} {edges : List Edge} {caller callee : NodeId}

theorem exists_owner_iff (distinct : (nodes.map (·.id)).Nodup) {node : Node} (mem : node ∈ nodes)
    (holds : Node → Prop) : (∃ twin ∈ nodes, twin.id = node.id ∧ holds twin) ↔ holds node := by
  simp only [and_comm (a := _ = node.id)]
  exact exists_mem_of_id_eq_iff distinct mem holds

namespace Draft

theorem map_bare_linkNode (nodes : List Node) (edges : List Edge) :
    (nodes.map (linkNode nodes edges)).map Node.bare = nodes.map Node.bare := by
  rw [List.map_map]
  rfl

theorem mem_insertAll_told_iff_of_listed {near far : Edge → NodeId} {mirror : Node → IdSet}
    {own : IdSet} {owner id : NodeId} (listed : ∀ edge ∈ edges, near edge = owner → far edge ∈ own)
    (mirrored : ∀ other ∈ nodes, owner ∈ mirror other → other.id ∈ own) :
    id ∈ own.insertAll (told nodes edges near far mirror owner) ↔ id ∈ own := by
  rw [mem_insertAll_told_iff]
  constructor
  · rintro (call | ⟨edge, mem, same, rfl⟩ | ⟨other, mem, call, rfl⟩)
    · exact call
    · exact listed edge mem same
    · exact mirrored other mem call
  · exact Or.inl

theorem linkNode_eq_self (distinct : (nodes.map (·.id)).Nodup)
    (listed : ∀ edge ∈ edges, ListsCall nodes edge.caller edge.callee ∧
      ListsCaller nodes edge.caller edge.callee)
    (mirrored : ∀ caller callee, ListsCall nodes caller callee ↔ ListsCaller nodes caller callee)
    {node : Node} (mem : node ∈ nodes) : linkNode nodes edges node = node := by
  have calls (id : NodeId) : ListsCall nodes node.id id ↔ id ∈ node.calls :=
    exists_owner_iff distinct mem fun twin => id ∈ twin.calls
  have callers (id : NodeId) : ListsCaller nodes id node.id ↔ id ∈ node.calledBy :=
    exists_owner_iff distinct mem fun twin => id ∈ twin.calledBy
  refine Node.eq_of_bare_eq rfl (fun id => ?_) fun id => ?_
  · refine mem_insertAll_told_iff_of_listed (fun edge mem same => ?_) fun other isNode call => ?_
    · exact (calls _).1 (same ▸ (listed edge mem).1)
    · exact (calls _).1 ((mirrored node.id other.id).2 ⟨other, isNode, rfl, call⟩)
  · refine mem_insertAll_told_iff_of_listed (fun edge mem same => ?_) fun other isNode call => ?_
    · exact (callers _).1 (same ▸ (listed edge mem).2)
    · exact (callers _).1 ((mirrored other.id node.id).1 ⟨other, isNode, rfl, call⟩)

theorem listsCall_linked_iff (joined : ∀ edge ∈ edges, Joined nodes edge)
    (known : CallsKnown nodes) :
    ListsCall (nodes.map (linkNode nodes edges)) caller callee ↔
      (∃ edge ∈ edges, edge.caller = caller ∧ edge.callee = callee) ∨
        ListsCall nodes caller callee ∨ ListsCaller nodes caller callee := by
  constructor
  · rintro ⟨image, mem, rfl, call⟩
    obtain ⟨node, nodeMem, rfl⟩ := List.mem_map.1 mem
    rcases mem_linkNode_calls.1 call with own | told | ⟨other, otherMem, heard, rfl⟩
    · exact .inr (.inl ⟨node, nodeMem, rfl, own⟩)
    · exact .inl told
    · exact .inr (.inr ⟨other, otherMem, rfl, heard⟩)
  · rintro (⟨edge, edgeMem, rfl, rfl⟩ | ⟨node, mem, rfl, call⟩ | ⟨other, otherMem, rfl, call⟩)
    · obtain ⟨node, mem, same⟩ := List.mem_map.1 (joined edge edgeMem).1
      exact ⟨_, List.mem_map_of_mem mem, same,
        mem_linkNode_calls.2 (.inr (.inl ⟨edge, edgeMem, same.symm, rfl⟩))⟩
    · exact ⟨_, List.mem_map_of_mem mem, rfl, mem_linkNode_calls.2 (.inl call)⟩
    · obtain ⟨node, mem, rfl⟩ := List.mem_map.1 ((known other otherMem).2 caller call)
      exact ⟨_, List.mem_map_of_mem mem, rfl,
        mem_linkNode_calls.2 (.inr (.inr ⟨other, otherMem, call, rfl⟩))⟩

theorem linkNodes_eq_ok_of_checkNodes {checked : List Node} (distinct : (nodes.map (·.id)).Nodup)
    (h : checkNodes nodes edges = .ok checked) : linkNodes nodes edges = .ok checked := by
  obtain ⟨rfl, known⟩ := checkNodes_known h
  obtain ⟨-, matched, agreed⟩ := checkNodes_eq_ok_iff.1 h
  simp only [edgeMismatch?_eq_none_iff distinct] at matched
  rw [nodeMismatch?_eq_none_iff distinct] at agreed
  obtain ⟨linked, ok⟩ := exists_linkNodes_iff.2 known
  have same : checked.map (linkNode checked edges) = checked.map id :=
    List.map_congr_left fun node mem => linkNode_eq_self distinct matched agreed mem
  rw [ok, linkNodes_eq_ok ok, same, List.map_id]

theorem build_lenient_of_strict {draft : Draft} {g : CallGraph}
    (h : { draft with lenient := false }.build = .ok g) :
    { draft with lenient := true }.build = .ok g := by
  obtain ⟨placed, merged, nodes, entryPoints, hplaced, hmerged, hnodes, hentries, eq⟩ :=
    build_eq_ok_iff.1 h
  have linked := linkNodes_eq_ok_of_checkNodes (nodup_placed hplaced) hnodes
  exact build_eq_ok_iff.2
    ⟨placed, merged, nodes, entryPoints, hplaced, hmerged, linked, hentries, eq⟩

theorem build_lenient_gathers {draft : Draft} {g : CallGraph}
    (h : { draft with lenient := true }.build = .ok g) : g.Gathers draft := by
  have built : g.Built := ⟨_, h⟩
  obtain ⟨placed, merged, nodes, entryPoints, hplaced, hmerged, hnodes, -, eq⟩ :=
    build_eq_ok_iff.1 h
  have joined := mergeEdges_joined hmerged
  have known : CallsKnown placed := exists_linkNodes_iff.1 ⟨nodes, hnodes⟩
  have linked : g.nodes = placed.map (linkNode placed merged) := by
    rw [← linkNodes_eq_ok hnodes, ← eq, withDetected_nodes]
  have calls (caller callee : NodeId) : g.Calls caller callee ↔ draft.Tells caller callee := by
    rw [built.closed.calls_iff, linked]
    change ListsCall (placed.map (linkNode placed merged)) caller callee ↔ _
    rw [listsCall_linked_iff joined known, exists_edge_iff,
      ← samePairs_merged hmerged (caller, callee), ← exists_edge_iff]
    simp only [Tells, ListsCall, ListsCaller, exists_placed_iff hplaced]
  refine ⟨?_, calls, fun caller callee => built.calledBy_iff_calls.trans (calls caller callee)⟩
  rw [linked, map_bare_linkNode]
  exact (placeNodes_perm hplaced).map Node.bare

theorem map_id_bare (nodes : List Node) : (nodes.map Node.bare).map (·.id) = nodes.map (·.id) := by
  rw [List.map_map]
  rfl

theorem Retells.mem_ids_iff {draft other : Draft} (same : draft.Retells other) {id : NodeId} :
    id ∈ draft.ids ↔ id ∈ other.ids := by
  have perm := same.nodes.map (·.id)
  rw [map_id_bare, map_id_bare] at perm
  exact perm.mem_iff

theorem IsWellFormed.mem_ids_of_tells {draft : Draft} (sound : draft.IsWellFormed)
    (told : draft.Tells caller callee) : caller ∈ draft.ids ∧ callee ∈ draft.ids := by
  rcases told with ⟨edge, mem, rfl, rfl⟩ | call | call
  · exact (sound.edges_sound edge mem).2
  · have known := sound.sets_sound.callees_known caller callee call
    obtain ⟨node, mem, rfl, -⟩ := call
    exact ⟨List.mem_map_of_mem mem, known⟩
  · have known := sound.sets_sound.callers_known caller callee call
    obtain ⟨node, mem, rfl, -⟩ := call
    exact ⟨known, List.mem_map_of_mem mem⟩

theorem Retells.isWellFormed {draft other : Draft} (same : draft.Retells other)
    (sound : { draft with lenient := true }.IsWellFormed) :
    { other with lenient := true }.IsWellFormed := by
  have known {caller callee : NodeId} (told : other.Tells caller callee) :
      caller ∈ other.ids ∧ callee ∈ other.ids := by
    obtain ⟨callerKnown, calleeKnown⟩ :=
      sound.mem_ids_of_tells ((same.calls caller callee).2 told)
    exact ⟨same.mem_ids_iff.1 callerKnown, same.mem_ids_iff.1 calleeKnown⟩
  have nodup : other.ids.Nodup := by
    have perm := same.nodes.map (·.id)
    rw [map_id_bare, map_id_bare] at perm
    exact perm.nodup_iff.1 sound.ids_nodup
  refine ⟨nodup, ?_, ⟨?_, ?_, by simp, by simp⟩, same.entries_known⟩
  · exact fun edge mem => ⟨same.counted edge mem, known (.inl ⟨edge, mem, rfl, rfl⟩)⟩
  · exact fun caller callee call => (known (.inr (.inl call))).2
  · exact fun caller callee call => (known (.inr (.inr call))).1

end Draft
end

namespace CallGraph

variable {g h : CallGraph} {draft other : Draft}

theorem Gathers.congr (gathers : g.Gathers draft) (same : draft.Retells other) :
    g.Gathers other where
  nodes := gathers.nodes.trans same.nodes
  calls_iff caller callee := (gathers.calls_iff caller callee).trans (same.calls caller callee)
  calledBy_iff caller callee :=
    (gathers.calledBy_iff caller callee).trans (same.calls caller callee)

theorem Closed.exists_node?_of_mem_iff (closed : g.Closed) {node : Node} (mem : node ∈ g.nodes)
    (holds : Node → Prop) : (∃ twin, g.node? node.id = some twin ∧ holds twin) ↔ holds node := by
  rw [closed.node?_eq_some_iff.2 ⟨mem, rfl⟩]
  simp

theorem Gathers.mem_nodes (gathers : g.Gathers draft) (closed : g.Closed)
    (gathersToo : h.Gathers draft) (closedToo : h.Closed) {node : Node} (mem : node ∈ g.nodes) :
    node ∈ h.nodes := by
  have perm := gathers.nodes.trans gathersToo.nodes.symm
  obtain ⟨twin, twinMem, bare⟩ := List.mem_map.1 (perm.mem_iff.1 (List.mem_map_of_mem mem))
  have ids : twin.id = node.id := by
    change twin.bare.id = node.bare.id
    rw [bare]
  have calls (id : NodeId) : id ∈ twin.calls ↔ id ∈ node.calls :=
    calc
      id ∈ twin.calls ↔ h.Calls twin.id id :=
        (closedToo.exists_node?_of_mem_iff twinMem (id ∈ ·.calls)).symm
      _ ↔ draft.Tells node.id id := ids ▸ gathersToo.calls_iff ..
      _ ↔ g.Calls node.id id := (gathers.calls_iff ..).symm
      _ ↔ id ∈ node.calls := closed.exists_node?_of_mem_iff mem (id ∈ ·.calls)
  have calledBy (id : NodeId) : id ∈ twin.calledBy ↔ id ∈ node.calledBy :=
    calc
      id ∈ twin.calledBy ↔ h.CalledBy twin.id id :=
        (closedToo.exists_node?_of_mem_iff twinMem (id ∈ ·.calledBy)).symm
      _ ↔ draft.Tells id node.id := ids ▸ gathersToo.calledBy_iff ..
      _ ↔ g.CalledBy node.id id := (gathers.calledBy_iff ..).symm
      _ ↔ id ∈ node.calledBy := closed.exists_node?_of_mem_iff mem (id ∈ ·.calledBy)
  rw [← Node.eq_of_bare_eq bare calls calledBy]
  exact twinMem

theorem Gathers.nodes_eq (gathers : g.Gathers draft) (closed : g.Closed)
    (gathersToo : h.Gathers draft) (closedToo : h.Closed) : g.nodes = h.nodes :=
  closed.nodes_eq_of_mem_iff closedToo fun _ =>
    ⟨gathers.mem_nodes closed gathersToo closedToo,
      gathersToo.mem_nodes closedToo gathers closed⟩

end CallGraph

/-- A draft that is accepted as strict builds the same graph as a lenient one. A lenient draft
    builds a graph of the calls that it tells of, and the nodes stay the same when it tells of the
    same calls in other ways. -/
theorem Draft.build_lenient (draft : Draft) :
    (∀ g, { draft with lenient := false }.build = .ok g →
      { draft with lenient := true }.build = .ok g) ∧
    ∀ g, { draft with lenient := true }.build = .ok g → g.Gathers draft ∧
      ∀ other : Draft, draft.Retells other →
        ∃ h, { other with lenient := true }.build = .ok h ∧ h.nodes = g.nodes := by
  refine ⟨fun g => build_lenient_of_strict, fun g built => ?_⟩
  have gathers := build_lenient_gathers built
  have closed : g.Closed := CallGraph.Built.closed ⟨_, built⟩
  refine ⟨gathers, fun other same => ?_⟩
  obtain ⟨h, builtToo⟩ := exists_build_iff.2 (same.isWellFormed (exists_build_iff.1 ⟨g, built⟩))
  have closedToo : h.Closed := CallGraph.Built.closed ⟨_, builtToo⟩
  exact ⟨h, builtToo,
    (build_lenient_gathers builtToo).nodes_eq closedToo (gathers.congr same) closed⟩

def selfCallDraft (calls callers otherCallers : List NodeId) (edges : List Edge) : Draft where
  nodes := [
    { id := "run", name := "run", kind := .function, calledBy := IdSet.ofList otherCallers },
    { id := "main", name := "main", kind := .function, complexity := 4,
      calls := IdSet.ofList calls, calledBy := IdSet.ofList callers }]
  edges

theorem selfCallDraft_tells_iff {calls callers otherCallers : List NodeId} {edges : List Edge}
    {caller callee : NodeId} :
    (selfCallDraft calls callers otherCallers edges).Tells caller callee ↔
      (caller, callee) ∈ edges.map Edge.ends ∨
      (caller = "main" ∧ callee ∈ calls) ∨ (callee = "main" ∧ caller ∈ callers) ∨
      (callee = "run" ∧ caller ∈ otherCallers) := by
  simp only [Draft.Tells, selfCallDraft, ListsCall, ListsCaller, List.exists_mem_cons_iff,
    List.not_mem_nil, IdSet.mem_ofList, IdSet.not_mem_empty, Draft.exists_edge_iff]
  grind

def toldBothWays : Draft :=
  selfCallDraft ["main", "run"] ["main"] ["main"] [⟨"main", "run", 3⟩]

theorem selfCallDraft_retells {calls callers otherCallers : List NodeId} {edges : List Edge}
    (same : ∀ caller callee, (caller, callee) ∈ edges.map Edge.ends ∨
      (caller = "main" ∧ callee ∈ calls) ∨ (callee = "main" ∧ caller ∈ callers) ∨
      (callee = "run" ∧ caller ∈ otherCallers) ↔
        caller = "main" ∧ (callee = "main" ∨ callee = "run"))
    (counted : ∀ edge ∈ edges, 1 ≤ edge.count) :
    toldBothWays.Retells (selfCallDraft calls callers otherCallers edges) where
  nodes := .refl _
  calls caller callee := by
    rw [toldBothWays, selfCallDraft_tells_iff, selfCallDraft_tells_iff, same]
    simp [Edge.ends]
    grind
  counted := counted
  entries_known := by simp [selfCallDraft]

def toldByEdges : Draft :=
  selfCallDraft [] [] [] [⟨"main", "main", 1⟩, ⟨"main", "run", 2⟩]

def toldByCallers : Draft :=
  selfCallDraft ["main", "run"] [] [] []

def toldByCallees : Draft :=
  selfCallDraft [] ["main"] ["main"] []

theorem build_lenient_selfCall :
    ∃ g, toldBothWays.build = .ok g ∧ { toldBothWays with lenient := true }.build = .ok g ∧
      g.Gathers toldBothWays ∧ ∀ other ∈ [toldByEdges, toldByCallers, toldByCallees],
        ∃ h, { other with lenient := true }.build = .ok h ∧ h.nodes = g.nodes := by
  obtain ⟨g, strict⟩ : ∃ g, toldBothWays.build = .ok g := ⟨_, rfl⟩
  obtain ⟨kept, gathers⟩ := Draft.build_lenient toldBothWays
  have lenient := kept g strict
  obtain ⟨gathered, retold⟩ := gathers g lenient
  refine ⟨g, strict, lenient, gathered, fun other mem => retold other ?_⟩
  simp only [List.mem_cons, List.not_mem_nil, or_false] at mem
  rcases mem with rfl | rfl | rfl
  · exact selfCallDraft_retells (by simp [Edge.ends]; grind) (by decide)
  · exact selfCallDraft_retells (by simp) (by decide)
  · exact selfCallDraft_retells (by simp; grind) (by decide)

end CodeReading
