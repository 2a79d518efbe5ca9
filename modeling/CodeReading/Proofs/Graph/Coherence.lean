import CodeReading.Proofs.Graph.Built
import Mathlib.Data.List.Nodup

set_option autoImplicit false

/-!
# Coherent graphs

A built graph tells of each call three times: in the call set of the caller, in the caller set of
the callee, and by one edge. Merging leaves one edge for each pair of nodes, checking or linking
makes the sets agree with these edges and with each other, and implied edges are added for the calls
that no edge stood for.
-/
namespace CodeReading

theorem Edge.joins_iff {edge : Edge} {caller callee : NodeId} :
    edge.joins caller callee = true ↔ edge.ends = (caller, callee) := by
  simp [Edge.joins, Edge.ends]

/-- Whether the call sets of nodes tell the same of who calls whom as their caller sets. -/
def Mirrored (nodes : List Node) : Prop :=
  ∀ node ∈ nodes, ∀ other ∈ nodes, other.id ∈ node.calls ↔ node.id ∈ other.calledBy

/-- Whether the call sets of nodes tell of every edge between them. -/
def Covered (nodes : List Node) (edges : List Edge) : Prop :=
  ∀ edge ∈ edges, ∀ node ∈ nodes, node.id = edge.caller → edge.callee ∈ node.calls

theorem eq_of_mem_of_id_eq {nodes : List Node} (distinct : (nodes.map (·.id)).Nodup)
    {node other : Node} (mem : node ∈ nodes) (otherMem : other ∈ nodes)
    (same : node.id = other.id) : node = other := by
  have found := findNode?_of_mem distinct mem
  rw [same, findNode?_of_mem distinct otherMem] at found
  exact (Option.some_inj.1 found).symm

theorem exists_mem_of_id_eq_iff {nodes : List Node} (distinct : (nodes.map (·.id)).Nodup)
    {node : Node} (mem : node ∈ nodes) (p : Node → Prop) :
    (∃ twin ∈ nodes, p twin ∧ twin.id = node.id) ↔ p node := by
  constructor
  · rintro ⟨twin, twinMem, holds, same⟩
    exact eq_of_mem_of_id_eq distinct twinMem mem same ▸ holds
  · intro holds
    exact ⟨node, mem, holds, rfl⟩

namespace Draft

theorem map_ends_tally (edge : Edge) (edges : List Edge) :
    (tally edge edges).map Edge.ends
      = if edge.ends ∈ edges.map Edge.ends then edges.map Edge.ends
        else edges.map Edge.ends ++ [edge.ends] := by
  induction edges with
  | nil => simp [tally]
  | cons first edges ih =>
    unfold tally
    by_cases same : first.ends = edge.ends
    · have joins : first.joins edge.caller edge.callee = true := Edge.joins_iff.2 same
      have old : edge.ends ∈ (first :: edges).map Edge.ends :=
        List.mem_map.2 ⟨first, List.mem_cons_self, same⟩
      rw [if_pos joins, if_pos old]
      rfl
    · have apart : ¬ first.joins edge.caller edge.callee = true := fun joins =>
        same (Edge.joins_iff.1 joins)
      rw [if_neg apart, List.map_cons, ih]
      by_cases old : edge.ends ∈ edges.map Edge.ends
      · simp only [old, List.map_cons, List.mem_cons, or_true, if_true]
      · simp only [old, List.map_cons, List.mem_cons, or_false, if_false, Ne.symm same,
          List.cons_append]

theorem mem_map_ends_tally {edge : Edge} {edges : List Edge} {pair : NodeId × NodeId} :
    pair ∈ (tally edge edges).map Edge.ends ↔ pair = edge.ends ∨ pair ∈ edges.map Edge.ends := by
  rw [map_ends_tally]
  split
  · rename_i old
    constructor
    · exact Or.inr
    · rintro (rfl | mem)
      · exact old
      · exact mem
  · rw [List.mem_append, List.mem_singleton, or_comm]

theorem nodup_map_ends_tally {edge : Edge} {edges : List Edge}
    (distinct : (edges.map Edge.ends).Nodup) : ((tally edge edges).map Edge.ends).Nodup := by
  rw [map_ends_tally]
  split
  · exact distinct
  · rename_i new
    exact List.nodup_append.2 ⟨distinct, List.nodup_singleton _, fun pair mem other single eq =>
      new (List.mem_singleton.1 single ▸ eq ▸ mem)⟩

theorem exists_mergeEdges_iff {nodes : List Node} {merged edges : List Edge} :
    (∃ result, mergeEdges nodes merged edges = .ok result) ↔
      ∀ edge ∈ edges, edgeFault? nodes edge = none := by
  induction edges generalizing merged with
  | nil => simp [mergeEdges]
  | cons edge edges ih =>
    rw [List.forall_mem_cons]
    unfold mergeEdges
    cases fault : edgeFault? nodes edge with
    | some error => simp
    | none => simpa using ih

theorem mem_mergeEdges_iff {nodes : List Node} {merged edges result : List Edge}
    (h : mergeEdges nodes merged edges = .ok result) {pair : NodeId × NodeId} :
    pair ∈ result.map Edge.ends ↔ pair ∈ merged.map Edge.ends ∨ pair ∈ edges.map Edge.ends := by
  induction edges generalizing merged with
  | nil =>
    cases h
    simp
  | cons edge edges ih =>
    unfold mergeEdges at h
    split at h
    · cases h
    · rw [ih h, mem_map_ends_tally, List.map_cons, List.mem_cons, or_assoc, or_left_comm]

theorem mergeEdges_nodup {nodes : List Node} {merged edges result : List Edge}
    (h : mergeEdges nodes merged edges = .ok result) (distinct : (merged.map Edge.ends).Nodup) :
    (result.map Edge.ends).Nodup := by
  induction edges generalizing merged with
  | nil =>
    cases h
    exact distinct
  | cons edge edges ih =>
    unfold mergeEdges at h
    split at h
    · cases h
    · exact ih h (nodup_map_ends_tally distinct)

theorem linkNodes_eq_ok {nodes linked : List Node} {edges : List Edge}
    (h : linkNodes nodes edges = .ok linked) : linked = nodes.map (linkNode nodes edges) := by
  unfold linkNodes at h
  split at h
  · cases h
  · cases h
    rfl

/-- Linking adds each call to both of its sets, from whichever source it comes. -/
theorem linkNodes_mirrored {nodes linked : List Node} {edges : List Edge}
    (h : linkNodes nodes edges = .ok linked) (distinct : (nodes.map (·.id)).Nodup) :
    Mirrored linked := by
  rw [linkNodes_eq_ok h]
  intro image imageMem otherImage otherImageMem
  obtain ⟨node, mem, rfl⟩ := List.mem_map.1 imageMem
  obtain ⟨other, otherMem, rfl⟩ := List.mem_map.1 otherImageMem
  -- A call is told by its caller, by an edge or by its callee; the two sets name these in another
  -- order.
  have told : other.id ∈ (linkNode nodes edges node).calls ↔ other.id ∈ node.calls
      ∨ (∃ edge ∈ edges, edge.caller = node.id ∧ edge.callee = other.id)
      ∨ node.id ∈ other.calledBy := by
    rw [mem_linkNode_calls,
      exists_mem_of_id_eq_iff distinct otherMem fun twin => node.id ∈ twin.calledBy]
  have heard : node.id ∈ (linkNode nodes edges other).calledBy ↔ node.id ∈ other.calledBy
      ∨ (∃ edge ∈ edges, edge.callee = other.id ∧ edge.caller = node.id)
      ∨ other.id ∈ node.calls := by
    rw [mem_linkNode_calledBy,
      exists_mem_of_id_eq_iff distinct mem fun twin => other.id ∈ twin.calls]
  have swap : (∃ edge ∈ edges, edge.caller = node.id ∧ edge.callee = other.id) ↔
      ∃ edge ∈ edges, edge.callee = other.id ∧ edge.caller = node.id := by
    simp only [and_comm]
  change other.id ∈ (linkNode nodes edges node).calls ↔
    node.id ∈ (linkNode nodes edges other).calledBy
  rw [told, heard, swap, or_rotate, or_left_comm]

theorem linkNodes_covered {nodes linked : List Node} {edges : List Edge}
    (h : linkNodes nodes edges = .ok linked) : Covered linked edges := by
  rw [linkNodes_eq_ok h]
  intro edge mem image imageMem same
  obtain ⟨node, -, rfl⟩ := List.mem_map.1 imageMem
  exact mem_linkNode_calls.2 (Or.inr (Or.inl ⟨edge, mem, same.symm, rfl⟩))

theorem checkNodes_eq_ok_iff {nodes checked : List Node} {edges : List Edge} :
    checkNodes nodes edges = .ok checked ↔ checked = nodes ∧
      (∀ edge ∈ edges, edgeMismatch? nodes edge = none) ∧
      ∀ node ∈ nodes, nodeMismatch? nodes node = none := by
  unfold checkNodes
  constructor
  · intro h
    split at h
    · cases h
    · rename_i sound
      cases h
      obtain ⟨matched, agreed⟩ := Option.or_eq_none_iff.1 sound
      exact ⟨rfl, List.findSome?_eq_none_iff.1 matched, List.findSome?_eq_none_iff.1 agreed⟩
  · rintro ⟨rfl, matched, agreed⟩
    rw [List.findSome?_eq_none_iff.2 matched, List.findSome?_eq_none_iff.2 agreed]
    rfl

theorem mem_mirror_of_mirrorFault? {nodes : List Node} (distinct : (nodes.map (·.id)).Nodup)
    {mirror : Node → IdSet} {node other : Node} {unknown unmirrored : GraphError}
    (mem : other ∈ nodes) (h : mirrorFault? nodes mirror node other.id unknown unmirrored = none) :
    node.id ∈ mirror other := by
  unfold mirrorFault? at h
  rw [findNode?_of_mem distinct mem] at h
  by_contra missing
  simp [missing] at h

theorem checkNodes_mirrored {nodes checked : List Node} {edges : List Edge}
    (h : checkNodes nodes edges = .ok checked) (distinct : (nodes.map (·.id)).Nodup) :
    Mirrored checked := by
  obtain ⟨rfl, -, sound⟩ := checkNodes_eq_ok_iff.1 h
  intro node mem other otherMem
  constructor
  · intro call
    have calls := (Option.or_eq_none_iff.1 (sound node mem)).1
    exact mem_mirror_of_mirrorFault? distinct otherMem
      (List.findSome?_eq_none_iff.1 calls other.id call)
  · intro call
    have callers := (Option.or_eq_none_iff.1 (sound other otherMem)).2
    exact mem_mirror_of_mirrorFault? distinct mem
      (List.findSome?_eq_none_iff.1 callers node.id call)

theorem checkNodes_covered {nodes checked : List Node} {edges : List Edge}
    (h : checkNodes nodes edges = .ok checked) (distinct : (nodes.map (·.id)).Nodup) :
    Covered checked edges := by
  obtain ⟨rfl, sound, -⟩ := checkNodes_eq_ok_iff.1 h
  intro edge mem node nodeMem same
  have found := findNode?_of_mem distinct nodeMem
  have matched := sound edge mem
  unfold edgeMismatch? at matched
  rw [← same, found] at matched
  by_contra missing
  simp [missing] at matched

theorem map_ends_impliedEdges (edges : List Edge) (node : Node) :
    (impliedEdges edges node).map Edge.ends
      = (node.calls.ids.filter fun callee => !edges.any (·.joins node.id callee)).map
        fun callee => (node.id, callee) := by
  unfold impliedEdges
  rw [List.map_map]
  rfl

theorem any_joins_iff {edges : List Edge} {caller callee : NodeId} :
    edges.any (·.joins caller callee) = true ↔ (caller, callee) ∈ edges.map Edge.ends := by
  simp only [List.any_eq_true, Edge.joins_iff, List.mem_map]

theorem mem_impliedEdges_iff {edges : List Edge} {node : Node} {pair : NodeId × NodeId} :
    pair ∈ (impliedEdges edges node).map Edge.ends ↔
      pair.1 = node.id ∧ pair.2 ∈ node.calls ∧ pair ∉ edges.map Edge.ends := by
  rw [map_ends_impliedEdges, List.mem_map]
  obtain ⟨caller, callee⟩ := pair
  simp only [List.mem_filter, Bool.not_eq_true', ← Bool.not_eq_true, any_joins_iff, Prod.mk.injEq]
  constructor
  · rintro ⟨callee, ⟨call, new⟩, rfl, rfl⟩
    exact ⟨rfl, call, new⟩
  · rintro ⟨rfl, call, new⟩
    exact ⟨callee, ⟨call, new⟩, rfl, rfl⟩

theorem nodup_impliedEdges (edges : List Edge) (node : Node) :
    ((impliedEdges edges node).map Edge.ends).Nodup := by
  rw [map_ends_impliedEdges]
  refine List.Nodup.map (fun a b eq => (Prod.mk.inj eq).2) (List.Nodup.filter _ ?_)
  exact node.calls.sorted.imp fun less => Std.ne_of_lt less

def allEdges (nodes : List Node) (merged : List Edge) : List Edge :=
  merged ++ nodes.flatMap (impliedEdges merged)

theorem nodup_allEdges {nodes : List Node} {merged : List Edge}
    (ids : (nodes.map (·.id)).Nodup) (distinct : (merged.map Edge.ends).Nodup) :
    ((allEdges nodes merged).map Edge.ends).Nodup := by
  unfold allEdges
  rw [List.map_append, List.map_flatMap]
  refine List.nodup_append.2 ⟨distinct, List.nodup_flatMap.2 ⟨?_, ?_⟩, ?_⟩
  · exact fun node _ => nodup_impliedEdges merged node
  · refine (List.pairwise_map.1 ids).imp fun {node other} apart pair mem otherMem => ?_
    exact apart ((mem_impliedEdges_iff.1 mem).1.symm.trans (mem_impliedEdges_iff.1 otherMem).1)
  · rintro pair given other mem rfl
    obtain ⟨node, -, mem⟩ := List.mem_flatMap.1 mem
    exact (mem_impliedEdges_iff.1 mem).2.2 given

theorem mem_allEdges_iff {nodes : List Node} {merged : List Edge} (covered : Covered nodes merged)
    (joined : ∀ edge ∈ merged, Joined nodes edge) {caller callee : NodeId} :
    (caller, callee) ∈ (allEdges nodes merged).map Edge.ends ↔
      ∃ node ∈ nodes, node.id = caller ∧ callee ∈ node.calls := by
  unfold allEdges
  rw [List.map_append, List.map_flatMap, List.mem_append, List.mem_flatMap]
  constructor
  · rintro (given | ⟨node, mem, implied⟩)
    · obtain ⟨edge, edgeMem, eq⟩ := List.mem_map.1 given
      cases eq
      obtain ⟨node, mem, same⟩ := List.mem_map.1 (joined edge edgeMem).1
      exact ⟨node, mem, same, covered edge edgeMem node mem same⟩
    · obtain ⟨same, call, -⟩ := mem_impliedEdges_iff.1 implied
      exact ⟨node, mem, same.symm, call⟩
  · rintro ⟨node, mem, rfl, call⟩
    by_cases given : (node.id, callee) ∈ merged.map Edge.ends
    · exact Or.inl given
    · exact Or.inr ⟨node, mem, mem_impliedEdges_iff.2 ⟨rfl, call, given⟩⟩

theorem counted_allEdges {nodes : List Node} {merged : List Edge}
    (counted : ∀ edge ∈ merged, edge.count ≠ 0) :
    ∀ edge ∈ allEdges nodes merged, edge.count ≠ 0 := by
  intro edge mem
  rcases List.mem_append.1 mem with given | implied
  · exact counted edge given
  · obtain ⟨node, -, implied⟩ := List.mem_flatMap.1 implied
    obtain ⟨callee, -, rfl⟩ := List.mem_map.1 implied
    change (1 : UInt32) ≠ 0
    decide

/-- What holds of nodes and merged edges before the implied edges are added. -/
structure Settled (nodes : List Node) (merged : List Edge) : Prop where
  mirrored : Mirrored nodes
  covered : Covered nodes merged
  joined : ∀ edge ∈ merged, Joined nodes edge
  nodup : (merged.map Edge.ends).Nodup
  counted : ∀ edge ∈ merged, edge.count ≠ 0

theorem nodup_of_sorted {ids : List NodeId} (sorted : ids.Pairwise (· < ·)) : ids.Nodup :=
  sorted.imp fun less => Std.ne_of_lt less

theorem withDetected_edges (detect : Bool) (g : CallGraph) :
    (withDetected detect g).edges = g.edges := by
  unfold withDetected
  split <;> rfl

theorem settled_of_build {draft : Draft} {g : CallGraph} (h : draft.build = .ok g) :
    ∃ merged, Settled g.nodes merged ∧ g.edges = allEdges g.nodes merged := by
  obtain ⟨placed, merged, nodes, entryPoints, hplaced, hmerged, hnodes, -, rfl⟩ :=
    build_eq_ok_iff.1 h
  have sorted := placeNodes_sorted hplaced .nil
  have distinct := nodup_of_sorted sorted
  have joined := mergeEdges_joined hmerged
  have agreed : nodes.map (·.id) = placed.map (·.id) ∧ Mirrored nodes ∧ Covered nodes merged := by
    split at hnodes
    · exact ⟨(linkNodes_known hnodes joined).1, linkNodes_mirrored hnodes distinct,
        linkNodes_covered hnodes⟩
    · exact ⟨congrArg _ (checkNodes_known hnodes).1, checkNodes_mirrored hnodes distinct,
        checkNodes_covered hnodes distinct⟩
  obtain ⟨ids, mirrored, covered⟩ := agreed
  refine ⟨merged, ?_, ?_⟩
  · rw [withDetected_nodes]
    refine ⟨mirrored, covered, ?_, mergeEdges_nodup hmerged .nil,
      fun edge mem => (mergeEdges_sound hmerged (List.forall_mem_nil _) edge mem).1⟩
    unfold Joined
    rw [ids]
    exact joined
  · rw [withDetected_edges, withDetected_nodes]
    rfl

theorem resolveEntries_eq_ok_iff {nodes : List Node} {entries : List NodeId} {entryPoints : IdSet} :
    resolveEntries nodes entries = .ok entryPoints ↔
      entryPoints = IdSet.ofList entries ∧ ∀ id ∈ entries, id ∈ nodes.map (·.id) := by
  unfold resolveEntries
  constructor
  · intro h
    split at h
    · cases h
    · rename_i sound
      cases h
      exact ⟨rfl, fun id mem => not_isNone_findNode?_iff.1 (List.find?_eq_none.1 sound id mem)⟩
  · rintro ⟨rfl, known⟩
    rw [List.find?_eq_none.2 fun id mem => not_isNone_findNode?_iff.2 (known id mem)]

theorem isEmpty_ofList (ids : List NodeId) : (IdSet.ofList ids).isEmpty = true ↔ ids = [] := by
  rw [IdSet.isEmpty_iff]
  constructor
  · intro empty
    refine List.eq_nil_iff_forall_not_mem.2 fun id mem => ?_
    exact IdSet.ne_empty_of_mem (IdSet.mem_ofList.2 mem) empty
  · rintro rfl
    rfl

theorem build_entryPoints {draft : Draft} {g : CallGraph} (h : draft.build = .ok g) :
    g.entryPoints = IdSet.ofList
      (if draft.detectEntryPoints = true ∧ draft.entryPoints = [] then g.uncalledNodes.map (·.id)
        else draft.entryPoints) := by
  obtain ⟨placed, merged, nodes, entryPoints, -, -, -, hentries, rfl⟩ := build_eq_ok_iff.1 h
  obtain ⟨rfl, -⟩ := resolveEntries_eq_ok_iff.1 hentries
  unfold withDetected
  by_cases detected : draft.detectEntryPoints = true ∧ draft.entryPoints = []
  · have empty := (isEmpty_ofList draft.entryPoints).2 detected.2
    rw [if_pos detected, if_pos (by rw [detected.1, empty]; rfl)]
    rfl
  · rw [if_neg detected, if_neg]
    rw [Bool.and_eq_true, isEmpty_ofList]
    exact detected

end Draft

namespace CallGraph

variable {g : CallGraph} {caller callee id : NodeId} {node : Node}

def CalledBy (g : CallGraph) (callee caller : NodeId) : Prop :=
  ∃ node, g.node? callee = some node ∧ caller ∈ node.calledBy

def pairs (g : CallGraph) : List (NodeId × NodeId) :=
  g.edges.map Edge.ends

def edgesBetween (g : CallGraph) (caller callee : NodeId) : List Edge :=
  g.edges.filter (·.joins caller callee)

theorem Closed.nodup_ids (closed : g.Closed) : g.ids.Nodup :=
  Draft.nodup_of_sorted closed.sorted

theorem Closed.node?_eq_some_iff (closed : g.Closed) :
    g.node? id = some node ↔ node ∈ g.nodes ∧ node.id = id := by
  constructor
  · exact mem_of_findNode?
  · rintro ⟨mem, rfl⟩
    exact findNode?_of_mem closed.nodup_ids mem

theorem Closed.exists_node?_iff (closed : g.Closed) (holds : Node → Prop) :
    (∃ node, g.node? id = some node ∧ holds node) ↔
      ∃ node ∈ g.nodes, node.id = id ∧ holds node := by
  simp only [closed.node?_eq_some_iff, and_assoc]

theorem Closed.calls_iff (closed : g.Closed) :
    g.Calls caller callee ↔ ∃ node ∈ g.nodes, node.id = caller ∧ callee ∈ node.calls :=
  closed.exists_node?_iff fun node => callee ∈ node.calls

theorem Closed.calledBy_iff (closed : g.Closed) :
    g.CalledBy callee caller ↔ ∃ node ∈ g.nodes, node.id = callee ∧ caller ∈ node.calledBy :=
  closed.exists_node?_iff fun node => caller ∈ node.calledBy

theorem Built.calledBy_iff_calls (built : g.Built) :
    g.CalledBy callee caller ↔ g.Calls caller callee := by
  have closed := built.closed
  obtain ⟨draft, h⟩ := built
  obtain ⟨merged, settled, -⟩ := Draft.settled_of_build h
  rw [closed.calledBy_iff, closed.calls_iff]
  constructor
  · rintro ⟨node, mem, rfl, call⟩
    obtain ⟨other, otherMem, rfl⟩ := List.mem_map.1 (closed.callers_known node mem caller call)
    exact ⟨other, otherMem, rfl, (settled.mirrored other otherMem node mem).2 call⟩
  · rintro ⟨node, mem, rfl, call⟩
    obtain ⟨other, otherMem, rfl⟩ := List.mem_map.1 (closed.calls_known node mem callee call)
    exact ⟨other, otherMem, rfl, (settled.mirrored node mem other otherMem).1 call⟩

theorem Built.mem_pairs_iff (built : g.Built) :
    (caller, callee) ∈ g.pairs ↔ g.Calls caller callee := by
  have closed := built.closed
  obtain ⟨draft, h⟩ := built
  obtain ⟨merged, settled, edges⟩ := Draft.settled_of_build h
  rw [closed.calls_iff, pairs, edges]
  exact Draft.mem_allEdges_iff settled.covered settled.joined

theorem Built.nodup_pairs (built : g.Built) : g.pairs.Nodup := by
  have closed := built.closed
  obtain ⟨draft, h⟩ := built
  obtain ⟨merged, settled, edges⟩ := Draft.settled_of_build h
  rw [pairs, edges]
  exact Draft.nodup_allEdges closed.nodup_ids settled.nodup

theorem Built.counted (built : g.Built) : ∀ edge ∈ g.edges, edge.count ≠ 0 := by
  obtain ⟨draft, h⟩ := built
  obtain ⟨merged, settled, edges⟩ := Draft.settled_of_build h
  rw [edges]
  exact Draft.counted_allEdges settled.counted

theorem Built.calls_of_mem_edges (built : g.Built) {edge : Edge} (mem : edge ∈ g.edges) :
    g.Calls edge.caller edge.callee :=
  built.mem_pairs_iff.1 (List.mem_map_of_mem (f := Edge.ends) mem)

theorem Closed.caller_known (closed : g.Closed) (call : g.Calls caller callee) :
    caller ∈ g.ids := by
  obtain ⟨node, mem, rfl, -⟩ := closed.calls_iff.1 call
  exact List.mem_map_of_mem mem

theorem length_edgesBetween (g : CallGraph) (caller callee : NodeId) :
    (g.edgesBetween caller callee).length = g.pairs.count (caller, callee) := by
  unfold edgesBetween pairs
  rw [List.count_eq_countP, List.countP_map, ← List.countP_eq_length_filter]
  refine List.countP_congr fun edge _ => ?_
  rw [Edge.joins_iff, Function.comp_apply, beq_iff_eq]

theorem count_successors (g : CallGraph) (caller callee : NodeId) :
    (g.successors caller).count callee = g.pairs.count (caller, callee) := by
  unfold successors pairs
  rw [List.count_eq_countP, List.countP_map, List.countP_filter, List.count_eq_countP,
    List.countP_map]
  refine List.countP_congr fun edge _ => ?_
  simp [Edge.ends, and_comm]

theorem mem_successors_iff : callee ∈ g.successors caller ↔ (caller, callee) ∈ g.pairs := by
  rw [← List.count_pos_iff, count_successors, List.count_pos_iff]

theorem Built.mem_successors_iff (built : g.Built) :
    callee ∈ g.successors caller ↔ g.Calls caller callee :=
  CallGraph.mem_successors_iff.trans built.mem_pairs_iff

theorem Built.mem_ids_of_mem_edges (built : g.Built) {edge : Edge} (mem : edge ∈ g.edges) :
    edge.caller ∈ g.ids ∧ edge.callee ∈ g.ids :=
  have call := built.calls_of_mem_edges mem
  ⟨built.closed.caller_known call, built.closed.known_of_calls call⟩

theorem contains_iff : g.contains id = true ↔ id ∈ g.ids := by
  simp [contains, ids]

/-- What the parts of a graph agree on. -/
structure IsCoherent (g : CallGraph) : Prop where
  ids_nodup : g.ids.Nodup
  keyed : ∀ id node, g.node? id = some node ↔ node ∈ g.nodes ∧ node.id = id
  calledBy_iff : ∀ caller callee, g.CalledBy callee caller ↔ g.Calls caller callee
  edge_iff : ∀ caller callee, (g.edgesBetween caller callee).length = 1 ↔ g.Calls caller callee
  no_other_edge : ∀ caller callee, ¬ g.Calls caller callee → g.edgesBetween caller callee = []
  /-- No edge is lost where a traversal looks its ends up. -/
  edges_indexed : (g.edges.filter fun edge => g.contains edge.caller && g.contains edge.callee)
    = g.edges
  /-- A traversal follows each edge once. -/
  count_successors : ∀ caller callee,
    (g.successors caller).count callee = (g.edgesBetween caller callee).length
  calls_known : ∀ caller callee, g.Calls caller callee → caller ∈ g.ids ∧ callee ∈ g.ids
  callers_known : ∀ caller callee, g.CalledBy callee caller → caller ∈ g.ids ∧ callee ∈ g.ids
  edges_known : ∀ edge ∈ g.edges, edge.caller ∈ g.ids ∧ edge.callee ∈ g.ids
  entries_known : ∀ id ∈ g.entryPoints, id ∈ g.ids
  counted : ∀ edge ∈ g.edges, 1 ≤ edge.count

theorem Built.mem_uncalledNodes_iff (built : g.Built) :
    node ∈ g.uncalledNodes ↔ node ∈ g.nodes ∧ (node.kind = .function ∨ node.kind = .method) ∧
      ∀ edge ∈ g.edges, edge.callee ≠ node.id := by
  unfold uncalledNodes
  rw [List.mem_filter, Bool.and_eq_true, IdSet.isEmpty_iff]
  refine and_congr_right fun mem => and_congr (by cases node.kind <;> decide) ?_
  constructor
  · intro uncalled edge edgeMem same
    have call := built.calledBy_iff_calls.2 (built.calls_of_mem_edges edgeMem)
    rw [same] at call
    obtain ⟨twin, twinMem, twinId, call⟩ := built.closed.calledBy_iff.1 call
    rw [eq_of_mem_of_id_eq built.closed.nodup_ids twinMem mem twinId, uncalled] at call
    cases call
  · intro untargeted
    refine IdSet.ext fun caller => iff_of_false (fun call => ?_) (by rintro ⟨⟩)
    have called : g.CalledBy node.id caller := built.closed.calledBy_iff.2 ⟨node, mem, rfl, call⟩
    have pair := built.mem_pairs_iff.2 (built.calledBy_iff_calls.1 called)
    obtain ⟨edge, edgeMem, ends⟩ := List.mem_map.1 pair
    exact untargeted edge edgeMem (congrArg Prod.snd ends)

theorem Built.isCoherent (built : g.Built) : g.IsCoherent where
  ids_nodup := built.closed.nodup_ids
  keyed id node := built.closed.node?_eq_some_iff
  calledBy_iff caller callee := built.calledBy_iff_calls
  edge_iff caller callee := by
    rw [length_edgesBetween, built.nodup_pairs.count, ← built.mem_pairs_iff]
    split <;> simp_all
  no_other_edge caller callee apart := by
    rw [← built.mem_pairs_iff] at apart
    rw [← List.length_eq_zero_iff, length_edgesBetween]
    exact List.count_eq_zero_of_not_mem apart
  edges_indexed := by
    refine List.filter_eq_self.2 fun edge mem => ?_
    obtain ⟨caller, callee⟩ := built.mem_ids_of_mem_edges mem
    rw [contains_iff.2 caller, contains_iff.2 callee]
    rfl
  count_successors caller callee := by
    rw [CallGraph.count_successors, length_edgesBetween]
  calls_known caller callee call :=
    ⟨built.closed.caller_known call, built.closed.known_of_calls call⟩
  callers_known caller callee call := by
    have call := built.calledBy_iff_calls.1 call
    exact ⟨built.closed.caller_known call, built.closed.known_of_calls call⟩
  edges_known edge mem := built.mem_ids_of_mem_edges mem
  entries_known := built.closed.entries_known
  counted edge mem := by
    rw [UInt32.le_iff_toNat_le]
    exact Nat.one_le_iff_ne_zero.2 fun zero => built.counted edge mem (UInt32.toNat_inj.1 zero)

theorem Built.mem_ids_uncalledNodes_iff (built : g.Built) :
    id ∈ g.uncalledNodes.map (·.id) ↔ ∃ node ∈ g.nodes, node.id = id ∧
      (node.kind = .function ∨ node.kind = .method) ∧ ∀ edge ∈ g.edges, edge.callee ≠ id := by
  rw [List.mem_map]
  constructor
  · rintro ⟨node, uncalled, rfl⟩
    obtain ⟨mem, callable, untargeted⟩ := built.mem_uncalledNodes_iff.1 uncalled
    exact ⟨node, mem, rfl, callable, untargeted⟩
  · rintro ⟨node, mem, rfl, callable, untargeted⟩
    exact ⟨node, built.mem_uncalledNodes_iff.2 ⟨mem, callable, untargeted⟩, rfl⟩

end CallGraph

/-- The parts of a graph that a draft builds agree, and its entry points are those given or, when
    none are given and they are to be detected, the functions and methods that no edge leads to. -/
theorem Draft.build_isCoherent {draft : Draft} {g : CallGraph} (h : draft.build = .ok g) :
    g.IsCoherent ∧ ∀ id, id ∈ g.entryPoints ↔
      if draft.detectEntryPoints = true ∧ draft.entryPoints = [] then
        ∃ node ∈ g.nodes, node.id = id ∧ (node.kind = .function ∨ node.kind = .method) ∧
          ∀ edge ∈ g.edges, edge.callee ≠ id
      else id ∈ draft.entryPoints := by
  have built : g.Built := ⟨draft, h⟩
  refine ⟨built.isCoherent, fun id => ?_⟩
  rw [build_entryPoints h, IdSet.mem_ofList]
  split
  · exact built.mem_ids_uncalledNodes_iff
  · rfl

/-- One call told three times over and one told by its callee only. -/
def manifoldDraft : Draft where
  nodes := [{ id := "serve", name := "serve", kind := .method, calledBy := IdSet.ofList ["main"] },
    { id := "main", name := "main", kind := .function, calls := IdSet.ofList ["load"] },
    { id := "load", name := "load", kind := .function },
    { id := "Model", name := "Model", kind := .classDef }]
  edges := [⟨"main", "load", 2⟩, ⟨"load", "load", 1⟩, ⟨"main", "load", 3⟩]
  lenient := true
  detectEntryPoints := true

theorem build_isCoherent_manifold : ∃ g, manifoldDraft.build = .ok g ∧ g.IsCoherent ∧
    g.edges = [⟨"main", "load", 5⟩, ⟨"load", "load", 1⟩, ⟨"main", "serve", 1⟩] ∧
    "main" ∈ g.entryPoints ∧ "Model" ∉ g.entryPoints := by
  obtain ⟨g, h⟩ : ∃ g, manifoldDraft.build = .ok g := ⟨_, rfl⟩
  have edges : g.edges = [⟨"main", "load", 5⟩, ⟨"load", "load", 1⟩, ⟨"main", "serve", 1⟩] := by
    cases h
    decide +kernel
  obtain ⟨coherent, -⟩ := Draft.build_isCoherent h
  refine ⟨g, h, coherent, edges, ?_, ?_⟩
  · cases h
    decide +kernel
  · cases h
    decide +kernel

end CodeReading
