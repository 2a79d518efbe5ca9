import CodeReading.Graph.Draft
import CodeReading.Proofs.Outcome
import Mathlib.Tactic.SplitIfs

set_option autoImplicit false

namespace CodeReading

theorem mem_of_findNode? {nodes : List Node} {id : NodeId} {node : Node}
    (h : findNode? nodes id = some node) : node ∈ nodes ∧ node.id = id := by
  unfold findNode? at h
  exact ⟨List.mem_of_find?_eq_some h, by simpa using List.find?_some h⟩

theorem findNode?_isSome_iff {nodes : List Node} {id : NodeId} :
    (findNode? nodes id).isSome ↔ id ∈ nodes.map (·.id) := by
  simp [findNode?]

theorem not_isNone_findNode?_iff {nodes : List Node} {id : NodeId} :
    ¬ (findNode? nodes id).isNone = true ↔ id ∈ nodes.map (·.id) := by
  rw [← findNode?_isSome_iff]
  cases findNode? nodes id <;> simp

theorem findNode?_eq_none_iff {nodes : List Node} {id : NodeId} :
    findNode? nodes id = none ↔ id ∉ nodes.map (·.id) := by
  rw [← findNode?_isSome_iff]
  cases findNode? nodes id <;> simp

theorem findNode?_of_mem {nodes : List Node} (distinct : (nodes.map (·.id)).Nodup) {node : Node}
    (h : node ∈ nodes) : findNode? nodes node.id = some node := by
  induction nodes with
  | nil => simp at h
  | cons first nodes ih =>
    rw [List.map_cons, List.nodup_cons] at distinct
    rcases List.mem_cons.1 h with rfl | h
    · simp [findNode?]
    · have other : first.id ≠ node.id := by
        intro eq
        exact distinct.1 (eq ▸ List.mem_map_of_mem h)
      have found := ih distinct.2 h
      unfold findNode? at found ⊢
      rw [List.find?_cons_of_neg (by simpa using other)]
      exact found

namespace CallGraph

/-- A graph that some draft builds. -/
def Built (g : CallGraph) : Prop :=
  ∃ draft : Draft, draft.build = .ok g

def Calls (g : CallGraph) (caller callee : NodeId) : Prop :=
  ∃ node, g.node? caller = some node ∧ callee ∈ node.calls

structure Closed (g : CallGraph) : Prop where
  sorted : g.ids.Pairwise (· < ·)
  calls_known : ∀ node ∈ g.nodes, ∀ id ∈ node.calls, id ∈ g.ids
  callers_known : ∀ node ∈ g.nodes, ∀ id ∈ node.calledBy, id ∈ g.ids
  entries_known : ∀ id ∈ g.entryPoints, id ∈ g.ids

end CallGraph

namespace Draft

theorem mem_placeNode {node other : Node} {nodes : List Node} :
    other ∈ placeNode node nodes ↔ other = node ∨ other ∈ nodes := by
  induction nodes with
  | nil => simp [placeNode]
  | cons first nodes ih =>
    unfold placeNode
    split
    · simp
    · simp [ih, or_left_comm]

theorem sorted_placeNode {node : Node} {nodes : List Node}
    (sorted : (nodes.map (·.id)).Pairwise (· < ·)) (fresh : node.id ∉ nodes.map (·.id)) :
    ((placeNode node nodes).map (·.id)).Pairwise (· < ·) := by
  induction nodes with
  | nil => simp [placeNode]
  | cons first nodes ih =>
    rw [List.map_cons, List.pairwise_cons] at sorted
    rw [List.map_cons, List.mem_cons, not_or] at fresh
    unfold placeNode
    split
    · rename_i before
      rw [List.map_cons, List.map_cons, List.pairwise_cons]
      refine ⟨?_, List.pairwise_cons.2 sorted⟩
      intro id mem
      rcases List.mem_cons.1 mem with rfl | mem
      · exact before
      · exact String.lt_trans before (sorted.1 id mem)
    · rename_i notBefore
      rw [List.map_cons, List.pairwise_cons]
      refine ⟨?_, ih sorted.2 fresh.2⟩
      intro id mem
      obtain ⟨other, member, rfl⟩ := List.mem_map.1 mem
      rcases mem_placeNode.1 member with rfl | member
      · exact Std.lt_of_le_of_ne (Std.not_lt.1 notBefore) fun eq => fresh.1 eq.symm
      · exact sorted.1 _ (List.mem_map_of_mem member)

theorem placeNodes_sorted {placed nodes result : List Node}
    (h : placeNodes placed nodes = .ok result)
    (sorted : (placed.map (·.id)).Pairwise (· < ·)) :
    (result.map (·.id)).Pairwise (· < ·) := by
  induction nodes generalizing placed with
  | nil =>
    cases h
    exact sorted
  | cons node nodes ih =>
    unfold placeNodes at h
    split at h
    · cases h
    · rename_i fresh
      exact ih h (sorted_placeNode sorted (findNode?_eq_none_iff.1 fresh))

/-- Whether both ends of an edge are ids of the given nodes. -/
def Joined (nodes : List Node) (edge : Edge) : Prop :=
  edge.caller ∈ nodes.map (·.id) ∧ edge.callee ∈ nodes.map (·.id)

theorem addCounts_ne_zero {a b : UInt32} (h : a ≠ 0) : addCounts a b ≠ 0 := by
  have pos : a.toNat ≠ 0 := fun eq => h (UInt32.toNat_inj.1 eq)
  unfold addCounts
  split
  · rename_i small
    intro eq
    have sum := congrArg UInt32.toNat eq
    rw [UInt32.toNat_add, Nat.mod_eq_of_lt small, UInt32.toNat_zero] at sum
    omega
  · decide

theorem edgeFault?_eq_none_iff {nodes : List Node} {edge : Edge} :
    edgeFault? nodes edge = none ↔ edge.count ≠ 0 ∧ Joined nodes edge := by
  unfold edgeFault? Joined
  rw [← not_isNone_findNode?_iff, ← not_isNone_findNode?_iff]
  split_ifs <;> simp_all

theorem sound_tally {nodes : List Node} {edge : Edge} {edges : List Edge}
    (new : edge.count ≠ 0 ∧ Joined nodes edge)
    (old : ∀ other ∈ edges, other.count ≠ 0 ∧ Joined nodes other) :
    ∀ other ∈ tally edge edges, other.count ≠ 0 ∧ Joined nodes other := by
  induction edges with
  | nil => simpa [tally] using new
  | cons first edges ih =>
    rw [List.forall_mem_cons] at old
    unfold tally
    split
    · exact List.forall_mem_cons.2 ⟨⟨addCounts_ne_zero old.1.1, old.1.2⟩, old.2⟩
    · exact List.forall_mem_cons.2 ⟨old.1, ih old.2⟩

theorem mergeEdges_sound {nodes : List Node} {merged edges result : List Edge}
    (h : mergeEdges nodes merged edges = .ok result)
    (old : ∀ edge ∈ merged, edge.count ≠ 0 ∧ Joined nodes edge) :
    ∀ edge ∈ result, edge.count ≠ 0 ∧ Joined nodes edge := by
  induction edges generalizing merged with
  | nil =>
    cases h
    exact old
  | cons edge edges ih =>
    unfold mergeEdges at h
    split at h
    · cases h
    · rename_i sound
      exact ih h (sound_tally (edgeFault?_eq_none_iff.1 sound) old)

theorem mergeEdges_joined {nodes : List Node} {edges result : List Edge}
    (h : mergeEdges nodes [] edges = .ok result) : ∀ edge ∈ result, Joined nodes edge :=
  fun edge mem => (mergeEdges_sound h (List.forall_mem_nil _) edge mem).2

theorem known_of_danglingCall? {nodes : List Node} {node : Node}
    (h : danglingCall? nodes node = none) :
    (∀ id ∈ node.calls, id ∈ nodes.map (·.id)) ∧ ∀ id ∈ node.calledBy, id ∈ nodes.map (·.id) := by
  unfold danglingCall? at h
  split at h
  · cases h
  · rename_i calls
    split at h
    · cases h
    · rename_i callers
      simp only [List.find?_eq_none, not_isNone_findNode?_iff] at calls callers
      exact ⟨calls, callers⟩

theorem linkNode_ids (nodes : List Node) (edges : List Edge) :
    (nodes.map (linkNode nodes edges)).map (·.id) = nodes.map (·.id) := by
  simp [linkNode]

theorem mem_insertAll_told_iff {nodes : List Node} {edges : List Edge} {near far : Edge → NodeId}
    {mirror : Node → IdSet} {own : IdSet} {owner id : NodeId} :
    id ∈ own.insertAll (told nodes edges near far mirror owner) ↔ id ∈ own
      ∨ (∃ edge ∈ edges, near edge = owner ∧ far edge = id)
      ∨ ∃ other ∈ nodes, owner ∈ mirror other ∧ other.id = id := by
  simp [told, IdSet.mem_insertAll, and_assoc]

theorem mem_linkNode_calls {nodes : List Node} {edges : List Edge} {node : Node} {id : NodeId} :
    id ∈ (linkNode nodes edges node).calls ↔ id ∈ node.calls
      ∨ (∃ edge ∈ edges, edge.caller = node.id ∧ edge.callee = id)
      ∨ ∃ other ∈ nodes, node.id ∈ other.calledBy ∧ other.id = id :=
  mem_insertAll_told_iff

theorem mem_linkNode_calledBy {nodes : List Node} {edges : List Edge} {node : Node} {id : NodeId} :
    id ∈ (linkNode nodes edges node).calledBy ↔ id ∈ node.calledBy
      ∨ (∃ edge ∈ edges, edge.callee = node.id ∧ edge.caller = id)
      ∨ ∃ other ∈ nodes, node.id ∈ other.calls ∧ other.id = id :=
  mem_insertAll_told_iff

/-- Whether the call sets of all nodes name ids of these nodes only. -/
def CallsKnown (nodes : List Node) : Prop :=
  ∀ node ∈ nodes, (∀ id ∈ node.calls, id ∈ nodes.map (·.id)) ∧
    ∀ id ∈ node.calledBy, id ∈ nodes.map (·.id)

theorem known_of_mem_told {nodes : List Node} {edges : List Edge} {near far : Edge → NodeId}
    {mirror : Node → IdSet} {own : IdSet} {owner : NodeId}
    (known : ∀ id ∈ own, id ∈ nodes.map (·.id))
    (joined : ∀ edge ∈ edges, far edge ∈ nodes.map (·.id)) :
    ∀ id ∈ own.insertAll (told nodes edges near far mirror owner), id ∈ nodes.map (·.id) := by
  intro id call
  rcases mem_insertAll_told_iff.1 call with call | ⟨edge, mem, -, rfl⟩ | ⟨other, mem, -, rfl⟩
  · exact known id call
  · exact joined edge mem
  · exact List.mem_map_of_mem mem

theorem linkNodes_known {nodes linked : List Node} {edges : List Edge}
    (h : linkNodes nodes edges = .ok linked) (joined : ∀ edge ∈ edges, Joined nodes edge) :
    linked.map (·.id) = nodes.map (·.id) ∧ CallsKnown linked := by
  unfold linkNodes at h
  split at h
  · cases h
  · rename_i sound
    cases h
    have ids := linkNode_ids nodes edges
    refine ⟨ids, ?_⟩
    intro image mem
    obtain ⟨node, member, rfl⟩ := List.mem_map.1 mem
    obtain ⟨calls, callers⟩ :=
      known_of_danglingCall? (List.findSome?_eq_none_iff.1 sound node member)
    rw [ids]
    exact ⟨known_of_mem_told calls fun edge mem => (joined edge mem).2,
      known_of_mem_told callers fun edge mem => (joined edge mem).1⟩

theorem known_of_mirrorFault? {nodes : List Node} {mirror : Node → IdSet} {node : Node}
    {listed : NodeId} {unknown unmirrored : GraphError}
    (h : mirrorFault? nodes mirror node listed unknown unmirrored = none) :
    listed ∈ nodes.map (·.id) := by
  unfold mirrorFault? at h
  split at h
  · cases h
  · rename_i found
    rw [← findNode?_isSome_iff, found]
    rfl

theorem checkNodes_known {nodes checked : List Node} {edges : List Edge}
    (h : checkNodes nodes edges = .ok checked) : checked = nodes ∧ CallsKnown checked := by
  unfold checkNodes at h
  split at h
  · cases h
  · rename_i sound
    cases h
    refine ⟨rfl, ?_⟩
    intro node member
    have sound := List.findSome?_eq_none_iff.1 (Option.or_eq_none_iff.1 sound).2 node member
    obtain ⟨calls, callers⟩ := Option.or_eq_none_iff.1 sound
    exact ⟨fun id call => known_of_mirrorFault? (List.findSome?_eq_none_iff.1 calls id call),
      fun id call => known_of_mirrorFault? (List.findSome?_eq_none_iff.1 callers id call)⟩

/-- All that a successful build does, phase by phase. -/
theorem build_eq_ok_iff {draft : Draft} {g : CallGraph} :
    draft.build = .ok g ↔ ∃ placed merged nodes entryPoints,
      placeNodes [] draft.nodes = .ok placed ∧
      mergeEdges placed [] draft.edges = .ok merged ∧
      (if draft.lenient then linkNodes placed merged else checkNodes placed merged) = .ok nodes ∧
      resolveEntries nodes draft.entryPoints = .ok entryPoints ∧
      withDetected draft.detectEntryPoints
        { nodes, edges := merged ++ nodes.flatMap (impliedEdges merged), entryPoints } = g := by
  obtain ⟨given, edges, entries, lenient, detect⟩ := draft
  cases lenient <;>
  · simp only [build, bind_eq_ok_iff, pure, Except.pure, Except.ok.injEq, Bool.false_eq_true,
      if_true, if_false]
    constructor
    · rintro ⟨placed, hp, merged, hm, nodes, hn, entryPoints, he, rfl⟩
      exact ⟨placed, merged, nodes, entryPoints, hp, hm, hn, he, rfl⟩
    · rintro ⟨placed, merged, nodes, entryPoints, hp, hm, hn, he, rfl⟩
      exact ⟨placed, hp, merged, hm, nodes, hn, entryPoints, he, rfl⟩

theorem resolveEntries_known {nodes : List Node} {entries : List NodeId} {entryPoints : IdSet}
    (h : resolveEntries nodes entries = .ok entryPoints) :
    ∀ id ∈ entryPoints, id ∈ nodes.map (·.id) := by
  unfold resolveEntries at h
  split at h
  · cases h
  · rename_i sound
    cases h
    intro id mem
    exact not_isNone_findNode?_iff.1 (List.find?_eq_none.1 sound id (IdSet.mem_ofList.1 mem))

theorem withDetected_nodes (detect : Bool) (g : CallGraph) :
    (withDetected detect g).nodes = g.nodes := by
  unfold withDetected
  split <;> rfl

theorem withDetected_entries_known {detect : Bool} {g : CallGraph}
    (known : ∀ id ∈ g.entryPoints, id ∈ g.ids) :
    ∀ id ∈ (withDetected detect g).entryPoints, id ∈ g.ids := by
  unfold withDetected
  split
  · intro id mem
    obtain ⟨node, uncalled, rfl⟩ := List.mem_map.1 (IdSet.mem_ofList.1 mem)
    exact List.mem_map_of_mem (List.mem_filter.1 uncalled).1
  · exact known

end Draft

theorem CallGraph.Built.closed {g : CallGraph} (built : g.Built) : g.Closed := by
  obtain ⟨draft, h⟩ := built
  obtain ⟨placed, merged, nodes, entryPoints, hplaced, hmerged, hnodes, hentries, rfl⟩ :=
    Draft.build_eq_ok_iff.1 h
  have sorted := Draft.placeNodes_sorted hplaced .nil
  have joined := Draft.mergeEdges_joined hmerged
  have linked : nodes.map (·.id) = placed.map (·.id) ∧ Draft.CallsKnown nodes := by
    split at hnodes
    · exact Draft.linkNodes_known hnodes joined
    · obtain ⟨rfl, known⟩ := Draft.checkNodes_known hnodes
      exact ⟨rfl, known⟩
  obtain ⟨ids, known⟩ := linked
  refine ⟨?_, ?_, ?_, ?_⟩
  · rw [CallGraph.ids, Draft.withDetected_nodes, ids]
    exact sorted
  · rw [CallGraph.ids, Draft.withDetected_nodes]
    exact fun node mem => (known node mem).1
  · rw [CallGraph.ids, Draft.withDetected_nodes]
    exact fun node mem => (known node mem).2
  · rw [CallGraph.ids, Draft.withDetected_nodes]
    exact Draft.withDetected_entries_known (Draft.resolveEntries_known hentries)

theorem CallGraph.Closed.known_of_calls {g : CallGraph} (closed : g.Closed) {caller callee : NodeId}
    (h : g.Calls caller callee) : callee ∈ g.ids := by
  obtain ⟨node, found, call⟩ := h
  exact closed.calls_known node (mem_of_findNode? found).1 callee call

end CodeReading
