import CodeReading.Proofs.Graph.Coherence

set_option autoImplicit false

namespace CodeReading

namespace Draft

theorem placeNode_perm (node : Node) (nodes : List Node) :
    (placeNode node nodes).Perm (node :: nodes) := by
  induction nodes with
  | nil => exact .refl _
  | cons first nodes ih =>
    unfold placeNode
    split
    · exact .refl _
    · exact (ih.cons first).trans (.swap node first nodes)

theorem placeNodes_perm {placed nodes result : List Node}
    (h : placeNodes placed nodes = .ok result) : result.Perm (placed ++ nodes) := by
  induction nodes generalizing placed with
  | nil =>
    cases h
    rw [List.append_nil]
  | cons node nodes ih =>
    unfold placeNodes at h
    split at h
    · cases h
    · refine (ih h).trans (((placeNode_perm node placed).append_right nodes).trans ?_)
      exact List.perm_middle.symm

theorem exists_placeNodes {placed nodes : List Node}
    (distinct : ((placed ++ nodes).map (·.id)).Nodup) :
    ∃ result, placeNodes placed nodes = .ok result := by
  induction nodes generalizing placed with
  | nil => exact ⟨placed, rfl⟩
  | cons node nodes ih =>
    have moved : (placeNode node placed ++ nodes).Perm (placed ++ node :: nodes) :=
      ((placeNode_perm node placed).append_right nodes).trans List.perm_middle.symm
    have fresh : findNode? placed node.id = none := by
      refine findNode?_eq_none_iff.2 fun mem => ?_
      rw [List.map_append, List.map_cons, List.nodup_append] at distinct
      exact distinct.2.2 node.id mem node.id List.mem_cons_self rfl
    unfold placeNodes
    rw [fresh]
    exact ih ((moved.map _).nodup_iff.2 distinct)

theorem eq_of_perm_of_sorted {nodes others : List Node} (perm : nodes.Perm others)
    (sorted : (nodes.map (·.id)).Pairwise (· < ·))
    (sortedToo : (others.map (·.id)).Pairwise (· < ·)) : nodes = others := by
  refine perm.eq_of_pairwise ?_ (List.pairwise_map.1 sorted) (List.pairwise_map.1 sortedToo)
  intro a b _ _ before after
  exact absurd (String.lt_trans before after) (String.lt_irrefl _)

theorem placeNodes_of_perm {nodes others placed : List Node} (perm : nodes.Perm others)
    (h : placeNodes [] nodes = .ok placed) : placeNodes [] others = .ok placed := by
  have sorted := placeNodes_sorted h .nil
  have placedPerm : placed.Perm others := (placeNodes_perm h).trans perm
  obtain ⟨result, ok⟩ : ∃ result, placeNodes [] others = .ok result :=
    exists_placeNodes ((placedPerm.map _).nodup_iff.1 (nodup_of_sorted sorted))
  have resultPerm : result.Perm placed := (placeNodes_perm ok).trans placedPerm.symm
  rw [ok, eq_of_perm_of_sorted resultPerm (placeNodes_sorted ok .nil) sorted]

section
variable {nodes : List Node} {edges others : List Edge}

def SamePairs (edges others : List Edge) : Prop :=
  ∀ pair, pair ∈ edges.map Edge.ends ↔ pair ∈ others.map Edge.ends

theorem exists_edge_iff {caller callee : NodeId} :
    (∃ edge ∈ edges, edge.caller = caller ∧ edge.callee = callee) ↔
      (caller, callee) ∈ edges.map Edge.ends := by
  simp [Edge.ends]

theorem SamePairs.exists_edge (same : SamePairs edges others) {other : Edge}
    (mem : other ∈ others) :
    ∃ edge ∈ edges, edge.caller = other.caller ∧ edge.callee = other.callee :=
  exists_edge_iff.2 ((same other.ends).2 (List.mem_map_of_mem mem))

/-- Edges between the same nodes are merged as well, whatever their counts. -/
theorem exists_mergeEdges_of_samePairs {result : List Edge}
    (h : mergeEdges nodes [] edges = .ok result) (same : SamePairs edges others)
    (counted : ∀ edge ∈ others, edge.count ≠ 0) :
    ∃ merged, mergeEdges nodes [] others = .ok merged ∧ SamePairs result merged := by
  have sound := exists_mergeEdges_iff.1 ⟨result, h⟩
  obtain ⟨merged, ok⟩ : ∃ merged, mergeEdges nodes [] others = .ok merged := by
    refine exists_mergeEdges_iff.2 fun other mem => ?_
    obtain ⟨edge, edgeMem, caller, callee⟩ := same.exists_edge mem
    have joined := (edgeFault?_eq_none_iff.1 (sound edge edgeMem)).2
    rw [Joined, caller, callee] at joined
    exact edgeFault?_eq_none_iff.2 ⟨counted other mem, joined⟩
  refine ⟨merged, ok, fun pair => ?_⟩
  rw [mem_mergeEdges_iff h, mem_mergeEdges_iff ok, same pair]

theorem linkNode_congr (same : SamePairs edges others) :
    linkNode nodes edges = linkNode nodes others := by
  funext node
  have calls : (linkNode nodes edges node).calls = (linkNode nodes others node).calls := by
    refine IdSet.ext fun id => ?_
    simp only [mem_linkNode_calls, exists_edge_iff, same (node.id, id)]
  have calledBy : (linkNode nodes edges node).calledBy = (linkNode nodes others node).calledBy := by
    refine IdSet.ext fun id => ?_
    simp only [mem_linkNode_calledBy, and_comm (b := _ = id), exists_edge_iff, same (id, node.id)]
  change { node with
    calls := (linkNode nodes edges node).calls
    calledBy := (linkNode nodes edges node).calledBy } = linkNode nodes others node
  rw [calls, calledBy]
  rfl

theorem linkNodes_congr (same : SamePairs edges others) :
    linkNodes nodes edges = linkNodes nodes others := by
  unfold linkNodes
  rw [linkNode_congr same]

theorem edgeMismatch?_congr {edge other : Edge} (caller : edge.caller = other.caller)
    (callee : edge.callee = other.callee) :
    edgeMismatch? nodes edge = edgeMismatch? nodes other := by
  unfold edgeMismatch?
  rw [caller, callee]

theorem checkNodes_of_samePairs {checked : List Node} (same : SamePairs edges others)
    (h : checkNodes nodes edges = .ok checked) : checkNodes nodes others = .ok checked := by
  obtain ⟨eq, matched, agreed⟩ := checkNodes_eq_ok_iff.1 h
  refine checkNodes_eq_ok_iff.2 ⟨eq, fun other mem => ?_, agreed⟩
  obtain ⟨edge, edgeMem, caller, callee⟩ := same.exists_edge mem
  rw [← edgeMismatch?_congr caller callee]
  exact matched edge edgeMem

end

/-- Whether two drafts say the same, up to order, repetition and the counts of calls. -/
structure Rephrases (draft other : Draft) : Prop where
  nodes : draft.nodes.Perm other.nodes
  pairs : SamePairs draft.edges other.edges
  counted : ∀ edge ∈ other.edges, edge.count ≠ 0
  entryPoints : ∀ id, id ∈ draft.entryPoints ↔ id ∈ other.entryPoints
  lenient : draft.lenient = other.lenient
  detectEntryPoints : draft.detectEntryPoints = other.detectEntryPoints

theorem Rephrases.entryPoints_eq_nil_iff {draft other : Draft} (same : draft.Rephrases other) :
    draft.entryPoints = [] ↔ other.entryPoints = [] := by
  simp only [List.eq_nil_iff_forall_not_mem, same.entryPoints]

theorem uncalledNodes_congr {g h : CallGraph} (eq : g.nodes = h.nodes) :
    g.uncalledNodes = h.uncalledNodes := by
  unfold CallGraph.uncalledNodes
  rw [eq]

theorem Rephrases.build {draft other : Draft} {g : CallGraph} (same : draft.Rephrases other)
    (h : draft.build = .ok g) :
    ∃ twin, other.build = .ok twin ∧ twin.nodes = g.nodes ∧ twin.entryPoints = g.entryPoints := by
  obtain ⟨placed, merged, nodes, entryPoints, hplaced, hmerged, hnodes, hentries, eq⟩ :=
    build_eq_ok_iff.1 h
  obtain ⟨otherMerged, hotherMerged, pairs⟩ :=
    exists_mergeEdges_of_samePairs hmerged same.pairs same.counted
  have hotherNodes : (if other.lenient then linkNodes placed otherMerged
      else checkNodes placed otherMerged) = .ok nodes := by
    rw [← same.lenient]
    split at hnodes
    · rw [if_pos ‹_›, ← linkNodes_congr pairs]
      exact hnodes
    · rw [if_neg ‹_›]
      exact checkNodes_of_samePairs pairs hnodes
  have known := (resolveEntries_eq_ok_iff.1 hentries).2
  have hotherEntries := resolveEntries_eq_ok_iff.2
    ⟨rfl, fun id mem => known id ((same.entryPoints id).2 mem)⟩
  obtain ⟨twin, built, twinNodes⟩ : ∃ twin, other.build = .ok twin ∧ twin.nodes = nodes :=
    ⟨_, build_eq_ok_iff.2 ⟨placed, otherMerged, nodes, _, placeNodes_of_perm same.nodes hplaced,
      hotherMerged, hotherNodes, hotherEntries, rfl⟩, withDetected_nodes ..⟩
  have sameNodes : twin.nodes = g.nodes := by rw [twinNodes, ← eq, withDetected_nodes]
  refine ⟨twin, built, sameNodes, IdSet.ext fun id => ?_⟩
  rw [build_entryPoints built, build_entryPoints h, IdSet.mem_ofList, IdSet.mem_ofList,
    uncalledNodes_congr sameNodes]
  -- Both drafts list entry points or both detect them, and then from the same nodes.
  by_cases detected : draft.detectEntryPoints = true ∧ draft.entryPoints = []
  · have otherDetected : other.detectEntryPoints = true ∧ other.entryPoints = [] :=
      ⟨same.detectEntryPoints ▸ detected.1, same.entryPoints_eq_nil_iff.1 detected.2⟩
    rw [if_pos detected, if_pos otherDetected]
  · have otherGiven : ¬(other.detectEntryPoints = true ∧ other.entryPoints = []) := by
      rwa [← same.detectEntryPoints, ← same.entryPoints_eq_nil_iff]
    rw [if_neg detected, if_neg otherGiven]
    exact (same.entryPoints id).symm

end Draft

theorem CallGraph.Closed.nodes_eq_of_mem_iff {g h : CallGraph} (closed : g.Closed)
    (closedToo : h.Closed) (same : ∀ node, node ∈ g.nodes ↔ node ∈ h.nodes) :
    g.nodes = h.nodes := by
  have nodup : g.nodes.Nodup := .of_map _ closed.nodup_ids
  have nodupToo : h.nodes.Nodup := .of_map _ closedToo.nodup_ids
  have perm : g.nodes.Perm h.nodes := (List.perm_ext_iff_of_nodup nodup nodupToo).2 same
  exact Draft.eq_of_perm_of_sorted perm closed.sorted closedToo.sorted

end CodeReading
