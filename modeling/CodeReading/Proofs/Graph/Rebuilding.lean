import CodeReading.Graph.Document
import CodeReading.Proofs.Graph.Acceptance

set_option autoImplicit false

namespace CodeReading

namespace Draft

theorem placeNodes_of_sorted {nodes : List Node} (sorted : (nodes.map (·.id)).Pairwise (· < ·)) :
    placeNodes [] nodes = .ok nodes := by
  obtain ⟨placed, ok⟩ : ∃ placed, placeNodes [] nodes = .ok placed :=
    exists_placeNodes (nodup_of_sorted sorted)
  rw [ok, eq_of_perm_of_sorted (placeNodes_perm ok) (placeNodes_sorted ok .nil) sorted]
  rfl

theorem tally_of_new {edge : Edge} {edges : List Edge} (new : edge.ends ∉ edges.map Edge.ends) :
    tally edge edges = edges ++ [edge] := by
  induction edges with
  | nil => rfl
  | cons first edges ih =>
    rw [List.map_cons, List.mem_cons, not_or] at new
    have apart : ¬ first.joins edge.caller edge.callee = true := fun joins =>
      new.1 (Edge.joins_iff.1 joins).symm
    unfold tally
    rw [if_neg apart, ih new.2]
    rfl

theorem mergeEdges_of_nodup {nodes : List Node} {merged edges : List Edge}
    (sound : ∀ edge ∈ edges, edgeFault? nodes edge = none)
    (distinct : ((merged ++ edges).map Edge.ends).Nodup) :
    mergeEdges nodes merged edges = .ok (merged ++ edges) := by
  induction edges generalizing merged with
  | nil => rw [mergeEdges, List.append_nil]
  | cons edge edges ih =>
    rw [List.forall_mem_cons] at sound
    have new : edge.ends ∉ merged.map Edge.ends := by
      rw [List.map_append, List.map_cons, List.nodup_append] at distinct
      exact fun mem => distinct.2.2 _ mem _ List.mem_cons_self rfl
    have split : merged ++ edge :: edges = (merged ++ [edge]) ++ edges := by simp
    unfold mergeEdges
    rw [sound.1, tally_of_new new, split]
    exact ih sound.2 (split ▸ distinct)

theorem impliedEdges_eq_nil {edges : List Edge} {node : Node}
    (told : ∀ callee ∈ node.calls, (node.id, callee) ∈ edges.map Edge.ends) :
    impliedEdges edges node = [] := by
  unfold impliedEdges
  rw [List.map_eq_nil_iff, List.filter_eq_nil_iff]
  intro callee call
  rw [any_joins_iff.2 (told callee call)]
  decide

end Draft

namespace CallGraph

variable {g : CallGraph}

theorem Built.mergeEdges_edges (built : g.Built) :
    Draft.mergeEdges g.nodes [] g.edges = .ok g.edges := by
  refine Draft.mergeEdges_of_nodup (fun edge mem => ?_) built.nodup_pairs
  exact Draft.edgeFault?_eq_none_iff.2 ⟨built.counted edge mem, built.mem_ids_of_mem_edges mem⟩

theorem Built.checkNodes_nodes (built : g.Built) :
    Draft.checkNodes g.nodes g.edges = .ok g.nodes := by
  have distinct := built.closed.nodup_ids
  have mirrored (caller callee : NodeId) :
      ListsCall g.nodes caller callee ↔ ListsCaller g.nodes caller callee := by
    unfold ListsCall ListsCaller
    rw [← built.closed.calls_iff, ← built.closed.calledBy_iff, built.calledBy_iff_calls]
  refine Draft.checkNodes_eq_ok_iff.2 ⟨rfl, fun edge mem => ?_, ?_⟩
  · have call : ListsCall g.nodes edge.caller edge.callee :=
      built.closed.calls_iff.1 (built.calls_of_mem_edges mem)
    exact (Draft.edgeMismatch?_eq_none_iff distinct).2 ⟨call, (mirrored _ _).1 call⟩
  · exact (Draft.nodeMismatch?_eq_none_iff distinct).2 mirrored

theorem Built.flatMap_impliedEdges (built : g.Built) :
    g.nodes.flatMap (Draft.impliedEdges g.edges) = [] := by
  refine List.flatMap_eq_nil_iff.2 fun node mem => Draft.impliedEdges_eq_nil fun callee call => ?_
  exact built.mem_pairs_iff.2 (built.closed.calls_iff.2 ⟨node, mem, rfl, call⟩)

end CallGraph

/-- The document of a graph lists its nodes and entry points in order. Whatever the draft was,
    strict or lenient, it is accepted as it is and builds the same graph, and with it whatever is
    computed from the graph. -/
theorem Document.build_ofGraph {draft : Draft} {g : CallGraph} (h : draft.build = .ok g) :
    ((Document.ofGraph g).nodes.map (·.id)).Pairwise (· < ·) ∧
      (Document.ofGraph g).entryPoints.Pairwise (· < ·) ∧
      (Document.ofGraph g).toDraft.build = .ok g := by
  have built : g.Built := ⟨draft, h⟩
  refine ⟨built.closed.sorted, g.entryPoints.sorted, Draft.build_eq_ok_iff.2 ⟨g.nodes, g.edges,
    g.nodes, g.entryPoints, Draft.placeNodes_of_sorted built.closed.sorted,
    built.mergeEdges_edges, built.checkNodes_nodes, ?_, ?_⟩⟩
  · exact Draft.resolveEntries_eq_ok_iff.2
      ⟨g.entryPoints.ofList_ids.symm, built.closed.entries_known⟩
  · rw [built.flatMap_impliedEdges, List.append_nil]
    rfl

/-- The draft is lenient and detects its entry points, two of its edges are merged and one is
    implied; its document is strict and says all of that. -/
theorem Document.build_ofGraph_manifold : ∃ g, manifoldDraft.build = .ok g ∧
    (Document.ofGraph g).edges = [⟨"main", "load", 5⟩, ⟨"load", "load", 1⟩, ⟨"main", "serve", 1⟩] ∧
    (Document.ofGraph g).entryPoints = ["main"] ∧ (Document.ofGraph g).toDraft.lenient = false ∧
    (Document.ofGraph g).toDraft.build = .ok g := by
  obtain ⟨g, h⟩ : ∃ g, manifoldDraft.build = .ok g := ⟨_, rfl⟩
  obtain ⟨-, -, rebuilt⟩ := Document.build_ofGraph h
  refine ⟨g, h, ?_, ?_, rfl, rebuilt⟩
  · cases h
    decide +kernel
  · cases h
    decide +kernel

end CodeReading
