import CodeReading.Chain.Measure
import CodeReading.Proofs.Graph.Coherence

set_option autoImplicit false

namespace CodeReading

namespace Draft

variable {nodes : List Node} {edges others merged result : List Edge} {edge : Edge}
  {pair : NodeId × NodeId}

def totalCount (edges : List Edge) (pair : NodeId × NodeId) : Nat :=
  Measure.total ((edges.filter fun edge => edge.ends = pair).map fun edge => edge.count.toNat)

theorem totalCount_concat (edges : List Edge) (edge : Edge) (pair : NodeId × NodeId) :
    totalCount (edges ++ [edge]) pair
      = totalCount edges pair + if edge.ends = pair then edge.count.toNat else 0 := by
  unfold totalCount
  rw [List.filter_append, List.map_append, Measure.total_append]
  by_cases same : edge.ends = pair
  · simp [same, Measure.total]
  · simp [same, Measure.total]

theorem totalCount_eq_zero (new : pair ∉ edges.map Edge.ends) : totalCount edges pair = 0 := by
  have none : (edges.filter fun edge => edge.ends = pair) = [] := by
    rw [List.filter_eq_nil_iff]
    intro edge mem same
    exact new (List.mem_map.2 ⟨edge, mem, of_decide_eq_true same⟩)
  rw [totalCount, none]
  rfl

theorem toNat_addCounts (a b : UInt32) :
    (addCounts a b).toNat = min (UInt32.size - 1) (a.toNat + b.toNat) := by
  unfold addCounts
  split
  · rename_i fits
    rw [UInt32.toNat_add, Nat.mod_eq_of_lt fits]
    omega
  · rename_i beyond
    have last : (UInt32.ofNat (UInt32.size - 1)).toNat = UInt32.size - 1 := rfl
    rw [last]
    omega

/-- Whether merged edges are the given ones, one for each pair in the order of the pairs, with all
    their counts as far as a count goes. -/
structure Tallies (edges merged : List Edge) : Prop where
  ends : merged.map Edge.ends = (edges.map Edge.ends).eraseDups
  counts : ∀ edge ∈ merged,
    edge.count.toNat = min (UInt32.size - 1) (totalCount edges edge.ends)

theorem Tallies.mem_ends_iff (tallies : Tallies edges merged) :
    pair ∈ merged.map Edge.ends ↔ pair ∈ edges.map Edge.ends := by
  rw [tallies.ends, List.mem_eraseDups]

theorem eraseDups_concat (pairs : List (NodeId × NodeId)) (pair : NodeId × NodeId) :
    (pairs ++ [pair]).eraseDups
      = if pair ∈ pairs then pairs.eraseDups else pairs.eraseDups ++ [pair] := by
  rw [List.eraseDups_append]
  by_cases old : pair ∈ pairs
  · simp [List.removeAll, old]
  · simp [List.removeAll, old, List.eraseDups_cons]

theorem tally_cons_of_ends {first : Edge} (same : first.ends = edge.ends) (merged : List Edge) :
    tally edge (first :: merged)
      = { first with count := addCounts first.count edge.count } :: merged := by
  rw [tally, if_pos (Edge.joins_iff.2 same)]

theorem tally_cons_of_ends_ne {first : Edge} (apart : first.ends ≠ edge.ends)
    (merged : List Edge) : tally edge (first :: merged) = first :: tally edge merged := by
  rw [tally, if_neg fun joins => apart (Edge.joins_iff.1 joins)]

theorem counts_tally (distinct : (merged.map Edge.ends).Nodup)
    (old : ∀ other ∈ merged,
      other.count.toNat = min (UInt32.size - 1) (totalCount edges other.ends))
    (new : edge.ends ∉ merged.map Edge.ends → totalCount edges edge.ends = 0) :
    ∀ other ∈ tally edge merged,
      other.count.toNat = min (UInt32.size - 1) (totalCount (edges ++ [edge]) other.ends) := by
  -- The edge counts for its own pair only.
  have kept : ∀ other : Edge, other.ends ≠ edge.ends →
      totalCount (edges ++ [edge]) other.ends = totalCount edges other.ends := by
    intro other apart
    rw [totalCount_concat, if_neg (Ne.symm apart), Nat.add_zero]
  induction merged with
  | nil =>
    intro other mem
    cases List.mem_singleton.1 mem
    have fits := edge.count.toNat_lt_size
    rw [totalCount_concat, if_pos rfl, new List.not_mem_nil]
    omega
  | cons first merged ih =>
    rw [List.map_cons, List.nodup_cons] at distinct
    rw [List.forall_mem_cons] at old
    by_cases same : first.ends = edge.ends
    · rw [tally_cons_of_ends same, List.forall_mem_cons]
      constructor
      · change (addCounts first.count edge.count).toNat = min _ (totalCount _ first.ends)
        rw [toNat_addCounts, old.1, totalCount_concat, if_pos same.symm]
        omega
      · intro other mem
        have apart : other.ends ≠ edge.ends := by
          intro twin
          exact distinct.1 (same.trans twin.symm ▸ List.mem_map_of_mem mem)
        rw [kept other apart]
        exact old.2 other mem
    · rw [tally_cons_of_ends_ne same, List.forall_mem_cons]
      constructor
      · rw [kept first same]
        exact old.1
      · refine ih distinct.2 old.2 fun missing => new ?_
        rw [List.map_cons, List.mem_cons, not_or]
        exact ⟨Ne.symm same, missing⟩

theorem Tallies.concat (tallies : Tallies edges merged) (distinct : (merged.map Edge.ends).Nodup)
    (edge : Edge) : Tallies (edges ++ [edge]) (tally edge merged) where
  ends := by
    rw [map_ends_tally, List.map_append, List.map_singleton, eraseDups_concat, tallies.ends]
    simp only [List.mem_eraseDups]
  counts := by
    refine counts_tally distinct tallies.counts fun missing => totalCount_eq_zero fun given => ?_
    exact missing (tallies.mem_ends_iff.2 given)

theorem Tallies.mergeEdges (tallies : Tallies edges merged)
    (distinct : (merged.map Edge.ends).Nodup) (h : mergeEdges nodes merged others = .ok result) :
    Tallies (edges ++ others) result := by
  induction others generalizing edges merged with
  | nil =>
    cases h
    rw [List.append_nil]
    exact tallies
  | cons edge others ih =>
    unfold Draft.mergeEdges at h
    split at h
    · cases h
    · have step := ih (tallies.concat distinct edge) (nodup_map_ends_tally distinct) h
      rwa [List.append_assoc, List.singleton_append] at step

theorem tallies_of_mergeEdges (h : Draft.mergeEdges nodes [] edges = .ok result) :
    Tallies edges result := by
  have start : Tallies [] [] := ⟨rfl, List.forall_mem_nil _⟩
  exact start.mergeEdges .nil h

def tallied (edges : List Edge) (pair : NodeId × NodeId) : Edge :=
  ⟨pair.1, pair.2, UInt32.ofNat (min (UInt32.size - 1) (totalCount edges pair))⟩

theorem Tallies.eq_map_tallied (tallies : Tallies edges merged) :
    merged = (edges.map Edge.ends).eraseDups.map (tallied edges) := by
  rw [← tallies.ends, List.map_map]
  refine (List.map_id merged).symm.trans (List.map_congr_left fun edge mem => ?_)
  obtain ⟨caller, callee, count⟩ := edge
  have counted := tallies.counts _ mem
  change Edge.mk caller callee count
    = ⟨caller, callee, UInt32.ofNat (min (UInt32.size - 1) (totalCount edges (caller, callee)))⟩
  rw [Edge.mk.injEq]
  refine ⟨rfl, rfl, ?_⟩
  change count.toNat = min _ (totalCount edges (caller, callee)) at counted
  rw [← counted, UInt32.ofNat_toNat]

theorem sorted_impliedEdges (sorted : (nodes.map (·.id)).Pairwise (· < ·)) (merged : List Edge) :
    ((nodes.flatMap (impliedEdges merged)).map Edge.ends).Pairwise
      (Prod.Lex (· < ·) (· < ·)) := by
  rw [List.map_flatMap, List.pairwise_flatMap]
  constructor
  · intro node _
    rw [map_ends_impliedEdges, List.pairwise_map]
    exact (node.calls.sorted.filter _).imp fun less => Prod.Lex.right _ less
  · refine (List.pairwise_map.1 sorted).imp fun {node other} less pair mem otherPair otherMem => ?_
    obtain ⟨caller, callee⟩ := pair
    obtain ⟨otherCaller, otherCallee⟩ := otherPair
    cases (mem_impliedEdges_iff.1 mem).1
    cases (mem_impliedEdges_iff.1 otherMem).1
    exact Prod.Lex.left _ _ less

def single (pair : NodeId × NodeId) : Edge :=
  ⟨pair.1, pair.2, 1⟩

theorem impliedEdges_eq (nodes : List Node) (merged : List Edge) :
    nodes.flatMap (impliedEdges merged)
      = ((nodes.flatMap (impliedEdges merged)).map Edge.ends).map single := by
  rw [List.map_map]
  refine (List.map_id _).symm.trans (List.map_congr_left fun edge mem => ?_)
  obtain ⟨node, -, implied⟩ := List.mem_flatMap.1 mem
  obtain ⟨callee, -, rfl⟩ := List.mem_map.1 implied
  rfl

theorem tallies_of_build {draft : Draft} {g : CallGraph} (h : draft.build = .ok g) :
    ∃ merged, Tallies draft.edges merged ∧ g.edges = allEdges g.nodes merged := by
  obtain ⟨placed, merged, nodes, entryPoints, -, hmerged, -, -, rfl⟩ := build_eq_ok_iff.1 h
  refine ⟨merged, tallies_of_mergeEdges hmerged, ?_⟩
  rw [withDetected_edges, withDetected_nodes]
  rfl

/-- The edges of a built graph: the given ones, each pair once and in the order in which the pairs
    were first given, with the sum of their counts up to the largest count; then, by caller and by
    callee, a single one for each other call. -/
theorem build_tallies {draft : Draft} {g : CallGraph} (h : draft.build = .ok g) :
    ∃ implied : List (NodeId × NodeId),
      g.edges = (draft.edges.map Edge.ends).eraseDups.map (tallied draft.edges)
        ++ implied.map single ∧
      implied.Pairwise (Prod.Lex (· < ·) (· < ·)) ∧
      ∀ caller callee, (caller, callee) ∈ implied ↔
        g.Calls caller callee ∧ (caller, callee) ∉ draft.edges.map Edge.ends := by
  have built : g.Built := ⟨draft, h⟩
  have closed := built.closed
  obtain ⟨merged, tallies, edges⟩ := tallies_of_build h
  refine ⟨(g.nodes.flatMap (impliedEdges merged)).map Edge.ends, ?_, ?_, ?_⟩
  · rw [edges, allEdges, ← tallies.eq_map_tallied, ← impliedEdges_eq]
  · exact sorted_impliedEdges closed.sorted merged
  · intro caller callee
    rw [List.map_flatMap, List.mem_flatMap, closed.calls_iff, ← tallies.mem_ends_iff]
    constructor
    · rintro ⟨node, mem, implied⟩
      obtain ⟨same, call, new⟩ := mem_impliedEdges_iff.1 implied
      exact ⟨⟨node, mem, same.symm, call⟩, new⟩
    · rintro ⟨⟨node, mem, rfl, call⟩, new⟩
      exact ⟨node, mem, mem_impliedEdges_iff.2 ⟨rfl, call, new⟩⟩

/-- One pair given twice, with more calls than can be counted, and two calls that no edge tells of,
    one of them told by its callee only. -/
def crowdedDraft : Draft where
  nodes := [{ id := "serve", name := "serve", kind := .method, calledBy := IdSet.ofList ["main"] },
    { id := "main", name := "main", kind := .function },
    { id := "load", name := "load", kind := .function, calls := IdSet.ofList ["serve"] }]
  edges := [⟨"main", "load", 4294967295⟩, ⟨"load", "load", 1⟩, ⟨"main", "load", 3⟩]
  lenient := true

theorem build_tallies_crowded : ∃ g, crowdedDraft.build = .ok g ∧
    g.edges = [⟨"main", "load", 4294967295⟩, ⟨"load", "load", 1⟩, ⟨"load", "serve", 1⟩,
      ⟨"main", "serve", 1⟩] ∧
    ∃ implied : List (NodeId × NodeId),
      g.edges = [tallied crowdedDraft.edges ("main", "load"),
        tallied crowdedDraft.edges ("load", "load")] ++ implied.map single ∧
      implied.Pairwise (Prod.Lex (· < ·) (· < ·)) ∧
      ∀ caller callee, (caller, callee) ∈ implied ↔
        g.Calls caller callee ∧ (caller, callee) ∉ crowdedDraft.edges.map Edge.ends := by
  obtain ⟨g, h⟩ : ∃ g, crowdedDraft.build = .ok g := ⟨_, rfl⟩
  have edges : g.edges = [⟨"main", "load", 4294967295⟩, ⟨"load", "load", 1⟩,
      ⟨"load", "serve", 1⟩, ⟨"main", "serve", 1⟩] := by
    cases h
    decide +kernel
  have pairs : (crowdedDraft.edges.map Edge.ends).eraseDups
      = [("main", "load"), ("load", "load")] := by
    decide +kernel
  obtain ⟨implied, whole, sorted, isImplied⟩ := build_tallies h
  rw [pairs] at whole
  exact ⟨g, h, edges, implied, whole, sorted, isImplied⟩

end Draft

end CodeReading
