import CodeReading.Proofs.Chain.Enumeration
import CodeReading.Proofs.Graph.Reachability
import Mathlib.Logic.Function.Iterate

set_option autoImplicit false

/-!
# The rounds of a search

A search goes on in rounds, each of which takes one node off the queue. The nodes that wait and the
edges that leave unvisited nodes are the work that is left: every round does one piece of it, also
where nodes wait more than once. So a search ends, with the nodes that edges lead to from its
sources.
-/
namespace CodeReading.CallGraph

variable {g : CallGraph} {visited queue sources : List NodeId} {id target : NodeId}

def advance (g : CallGraph) : List NodeId × List NodeId → List NodeId × List NodeId
  | (visited, []) => (visited, [])
  | (visited, id :: queue) =>
    if id ∈ g.ids ∧ id ∉ visited then (id :: visited, queue ++ g.successors id)
    else (visited, queue)

def edgesAhead (g : CallGraph) (visited : List NodeId) : List Edge :=
  g.edges.filter fun edge => edge.caller ∉ visited

/-- The work that is left: nodes that wait, and edges that may make more nodes wait. -/
def workLeft (g : CallGraph) (state : List NodeId × List NodeId) : Nat :=
  state.2.length + (g.edgesAhead state.1).length

/-- A visit turns the edges that leave a node into nodes that wait. -/
theorem length_edgesAhead_visit (fresh : id ∉ visited) :
    (g.edgesAhead visited).length
      = (g.successors id).length + (g.edgesAhead (id :: visited)).length := by
  have leaving : (g.edgesAhead visited).filter (·.caller == id)
      = g.edges.filter (·.caller == id) := by
    unfold edgesAhead
    rw [List.filter_filter]
    refine List.filter_congr fun edge _ => ?_
    by_cases leaves : edge.caller = id <;> simp [leaves, fresh]
  have ahead : (g.edgesAhead visited).filter (!·.caller == id) = g.edgesAhead (id :: visited) := by
    unfold edgesAhead
    rw [List.filter_filter]
    refine List.filter_congr fun edge _ => ?_
    by_cases leaves : edge.caller = id <;> simp [leaves]
  unfold successors
  rw [List.length_map, ← leaving, ← ahead]
  exact List.length_eq_length_filter_add fun edge : Edge => edge.caller == id

theorem advance_visit (new : id ∈ g.ids ∧ id ∉ visited) :
    g.advance (visited, id :: queue) = (id :: visited, queue ++ g.successors id) :=
  if_pos new

theorem advance_skip (stale : ¬(id ∈ g.ids ∧ id ∉ visited)) :
    g.advance (visited, id :: queue) = (visited, queue) :=
  if_neg stale

theorem workLeft_advance (g : CallGraph) (visited : List NodeId) (id : NodeId)
    (queue : List NodeId) :
    g.workLeft (visited, id :: queue) = 1 + g.workLeft (g.advance (visited, id :: queue)) := by
  by_cases new : id ∈ g.ids ∧ id ∉ visited
  · have turned := length_edgesAhead_visit (g := g) new.2
    rw [advance_visit new]
    simp only [workLeft, List.length_cons, List.length_append, turned]
    omega
  · rw [advance_skip new]
    simp only [workLeft, List.length_cons]
    omega

/-- A search has emptied its queue after one round for each piece of work that it has done. -/
theorem exists_rounds (g : CallGraph) (visited queue : List NodeId) :
    ∃ rounds, g.advance^[rounds] (visited, queue) = (g.search visited queue, []) ∧
      g.workLeft (visited, queue) = rounds + g.workLeft (g.search visited queue, []) := by
  fun_induction search g visited queue with
  | case1 visited => exact ⟨0, rfl, (Nat.zero_add _).symm⟩
  | case2 visited id queue new ih =>
    obtain ⟨rounds, run, work⟩ := ih
    refine ⟨rounds + 1, ?_, ?_⟩
    · rw [Function.iterate_succ_apply, advance_visit new, run]
    · rw [workLeft_advance, advance_visit new, work]
      omega
  | case3 visited id queue stale ih =>
    obtain ⟨rounds, run, work⟩ := ih
    refine ⟨rounds + 1, ?_, ?_⟩
    · rw [Function.iterate_succ_apply, advance_skip stale, run]
    · rw [workLeft_advance, advance_skip stale, work]
      omega

theorem search_advance (g : CallGraph) (state : List NodeId × List NodeId) :
    g.search (g.advance state).1 (g.advance state).2 = g.search state.1 state.2 := by
  obtain ⟨visited, queue⟩ := state
  cases queue with
  | nil => rfl
  | cons id queue =>
    rw [search]
    by_cases new : id ∈ g.ids ∧ id ∉ visited
    · rw [advance_visit new, dif_pos new]
    · rw [advance_skip new, dif_neg new]

theorem search_rounds (g : CallGraph) (rounds : Nat) (state : List NodeId × List NodeId) :
    g.search (g.advance^[rounds] state).1 (g.advance^[rounds] state).2
      = g.search state.1 state.2 := by
  induction rounds generalizing state with
  | zero => rfl
  | succ rounds ih => rw [Function.iterate_succ_apply, ih, search_advance]

theorem reachable_of_rounds {rounds : Nat}
    (run : g.advance^[rounds] ([], sources) = (visited, [])) : g.reachable sources = visited := by
  have same := g.search_rounds rounds ([], sources)
  rw [run, search] at same
  exact same.symm

theorem workLeft_start (g : CallGraph) (sources : List NodeId) :
    g.workLeft ([], sources) = sources.length + g.edges.length := by
  simp [workLeft, edgesAhead]

def HasEdge (g : CallGraph) (caller callee : NodeId) : Prop :=
  ∃ edge ∈ g.edges, edge.caller = caller ∧ edge.callee = callee

theorem hasEdge_iff {caller callee : NodeId} :
    g.HasEdge caller callee ↔ callee ∈ g.successors caller := by
  simp [HasEdge, successors, and_assoc]

theorem reaches_eq (g : CallGraph) : g.Reaches = Relation.ReflTransGen g.HasEdge := by
  unfold Reaches
  simp only [← hasEdge_iff]

/-- A search from any sources ends, after no more rounds than there are sources and edges, and it
    has then visited the nodes that a path of edges leads to from a known source. -/
theorem isReachableFrom_decides (built : g.Built) (sources : List NodeId) (target : NodeId) :
    (∃ rounds ≤ sources.length + g.edges.length, ∃ visited,
      g.advance^[rounds] ([], sources) = (visited, []) ∧
      (g.isReachableFrom sources target = true ↔ target ∈ visited)) ∧
    (g.isReachableFrom sources target = true ↔ target ∈ g.ids ∧
      ∃ source ∈ sources, source ∈ g.ids ∧ Relation.ReflTransGen g.HasEdge source target) := by
  constructor
  · obtain ⟨rounds, run, work⟩ := g.exists_rounds [] sources
    rw [workLeft_start] at work
    exact ⟨rounds, by omega, _, run, decide_eq_true_iff⟩
  · rw [built.bounded.isReachableFrom_iff, ← reaches_eq]
    constructor
    · rintro ⟨source, mem, known, path⟩
      exact ⟨built.bounded.reaches_known known path, source, mem, known, path⟩
    · rintro ⟨-, found⟩
      exact found

theorem isReachableFrom_decides_circular : circularGraph.Built ∧
    circularGraph.isReachableFrom ["ghost", "emit", "emit"] "parse" = true ∧
    circularGraph.isReachableFrom ["ghost"] "ghost" = false ∧
    ∃ source ∈ ["ghost", "emit", "emit"], source ∈ circularGraph.ids ∧
      Relation.ReflTransGen circularGraph.HasEdge source "parse" := by
  have ids : circularGraph.ids = ["emit", "main", "parse"] := by decide +kernel
  have edge : ∀ pair ∈ [("emit", "main"), ("main", "parse")],
      circularGraph.HasEdge pair.1 pair.2 := by
    unfold HasEdge
    decide +kernel
  simp only [List.forall_mem_cons] at edge
  obtain ⟨up, down, -⟩ := edge
  obtain ⟨-, decided⟩ :=
    isReachableFrom_decides circularGraph_built ["ghost", "emit", "emit"] "parse"
  obtain ⟨-, alone⟩ := isReachableFrom_decides circularGraph_built ["ghost"] "ghost"
  have reached : circularGraph.isReachableFrom ["ghost", "emit", "emit"] "parse" = true :=
    decided.2 ⟨by simp [ids], "emit", by simp, by simp [ids], .tail (.single up) down⟩
  refine ⟨circularGraph_built, reached, ?_, (decided.1 reached).2⟩
  rw [← Bool.not_eq_true, alone, ids]
  rintro ⟨known, -⟩
  revert known
  decide

end CodeReading.CallGraph
