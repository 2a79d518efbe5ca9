import CodeReading.Proofs.Curriculum.Assembly
import CodeReading.Proofs.Graph.Depth
import CodeReading.Proofs.Graph.Rephrasing

set_option autoImplicit false

/-!
# Independence from the list of edges

Two built graphs with the same nodes and entry points have edges between the same nodes, since the
call sets tell which; only the order of their edges and the counts can differ. Chains, scores and
challenges are read off the call sets and never look at the edges. Prerequisites and depths follow
the edges, but what they reach in the end does not depend on the order.
-/
namespace CodeReading

def CallGraph.withEdges (g : CallGraph) (edges : List Edge) : CallGraph :=
  { g with edges }

section
variable {g : CallGraph} {edges : List Edge}

theorem CallGraph.completions_withEdges (maxLength : Nat) :
    (g.withEdges edges).completions maxLength = g.completions maxLength := by
  funext path
  induction path using extension_induction g maxLength with
  | step path ih =>
    have same : (g.withEdges edges).extensions maxLength path = g.extensions maxLength path := rfl
    by_cases finished : g.extensions maxLength path = []
    · rw [completions_finished finished, completions_finished (same.trans finished)]
    · rw [completions_extended finished, completions_extended (same ▸ finished), same]
      exact List.flatMap_congr ih

theorem CallGraph.enumerate_withEdges : (g.withEdges edges).enumerate = g.enumerate := by
  funext maxLength limit
  rw [enumerate_eq, enumerate_eq, maximalPaths, maximalPaths, completions_withEdges]
  rfl

theorem RankingConfig.rank_withEdges (config : RankingConfig) :
    config.rank (g.withEdges edges) = config.rank g := by
  funext maxDepth maxCandidates maxChains
  have score : config.importance (g.withEdges edges) = config.importance g := rfl
  unfold rank
  rw [CallGraph.enumerate_withEdges, score]

theorem Material.generate_withEdges (source : SourceLookup) (config : ChallengeConfig) :
    (Material.mk (g.withEdges edges) source config).generate
      = (Material.mk g source config).generate := by
  funext chain kind
  cases kind <;> rfl

end

namespace CallGraph

variable {g h : CallGraph} {edges : List Edge}

theorem mem_successors_withEdges (built : g.Built) (twin : (g.withEdges edges).Built)
    (caller callee : NodeId) :
    callee ∈ g.successors caller ↔ callee ∈ (g.withEdges edges).successors caller := by
  rw [built.mem_successors_iff, twin.mem_successors_iff]
  rfl

theorem isReachableFrom_withEdges (built : g.Built) (twin : (g.withEdges edges).Built) :
    (g.withEdges edges).isReachableFrom = g.isReachableFrom := by
  symm
  exact isReachableFrom_congr built.bounded rfl (mem_successors_withEdges built twin)

theorem callDepth_withEdges (built : g.Built) (twin : (g.withEdges edges).Built) :
    (g.withEdges edges).callDepth = g.callDepth := by
  symm
  exact callDepth_congr built.bounded built.closed.nodup_ids rfl
    (mem_successors_withEdges built twin)

theorem length_edges_withEdges (built : g.Built) (twin : (g.withEdges edges).Built) :
    edges.length = g.edges.length := by
  have perm : (g.withEdges edges).pairs.Perm g.pairs := by
    refine (List.perm_ext_iff_of_nodup twin.nodup_pairs built.nodup_pairs).2 ?_
    rintro ⟨caller, callee⟩
    rw [twin.mem_pairs_iff, built.mem_pairs_iff]
    rfl
  have lengths := perm.length_eq
  rwa [pairs, pairs, List.length_map, List.length_map] at lengths

theorem stats_withEdges (built : g.Built) (twin : (g.withEdges edges).Built) :
    (g.withEdges edges).stats = g.stats := by
  have depths : depthOf (g.withEdges edges).depths = depthOf g.depths :=
    callDepth_withEdges built twin
  have count : (g.withEdges edges).edges.length = g.edges.length :=
    length_edges_withEdges built twin
  simp only [stats, depths, count]
  rfl

end CallGraph

namespace Project

variable {p : Project} {edges : List Edge}

def withEdges (p : Project) (edges : List Edge) : Project :=
  { p with graph := p.graph.withEdges edges }

theorem prerequisites_withEdges (built : p.graph.Built) (twin : (p.withEdges edges).graph.Built) :
    (p.withEdges edges).prerequisites = p.prerequisites := by
  funext previous chain
  have reachable : (p.withEdges edges).graph.isReachableFrom = p.graph.isReachableFrom :=
    CallGraph.isReachableFrom_withEdges built twin
  unfold prerequisites
  rw [reachable]

theorem level_withEdges (built : p.graph.Built) (twin : (p.withEdges edges).graph.Built) :
    (p.withEdges edges).level = p.level := by
  funext id previous chain tier challenges
  unfold level
  rw [prerequisites_withEdges built twin]
  rfl

theorem challenges_withEdges : (p.withEdges edges).challenges = p.challenges := by
  funext chain tier
  have make : (p.withEdges edges).material.generate = p.material.generate :=
    Material.generate_withEdges p.source p.config.challenges
  unfold challenges
  rw [make]
  rfl

theorem addChain_withEdges (built : p.graph.Built) (twin : (p.withEdges edges).graph.Built) :
    (p.withEdges edges).addChain = p.addChain := by
  funext curriculum ranked
  unfold addChain
  rw [challenges_withEdges, level_withEdges built twin]
  rfl

theorem generate_withEdges (built : p.graph.Built) (twin : (p.withEdges edges).graph.Built) :
    (p.withEdges edges).generate = p.generate := by
  have ranked : (p.withEdges edges).ranked = p.ranked := by
    unfold ranked
    exact congrFun (congrFun (congrFun (RankingConfig.rank_withEdges _) _) _) _
  unfold generate
  rw [ranked, addChain_withEdges built twin]
  rfl

end Project

namespace CallGraph

variable {g h : CallGraph}

/-- Whether curricula, rankings, reachability, depths and measures of two graphs are the same.
    Depths are also the same along any orders of their components. -/
structure Alike (g h : CallGraph) : Prop where
  generate : ∀ (source : SourceLookup) (config : Config) (overflow : Overflow),
    (Project.mk g source config overflow).generate = (Project.mk h source config overflow).generate
  rank : ∀ (config : RankingConfig) (maxDepth maxCandidates maxChains : Nat),
    config.rank g maxDepth maxCandidates maxChains = config.rank h maxDepth maxCandidates maxChains
  isReachableFrom : ∀ sources target,
    g.isReachableFrom sources target = h.isReachableFrom sources target
  callDepth : ∀ id, g.callDepth id = h.callDepth id
  depthsAlong : ∀ components others, g.IsComponentOrder components → h.IsComponentOrder others →
    ∀ id, depthOf (g.depthsAlong components) id = depthOf (h.depthsAlong others) id
  stats : g.stats = h.stats

theorem Built.alike_withEdges (built : g.Built) {edges : List Edge}
    (twin : (g.withEdges edges).Built) : g.Alike (g.withEdges edges) where
  generate source config overflow :=
    (Project.generate_withEdges (p := ⟨g, source, config, overflow⟩) built twin).symm
  rank config maxDepth maxCandidates maxChains := by rw [RankingConfig.rank_withEdges]
  isReachableFrom sources target := by rw [isReachableFrom_withEdges built twin]
  callDepth id := by rw [callDepth_withEdges built twin]
  depthsAlong components others order otherOrder id := by
    rw [order.depthOf_depthsAlong built.bounded built.closed.nodup_ids,
      otherOrder.depthOf_depthsAlong twin.bounded twin.closed.nodup_ids,
      callDepth_withEdges built twin]
  stats := (stats_withEdges built twin).symm

theorem Closed.nodes_eq (closed : g.Closed) (closedToo : h.Closed)
    (same : ∀ id, g.node? id = h.node? id) : g.nodes = h.nodes := by
  refine closed.nodes_eq_of_mem_iff closedToo fun node => ?_
  have found : g.node? node.id = some node ↔ h.node? node.id = some node := by rw [same]
  rwa [closed.node?_eq_some_iff, closedToo.node?_eq_some_iff, and_iff_left rfl,
    and_iff_left rfl] at found

theorem Built.alike (built : g.Built) (builtToo : h.Built) (nodes : g.nodes = h.nodes)
    (entryPoints : g.entryPoints = h.entryPoints) : g.Alike h := by
  have eq : h = g.withEdges h.edges := by
    unfold withEdges
    rw [nodes, entryPoints]
  rw [eq] at builtToo ⊢
  exact built.alike_withEdges builtToo

/-- Built graphs with the same nodes and entry points are alike, and so are the graphs of drafts,
    which is what documents become, that say the same. -/
theorem built_alike :
    (∀ g h : CallGraph, g.Built → h.Built → (∀ id, g.node? id = h.node? id) →
      g.entryPoints = h.entryPoints → g.Alike h) ∧
    (∀ (draft other : Draft) (g : CallGraph), draft.build = .ok g → draft.Rephrases other →
      ∃ twin, other.build = .ok twin ∧ g.Alike twin) := by
  constructor
  · intro g h built builtToo nodes entryPoints
    exact built.alike builtToo (built.closed.nodes_eq builtToo.closed nodes) entryPoints
  · intro draft other g h same
    obtain ⟨twin, ok, nodes, entryPoints⟩ := same.build h
    exact ⟨twin, ok, Built.alike ⟨draft, h⟩ ⟨other, ok⟩ nodes.symm entryPoints.symm⟩

/-- The circular draft told in another order, with a call and an entry point told twice and other
    counts. -/
def circularRetold : Draft where
  nodes := ["emit", "main", "parse"].map fun id => { id, name := id, kind := .function }
  edges := [⟨"emit", "main", 7⟩, ⟨"main", "emit", 1⟩, ⟨"parse", "emit", 1⟩, ⟨"emit", "main", 2⟩,
    ⟨"main", "parse", 3⟩, ⟨"parse", "parse", 1⟩]
  entryPoints := ["emit", "main", "emit"]
  lenient := true

theorem circularDraft_rephrases : circularDraft.Rephrases circularRetold where
  nodes := by decide +kernel
  pairs pair := by
    have there : circularDraft.edges.map Edge.ends ⊆ circularRetold.edges.map Edge.ends := by
      decide +kernel
    have back : circularRetold.edges.map Edge.ends ⊆ circularDraft.edges.map Edge.ends := by
      decide +kernel
    exact ⟨fun mem => there mem, fun mem => back mem⟩
  counted := by decide +kernel
  entryPoints id := by
    have there : circularDraft.entryPoints ⊆ circularRetold.entryPoints := by decide +kernel
    have back : circularRetold.entryPoints ⊆ circularDraft.entryPoints := by decide +kernel
    exact ⟨fun mem => there mem, fun mem => back mem⟩
  lenient := rfl
  detectEntryPoints := rfl

def circularTwin : CallGraph :=
  circularRetold.build.toOption.getD ⟨[], [], ∅⟩

theorem circularTwin_built : circularTwin.Built :=
  ⟨circularRetold, rfl⟩

/-- Every function of the two circular graphs calls `main` in the end, and is called from it. -/
theorem circular_isComponentOrder (built : g.Built) (ids : g.ids = circularGraph.ids)
    (edges : ∀ pair ∈ [("main", "parse"), ("parse", "emit"), ("emit", "main")], pair ∈ g.pairs) :
    g.IsComponentOrder [g.ids] := by
  have step : ∀ pair ∈ [("main", "parse"), ("parse", "emit"), ("emit", "main")],
      g.Reaches pair.1 pair.2 :=
    fun pair mem => .single (mem_successors_iff.2 (edges pair mem))
  simp only [List.forall_mem_cons] at step
  obtain ⟨down, across, up, -⟩ := step
  have known : g.ids = ["emit", "main", "parse"] := ids.trans (by decide +kernel)
  have hub : "main" ∈ g.ids := by simp [known]
  refine isComponentOrder_ids built.bounded built.closed.nodup_ids hub ?_
  rw [known]
  simp only [List.forall_mem_cons]
  exact ⟨⟨up, down.trans across⟩, ⟨.refl, .refl⟩, ⟨across.trans up, down⟩, by simp⟩

theorem built_alike_circular :
    circularGraph.edges ≠ circularTwin.edges ∧ circularGraph.Alike circularTwin ∧
    (∃ twin, circularRetold.build = .ok twin ∧ circularGraph.Alike twin) ∧
    circularGraph.IsComponentOrder [circularGraph.ids] ∧
    circularTwin.IsComponentOrder [circularTwin.ids] := by
  obtain ⟨graphs, drafts⟩ := built_alike
  have nodes : circularGraph.nodes = circularTwin.nodes := by decide +kernel
  refine ⟨by decide +kernel, ?_, ?_, ?_, ?_⟩
  · refine graphs _ _ circularGraph_built circularTwin_built (fun id => ?_) (by decide +kernel)
    rw [node?, nodes, node?]
  · exact drafts circularDraft circularRetold circularGraph rfl circularDraft_rephrases
  · exact circular_isComponentOrder circularGraph_built rfl (by decide +kernel)
  · exact circular_isComponentOrder circularTwin_built (by decide +kernel) (by decide +kernel)

end CallGraph
end CodeReading
