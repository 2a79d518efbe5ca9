import CodeReading.Proofs.Curriculum.Assembly
import CodeReading.Proofs.Graph.Reachability

set_option autoImplicit false

/-!
# Prerequisites

A level builds on the level right before it exactly when calls lead from the entry of that level to
its own. The search for the new entry starts from every node of the chain before, but all of these
are called from its entry in the end, so the other nodes reach nothing more. Chains that were
dropped in between are not looked at.
-/
namespace CodeReading

namespace CallGraph

/-- Whether zero or more calls lead from one node to another. -/
def CallsOn (g : CallGraph) : NodeId → NodeId → Prop :=
  Relation.ReflTransGen g.Calls

variable {g : CallGraph} {path : Path} {entry target : NodeId}

theorem Built.reaches_eq (built : g.Built) : g.Reaches = g.CallsOn := by
  unfold Reaches CallsOn
  congr
  funext caller callee
  exact propext built.mem_successors_iff

theorem IsPath.callsOn (h : g.IsPath path) (first : path.head? = some entry) :
    ∀ id ∈ path, g.CallsOn entry id := by
  obtain ⟨rest, rfl⟩ := List.head?_eq_some_iff.1 first
  refine h.calls.induction (g.CallsOn entry) _ ?_ fun _ => .refl
  intro caller callee call path
  exact path.tail call

/-- A path reaches what its first node reaches. -/
theorem IsPath.isReachableFrom_iff (built : g.Built) (h : g.IsPath path)
    (first : path.head? = some entry) :
    g.isReachableFrom path target = true ↔ g.CallsOn entry target := by
  rw [built.bounded.isReachableFrom_iff, built.reaches_eq]
  constructor
  · rintro ⟨source, mem, -, onward⟩
    exact (h.callsOn first source mem).trans onward
  · intro onward
    have mem : entry ∈ path := List.mem_of_head? first
    exact ⟨entry, mem, h.known built.closed entry mem, onward⟩

end CallGraph

/-- Whether each level has the level right before it as its prerequisite just when calls lead from
    the entry of that level to its own. -/
structure Curriculum.FollowsCalls (g : CallGraph) (curriculum : Curriculum) : Prop where
  first : ∀ level ∈ curriculum.levels.head?, level.prerequisites = []
  called : ∀ before previous level after,
    curriculum.levels = before ++ previous :: level :: after →
    g.CallsOn previous.entryFunction level.entryFunction → level.prerequisites = [previous.id]
  uncalled : ∀ before previous level after,
    curriculum.levels = before ++ previous :: level :: after →
    ¬g.CallsOn previous.entryFunction level.entryFunction → level.prerequisites = []

namespace Project

variable {p : Project} {chains : List RankedChain}

theorem prerequisites_of_first {level : Level} {after : List Level}
    (h : p.levelsOf chains = level :: after) : level.prerequisites = [] := by
  have split : p.levelsOf chains = [] ++ level :: after := h
  obtain ⟨ranked, -, rfl⟩ := levelsOf_split split
  rfl

theorem prerequisites_of_successive {before after : List Level} {previous level : Level}
    (h : p.levelsOf chains = before ++ previous :: level :: after) :
    level.prerequisites =
      if p.graph.isReachableFrom previous.chain.ids level.entryFunction then [previous.id]
      else [] := by
  rw [List.append_cons] at h
  obtain ⟨ranked, -, rfl⟩ := levelsOf_split h
  have last : (before ++ [previous]).getLast? = some previous := List.getLast?_concat
  rw [last]
  rfl

theorem entry_of_mem_levelsOf {level : Level} (h : level ∈ p.levelsOf chains) :
    level.chain.ids.head? = some level.entryFunction ∧
      ∃ ranked ∈ chains, level.chain = ranked.chain := by
  obtain ⟨ranked, mem, id, previous, rfl⟩ := exists_of_mem_levelsOf h
  exact ⟨List.head?_eq_some_head ranked.chain.nonempty, ranked, mem, rfl⟩

theorem generate_followsCalls (built : p.graph.Built) {curriculum : Curriculum}
    (h : p.generate = .ok curriculum) : curriculum.FollowsCalls p.graph := by
  obtain ⟨-, rfl⟩ := generate_eq_ok h
  -- What the code asks of the whole chain before is decided by its entry alone.
  have linked : ∀ before previous level after,
      p.levelsOf (p.ranked.filter p.teaches) = before ++ previous :: level :: after →
      (p.graph.isReachableFrom previous.chain.ids level.entryFunction = true ↔
        p.graph.CallsOn previous.entryFunction level.entryFunction) := by
    intro before previous level after split
    have mem : previous ∈ p.levelsOf (p.ranked.filter p.teaches) := by simp [split]
    obtain ⟨first, ranked, chosen, eq⟩ := entry_of_mem_levelsOf mem
    have maximal := RankingConfig.isMaximalPath_of_mem_rank built.closed
      (List.mem_filter.1 chosen).1
    rw [← eq] at maximal
    exact maximal.toIsPath.isReachableFrom_iff built first
  refine ⟨?_, ?_, ?_⟩
  · intro level first
    obtain ⟨after, split⟩ := List.head?_eq_some_iff.1 first
    exact prerequisites_of_first split
  · intro before previous level after split onward
    rw [prerequisites_of_successive split, if_pos ((linked _ _ _ _ split).2 onward)]
  · intro before previous level after split apart
    have unreached := fun reached => apart ((linked _ _ _ _ split).1 reached)
    rw [prerequisites_of_successive split, if_neg unreached]

theorem circular_reaches {id : NodeId} (known : id ∈ CallGraph.circularGraph.ids) :
    CallGraph.circularGraph.Reaches "main" id := by
  have step : ∀ pair ∈ [("main", "parse"), ("parse", "emit")],
      CallGraph.circularGraph.Reaches pair.1 pair.2 := fun pair mem =>
    .single (CallGraph.mem_successors_iff.2 ((show [("main", "parse"), ("parse", "emit")]
      ⊆ CallGraph.circularGraph.pairs by decide +kernel) mem))
  simp only [List.forall_mem_cons] at step
  obtain ⟨parse, emit, -⟩ := step
  have ids : CallGraph.circularGraph.ids = ["emit", "main", "parse"] := by decide +kernel
  rw [ids] at known
  simp only [List.mem_cons, List.not_mem_nil, or_false] at known
  obtain rfl | rfl | rfl := known
  · exact parse.trans emit
  · exact .refl
  · exact parse

theorem map_levelsOf_circular {chains : List RankedChain}
    (known : ∀ ranked ∈ chains, ranked.chain ∈ circularChains) :
    (circular.levelsOf chains).map (fun level => (level.id, level.prerequisites))
      = (List.range chains.length).map fun count =>
        (nextId count, if count = 0 then [] else [nextId (count - 1)]) := by
  have main : ∀ chain ∈ circularChains,
      "main" ∈ chain.ids ∧ chain.entry ∈ CallGraph.circularGraph.ids := by
    decide +kernel
  induction chains using List.reverseRecOn with
  | nil => rfl
  | append_singleton chains ranked ih =>
    have before := ih fun other mem => known other (List.mem_append_left _ mem)
    have new : circular.prerequisites (circular.levelsOf chains).getLast? ranked.chain
        = if chains.length = 0 then [] else [nextId (chains.length - 1)] := by
      rcases List.eq_nil_or_concat chains with rfl | ⟨others, last, rfl⟩
      · rfl
      · rw [List.concat_eq_append] at known ⊢
        have reached : circular.graph.isReachableFrom last.chain.ids ranked.chain.entry = true := by
          refine CallGraph.circularGraph_built.bounded.isReachableFrom_iff.2
            ⟨"main", (main _ (known last (by simp))).1, by decide +kernel, ?_⟩
          exact circular_reaches (main _ (known ranked (by simp))).2
        rw [levelsOf_concat, addLevel, List.getLast?_concat, length_levelsOf]
        refine (if_pos reached).trans ?_
        simp [levelOf, level]
    rw [levelsOf_concat, addLevel, List.map_append, before, List.length_append,
      List.length_singleton, List.range_succ, List.map_append, List.map_singleton,
      List.map_singleton, ← new, length_levelsOf]
    rfl

theorem levels_circular {n : UInt64} {curriculum : Curriculum}
    (h : (circular.withMaxLevels n).generate = .ok curriculum) :
    curriculum.levels.map (fun level => (level.id, level.prerequisites))
      = [(⟨1⟩, []), (⟨2⟩, [⟨1⟩]), (⟨3⟩, [⟨2⟩])].take n.toNat := by
  obtain ⟨-, rfl⟩ := generate_eq_ok h
  have known : ∀ ranked ∈ (circular.withMaxLevels n).ranked, ranked.chain ∈ circularChains :=
    fun ranked => RankingConfig.mem_enumerate_of_mem_rank
  have length : (circular.withMaxLevels n).ranked.length = min n.toNat circularChains.length :=
    RankingConfig.length_rank
  have three : circularChains.length = 3 := by decide +kernel
  change (circular.levelsOf ((circular.withMaxLevels n).ranked.filter circular.teaches)).map _ = _
  rw [filter_teaches_circular known, map_levelsOf_circular known, length, three,
    ← List.take_range, List.map_take]
  rfl

theorem generate_followsCalls_circular : circular.graph.Built ∧
    ∃ curriculum, circular.generate = .ok curriculum ∧
      curriculum.FollowsCalls circular.graph ∧
      curriculum.levels.map (fun level => (level.id, level.prerequisites))
        = [(⟨1⟩, []), (⟨2⟩, [⟨1⟩]), (⟨3⟩, [⟨2⟩])] := by
  obtain ⟨curriculum, generated⟩ := circular_generates
  exact ⟨CallGraph.circularGraph_built, curriculum, generated,
    generate_followsCalls CallGraph.circularGraph_built generated,
    levels_circular (n := circular.config.maxLevels) generated⟩

end Project
end CodeReading
