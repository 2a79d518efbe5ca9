import CodeReading.Chain.Ranking
import CodeReading.Proofs.Chain.Enumeration
import Mathlib.Data.List.Nodup

set_option autoImplicit false

namespace CodeReading

namespace RankedChain

variable {a b c : RankedChain}

theorem precedes_iff : a.precedes b = true ↔
    b.score.total.orderKey < a.score.total.orderKey ∨
      a.score.total.orderKey = b.score.total.orderKey ∧
        (a.chain.length < b.chain.length ∨
          a.chain.length = b.chain.length ∧ a.chain.ids < b.chain.ids) := by
  simp [precedes]

theorem precedes_asymm (ab : a.precedes b = true) : ¬b.precedes a = true := by
  have ids : a.chain.ids < b.chain.ids → ¬b.chain.ids < a.chain.ids := List.lt_asymm
  rw [precedes_iff] at *
  grind

theorem not_precedes_trans (ab : ¬b.precedes a = true) (bc : ¬c.precedes b = true) :
    ¬c.precedes a = true := by
  have ids : ¬b.chain.ids < a.chain.ids → ¬c.chain.ids < b.chain.ids →
      ¬c.chain.ids < a.chain.ids := fun ab bc =>
    List.not_lt.2 (List.le_trans (List.not_lt.1 ab) (List.not_lt.1 bc))
  rw [precedes_iff] at *
  grind

end RankedChain

namespace RankingConfig

variable {config : RankingConfig} {g : CallGraph} {maxDepth maxCandidates maxChains : Nat}
  {chains : List Chain}

def scored (config : RankingConfig) (g : CallGraph) (chain : Chain) : RankedChain :=
  ⟨chain, config.importance g chain⟩

def ordered (config : RankingConfig) (g : CallGraph) (chains : List Chain) : List RankedChain :=
  (chains.map (config.scored g)).mergeSort fun a b => !b.precedes a

theorem rank_eq (config : RankingConfig) (g : CallGraph) (maxDepth maxCandidates maxChains : Nat) :
    config.rank g maxDepth maxCandidates maxChains
      = (config.ordered g (g.enumerate maxDepth maxCandidates)).take maxChains := rfl

theorem mem_ordered_iff {ranked : RankedChain} :
    ranked ∈ config.ordered g chains ↔ ∃ chain ∈ chains, config.scored g chain = ranked := by
  unfold ordered
  rw [List.mem_mergeSort, List.mem_map]

theorem map_chain_ordered (config : RankingConfig) (g : CallGraph) (chains : List Chain) :
    ((config.ordered g chains).map (·.chain)).Perm chains := by
  have same : (chains.map (config.scored g)).map (·.chain) = chains := by
    rw [List.map_map]
    exact List.map_id chains
  refine List.Perm.trans ?_ (.of_eq same)
  exact (List.mergeSort_perm _ _).map RankedChain.chain

theorem length_ordered (config : RankingConfig) (g : CallGraph) (chains : List Chain) :
    (config.ordered g chains).length = chains.length := by
  rw [← (config.map_chain_ordered g chains).length_eq, List.length_map]

theorem sorted_ordered (config : RankingConfig) (g : CallGraph) (chains : List Chain) :
    (config.ordered g chains).Pairwise fun better worse => ¬worse.precedes better = true := by
  unfold ordered
  refine (List.pairwise_mergeSort ?_ ?_ _).imp ?_
  · intro a b c
    simpa using RankedChain.not_precedes_trans
  · intro a b
    cases before : a.precedes b with
    | false => simp
    | true => simp [RankedChain.precedes_asymm before]
  · simp

theorem length_rank : (config.rank g maxDepth maxCandidates maxChains).length
    = min maxChains (g.enumerate maxDepth maxCandidates).length := by
  rw [rank_eq, List.length_take, length_ordered]

theorem rank_length_le : (config.rank g maxDepth maxCandidates maxChains).length ≤ maxChains :=
  length_rank.trans_le (Nat.min_le_left _ _)

theorem mem_enumerate_of_mem_rank {ranked : RankedChain}
    (h : ranked ∈ config.rank g maxDepth maxCandidates maxChains) :
    ranked.chain ∈ g.enumerate maxDepth maxCandidates := by
  rw [rank_eq] at h
  obtain ⟨chain, enumerated, rfl⟩ := mem_ordered_iff.1 (List.mem_of_mem_take h)
  exact enumerated

theorem isMaximalPath_of_mem_rank (closed : g.Closed) {ranked : RankedChain}
    (h : ranked ∈ config.rank g maxDepth maxCandidates maxChains) :
    g.IsMaximalPath (max maxDepth 1) ranked.chain.ids :=
  closed.isMaximalPath_of_mem_enumerate (mem_enumerate_of_mem_rank h)

theorem exists_mem_rank (room : (g.enumerate maxDepth maxCandidates).length ≤ maxChains)
    {chain : Chain} (h : chain ∈ g.enumerate maxDepth maxCandidates) :
    ∃ ranked ∈ config.rank g maxDepth maxCandidates maxChains, ranked.chain = chain := by
  refine ⟨config.scored g chain, ?_, rfl⟩
  rw [rank_eq, List.take_of_length_le (by rwa [length_ordered])]
  exact mem_ordered_iff.2 ⟨chain, h, rfl⟩

theorem sorted_rank : (config.rank g maxDepth maxCandidates maxChains).Pairwise
    fun better worse => ¬worse.precedes better = true :=
  (config.sorted_ordered g _).sublist (List.take_sublist _ _)

/-- A larger number of chains only adds chains at the end. -/
theorem rank_begins {few many : Nat} (le : few ≤ many) :
    config.rank g maxDepth maxCandidates few <+: config.rank g maxDepth maxCandidates many :=
  List.take_prefix_take_left le

theorem nodup_rank_chains :
    ((config.rank g maxDepth maxCandidates maxChains).map (·.chain)).Nodup := by
  have distinct := (config.map_chain_ordered g _).nodup_iff.2
    (g.nodup_enumerate maxDepth maxCandidates)
  rw [rank_eq, List.map_take]
  exact List.Nodup.sublist (List.take_sublist _ _) distinct

end RankingConfig
end CodeReading
