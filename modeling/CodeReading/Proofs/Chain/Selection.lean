import CodeReading.Proofs.Chain.Ranking
import Mathlib.Data.List.Perm.Subperm

set_option autoImplicit false

namespace CodeReading

namespace RankedChain

/-- Whether a chain is ranked before another: by a greater score, of equal scores by fewer nodes,
    and of as many nodes by the lexicographic order of its ids. -/
def Outranks (a b : RankedChain) : Prop :=
  b.score.total.orderKey < a.score.total.orderKey ∨
    a.score.total.orderKey = b.score.total.orderKey ∧
      (a.chain.length < b.chain.length ∨
        a.chain.length = b.chain.length ∧ a.chain.ids < b.chain.ids)

variable {a b : RankedChain}

theorem precedes_iff_outranks : a.precedes b = true ↔ a.Outranks b :=
  precedes_iff

theorem Outranks.asymm (ab : a.Outranks b) : ¬b.Outranks a :=
  fun ba => precedes_asymm (precedes_iff_outranks.2 ab) (precedes_iff_outranks.2 ba)

theorem outranks_of_not (apart : a.chain ≠ b.chain) (not : ¬b.Outranks a) : a.Outranks b := by
  have ids : a.chain.ids ≠ b.chain.ids := by
    intro same
    apply apart
    cases ha : a.chain
    cases hb : b.chain
    rw [ha, hb] at same
    cases same
    rfl
  have order : ¬b.chain.ids < a.chain.ids → a.chain.ids < b.chain.ids := by
    intro not
    by_contra before
    exact ids (List.le_antisymm (List.not_lt.1 not) (List.not_lt.1 before))
  unfold Outranks at *
  grind

end RankedChain

namespace RankingConfig

variable {config : RankingConfig} {g : CallGraph} {chains others : List Chain} {maxChains : Nat}
  {ranked twin : List RankedChain}

/-- Whether ranked chains are a selection of the best ones: chains with their scores, none twice, as
    many as there may be, in strict order, and before those that are left out. -/
structure IsSelection (config : RankingConfig) (g : CallGraph) (chains : List Chain)
    (maxChains : Nat) (ranked : List RankedChain) : Prop where
  scored : ∀ entry ∈ ranked, entry.chain ∈ chains ∧ entry.score = config.importance g entry.chain
  distinct : (ranked.map (·.chain)).Nodup
  length : ranked.length = min maxChains chains.length
  ascending : ranked.Pairwise RankedChain.Outranks
  leftOut : ∀ chain ∈ chains, (∀ entry ∈ ranked, entry.chain ≠ chain) →
    ∀ entry ∈ ranked, entry.Outranks (config.scored g chain)

theorem strict_ordered (config : RankingConfig) (g : CallGraph) (distinct : chains.Nodup) :
    (config.ordered g chains).Pairwise RankedChain.Outranks := by
  have apart := List.pairwise_map.1 ((config.map_chain_ordered g chains).nodup_iff.2 distinct)
  refine (apart.and (config.sorted_ordered g chains)).imp fun {better worse} both => ?_
  exact RankedChain.outranks_of_not both.1 fun worseFirst =>
    both.2 (RankedChain.precedes_iff_outranks.2 worseFirst)

theorem isSelection_take_ordered (config : RankingConfig) (g : CallGraph) (maxChains : Nat)
    (distinct : chains.Nodup) :
    config.IsSelection g chains maxChains ((config.ordered g chains).take maxChains) where
  scored entry mem := by
    obtain ⟨chain, known, rfl⟩ := mem_ordered_iff.1 (List.mem_of_mem_take mem)
    exact ⟨known, rfl⟩
  distinct := by
    rw [List.map_take]
    exact ((config.map_chain_ordered g chains).nodup_iff.2 distinct).sublist (List.take_sublist _ _)
  length := by rw [List.length_take, length_ordered]
  ascending := (config.strict_ordered g distinct).sublist (List.take_sublist _ _)
  leftOut chain known missing entry mem := by
    have strict := config.strict_ordered g distinct
    have placed : config.scored g chain ∈ config.ordered g chains :=
      mem_ordered_iff.2 ⟨chain, known, rfl⟩
    rw [← List.take_append_drop maxChains (config.ordered g chains)] at strict placed
    rcases List.mem_append.1 placed with taken | dropped
    · exact absurd rfl (missing _ taken)
    · exact (List.pairwise_append.1 strict).2.2 entry mem _ dropped

theorem IsSelection.scored_eq (selection : config.IsSelection g chains maxChains ranked)
    {entry : RankedChain} (mem : entry ∈ ranked) : config.scored g entry.chain = entry := by
  unfold RankingConfig.scored
  rw [← (selection.scored entry mem).2]

/-- A selection has no chain that another selection of as many does not have. -/
theorem IsSelection.chains_subset (selection : config.IsSelection g chains maxChains ranked)
    (another : config.IsSelection g others maxChains twin) (perm : chains.Perm others) :
    ranked.map (·.chain) ⊆ twin.map (·.chain) := by
  have lengths : (ranked.map (·.chain)).length = (twin.map (·.chain)).length := by
    rw [List.length_map, List.length_map, selection.length, another.length, perm.length_eq]
  by_contra extra
  -- As many chains are missing on either side, and then each outranks the other.
  have missing : ¬twin.map (·.chain) ⊆ ranked.map (·.chain) := by
    intro sub
    have all := (List.subperm_of_subset another.distinct sub).perm_of_length_le lengths.le
    exact extra all.symm.subset
  simp only [List.subset_def, List.mem_map, not_forall, not_exists, not_and] at extra missing
  obtain ⟨_, ⟨entry, mem, rfl⟩, entryMissing⟩ := extra
  obtain ⟨_, ⟨other, otherMem, rfl⟩, otherMissing⟩ := missing
  have entryKnown : entry.chain ∈ others := perm.mem_iff.1 (selection.scored entry mem).1
  have otherKnown : other.chain ∈ chains := perm.mem_iff.2 (another.scored other otherMem).1
  have first := another.leftOut entry.chain entryKnown entryMissing other otherMem
  have second := selection.leftOut other.chain otherKnown otherMissing entry mem
  rw [selection.scored_eq mem] at first
  rw [another.scored_eq otherMem] at second
  exact first.asymm second

theorem IsSelection.eq_map_scored (selection : config.IsSelection g chains maxChains ranked) :
    (ranked.map (·.chain)).map (config.scored g) = ranked := by
  rw [List.map_map]
  exact (List.map_congr_left fun entry mem => selection.scored_eq mem).trans (List.map_id ranked)

/-- There is only one selection, and the order of the chains does not matter. -/
theorem IsSelection.eq (selection : config.IsSelection g chains maxChains ranked)
    (another : config.IsSelection g others maxChains twin) (perm : chains.Perm others) :
    ranked = twin := by
  have same : (ranked.map (·.chain)).Perm (twin.map (·.chain)) :=
    (List.perm_ext_iff_of_nodup selection.distinct another.distinct).2 fun chain =>
      ⟨fun mem => selection.chains_subset another perm mem,
        fun mem => another.chains_subset selection perm.symm mem⟩
  have entries := same.map (config.scored g)
  rw [selection.eq_map_scored, another.eq_map_scored] at entries
  exact entries.eq_of_pairwise (fun a b _ _ ab ba => absurd ba ab.asymm) selection.ascending
    another.ascending

/-- A ranking selects the best of the enumerated chains. No other list does, and the same chains in
    any order give the same ranking. -/
theorem rank_selects (config : RankingConfig) (g : CallGraph)
    (maxDepth maxCandidates maxChains : Nat) :
    config.IsSelection g (g.enumerate maxDepth maxCandidates) maxChains
        (config.rank g maxDepth maxCandidates maxChains) ∧
    (∀ ranked, config.IsSelection g (g.enumerate maxDepth maxCandidates) maxChains ranked →
      ranked = config.rank g maxDepth maxCandidates maxChains) ∧
    ∀ chains : List Chain, chains.Nodup →
      (∀ chain, chain ∈ chains ↔ chain ∈ g.enumerate maxDepth maxCandidates) →
      (config.ordered g chains).take maxChains
        = config.rank g maxDepth maxCandidates maxChains := by
  have distinct := g.nodup_enumerate maxDepth maxCandidates
  have selection := config.isSelection_take_ordered g maxChains distinct
  refine ⟨selection, fun ranked another => another.eq selection (.refl _), ?_⟩
  intro chains otherDistinct same
  have perm := (List.perm_ext_iff_of_nodup otherDistinct distinct).2 same
  exact (config.isSelection_take_ordered g maxChains otherDistinct).eq selection perm

def levelConfig : RankingConfig := { terms := [] }

def backChain : Chain := ⟨["main", "emit"], by decide, by decide⟩

def onwardChain : Chain := ⟨["emit", "main", "parse"], by decide, by decide⟩

/-- Of three chains with one score the shortest comes first, and of the others the one with the
    lesser ids. -/
theorem rank_selects_circular :
    levelConfig.IsSelection CallGraph.circularGraph (CallGraph.circularGraph.enumerate 5 10) 2
      [levelConfig.scored CallGraph.circularGraph backChain,
        levelConfig.scored CallGraph.circularGraph onwardChain] ∧
    levelConfig.rank CallGraph.circularGraph 5 10 2
      = [levelConfig.scored CallGraph.circularGraph backChain,
        levelConfig.scored CallGraph.circularGraph onwardChain] ∧
    (levelConfig.ordered CallGraph.circularGraph
        (CallGraph.circularGraph.enumerate 5 10).reverse).take 2
      = levelConfig.rank CallGraph.circularGraph 5 10 2 := by
  obtain ⟨-, unique, unordered⟩ := rank_selects levelConfig CallGraph.circularGraph 5 10 2
  have selection : levelConfig.IsSelection CallGraph.circularGraph
      (CallGraph.circularGraph.enumerate 5 10) 2
      [levelConfig.scored CallGraph.circularGraph backChain,
        levelConfig.scored CallGraph.circularGraph onwardChain] := by
    refine ⟨?_, by decide +kernel, by decide +kernel, ?_, ?_⟩
    · simp only [List.forall_mem_cons]
      exact ⟨⟨by decide +kernel, rfl⟩, ⟨by decide +kernel, rfl⟩, List.forall_mem_nil _⟩
    · unfold RankedChain.Outranks
      decide +kernel
    · unfold RankedChain.Outranks
      decide +kernel
  exact ⟨selection, (unique _ selection).symm, unordered _
    (List.nodup_reverse.2 (CallGraph.nodup_enumerate _ _ _)) fun _ => List.mem_reverse⟩

end RankingConfig
end CodeReading
