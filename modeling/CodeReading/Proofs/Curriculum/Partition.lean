import CodeReading.Proofs.Curriculum.Assembly

set_option autoImplicit false

namespace CodeReading

structure Outline where
  levels : List (Chain × Tier)
  dropped : List Chain
  deriving DecidableEq, Repr

def Curriculum.outline (curriculum : Curriculum) : Outline where
  levels := curriculum.levels.map fun level => (level.chain, level.tier)
  dropped := curriculum.dropped.map (·.chain)

/-- Whether the chains of a list have been divided into levels, of the listed tiers, and dropped
    chains. -/
structure Outline.Divides (outline : Outline) (listed : List (Chain × Tier)) : Prop where
  nodup : (listed.map (·.1)).Nodup
  perm : (outline.levels.map (·.1) ++ outline.dropped).Perm (listed.map (·.1))
  levels : outline.levels.Sublist listed
  dropped : outline.dropped.Sublist (listed.map (·.1))

namespace Project

def listing (p : Project) : List (Chain × Tier) :=
  p.ranked.map fun ranked => (ranked.chain, p.tier ranked.chain)

variable {p : Project}

theorem outline_assembled (p : Project) : (p.assembled p.ranked).outline =
    { levels := (p.ranked.filter p.teaches).map fun ranked => (ranked.chain, p.tier ranked.chain)
      dropped := (p.ranked.filter fun ranked => !p.teaches ranked).map (·.chain) } := by
  simp only [Curriculum.outline, assembled, map_tier_levelsOf, List.map_map]
  rfl

theorem assembled_divides (p : Project) : (p.assembled p.ranked).outline.Divides p.listing := by
  have chains : p.listing.map (·.1) = p.ranked.map (·.chain) := List.map_map
  rw [outline_assembled]
  refine ⟨?_, ?_, ?_, ?_⟩
  · rw [chains]
    exact RankingConfig.nodup_rank_chains
  · rw [chains, List.map_map]
    change (List.map RankedChain.chain _ ++ List.map RankedChain.chain _).Perm _
    rw [← List.map_append]
    exact (List.filter_append_perm p.teaches p.ranked).map _
  · exact List.filter_sublist.map _
  · rw [chains]
    exact List.filter_sublist.map _

theorem generate_divides {curriculum : Curriculum} (made : p.generate = .ok curriculum) :
    curriculum.outline.Divides p.listing := by
  obtain ⟨-, rfl⟩ := generate_eq_ok made
  exact p.assembled_divides

end Project
end CodeReading
