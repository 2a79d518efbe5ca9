import CodeReading.Proofs.Curriculum.Prerequisites

set_option autoImplicit false

/-!
# More levels

The limit on levels is only looked at when the ranked chains are cut off. A higher limit cuts off
later, and since the assembly of a chain depends only on the levels before it, what a lower limit
gives is the beginning of what a higher limit gives.
-/
namespace CodeReading

structure Curriculum.Begins (few many : Curriculum) : Prop where
  levels : few.levels <+: many.levels
  gaps : few.gaps <+: many.gaps
  dropped : few.dropped <+: many.dropped

namespace Project

variable {p : Project} {chains others : List RankedChain} {n m : UInt64}

theorem faults_withMaxLevels (valid : p.config.faults = []) (least : 1 ≤ n) :
    (p.withMaxLevels n).config.faults = [] := by
  refine Config.faults_maxLevels valid ?_
  rintro rfl
  exact absurd least (by decide)

theorem levelsOf_begins (h : chains <+: others) : p.levelsOf chains <+: p.levelsOf others := by
  obtain ⟨rest, rfl⟩ := h
  induction rest using List.reverseRecOn with
  | nil => simp
  | append_singleton rest ranked ih =>
    rw [← List.append_assoc, levelsOf_concat, addLevel]
    exact ih.trans (List.prefix_append _ _)

theorem assembled_begins (h : chains <+: others) :
    (p.assembled chains).Begins (p.assembled others) where
  levels := levelsOf_begins (h.filter p.teaches)
  gaps := by
    obtain ⟨rest, rfl⟩ := h
    exact ⟨p.gapsOf rest, List.flatMap_append.symm⟩
  dropped := (h.filter _).map p.drop

/-- Apart from how many chains are ranked, the limit is not looked at. -/
theorem assembled_withMaxLevels : (p.withMaxLevels n).assembled = p.assembled := rfl

theorem ranked_begins (le : n ≤ m) : (p.withMaxLevels n).ranked <+: (p.withMaxLevels m).ranked :=
  RankingConfig.rank_begins (UInt64.le_iff_toNat_le.1 le)

theorem isStopped_mono (le : n ≤ m) (stopped : (p.withMaxLevels n).IsStopped) :
    (p.withMaxLevels m).IsStopped := by
  obtain ⟨build, ranked, mem, large⟩ := stopped
  exact ⟨build, ranked, (ranked_begins le).subset mem, large⟩

/-- A higher limit adds levels, gaps and dropped chains at the end and changes none; where entry
    points are required and there are none, no limit gives a curriculum, and in a build that checks
    its sums a higher limit may end the run at one of the further chains. -/
theorem generate_begins (valid : p.config.faults = []) (least : 1 ≤ n) (le : n ≤ m) :
    (∃ few many, (p.withMaxLevels n).generate = .ok few ∧
      (p.withMaxLevels m).generate = .ok many ∧ few.Begins many) ∨
    (p.graph.entryPoints.isEmpty ∧ p.config.requireEntryPoints ∧
      (p.withMaxLevels n).generate = .error .noEntryPoints ∧
      (p.withMaxLevels m).generate = .error .noEntryPoints) ∨
    ((p.withMaxLevels m).IsStopped ∧ (p.withMaxLevels m).generate = .error .overflow) := by
  have validBelow := faults_withMaxLevels valid least
  have validAbove := faults_withMaxLevels valid (UInt64.le_trans least le)
  by_cases missing : p.graph.entryPoints.isEmpty ∧ p.config.requireEntryPoints
  · refine .inr (.inl ⟨missing.1, missing.2, ?_, ?_⟩)
    · rw [generate_eq validBelow]
      exact if_pos missing
    · rw [generate_eq validAbove]
      exact if_pos missing
  · by_cases stopped : (p.withMaxLevels m).IsStopped
    · exact .inr (.inr ⟨stopped, generate_eq_overflow_iff.2 ⟨validAbove, stopped⟩⟩)
    · have goes : ¬(p.withMaxLevels n).IsStopped := mt (isStopped_mono le) stopped
      refine .inl ⟨_, _, generate_of_not_isStopped validBelow missing goes,
        generate_of_not_isStopped validAbove missing stopped, ?_⟩
      rw [assembled_withMaxLevels, assembled_withMaxLevels]
      exact assembled_begins (ranked_begins le)

theorem generate_begins_circular : ∃ few many, (circular.withMaxLevels 1).generate = .ok few ∧
    (circular.withMaxLevels 3).generate = .ok many ∧ few.Begins many ∧
    few.levels.map (fun level => (level.id, level.prerequisites)) = [(⟨1⟩, [])] ∧
    many.levels.map (fun level => (level.id, level.prerequisites))
      = [(⟨1⟩, []), (⟨2⟩, [⟨1⟩]), (⟨3⟩, [⟨2⟩])] := by
  have valid : circular.config.faults = [] := by decide +kernel
  rcases generate_begins valid (n := 1) (m := 3) (by decide) (by decide) with
    ⟨few, many, short, long, begins⟩ | ⟨empty, -⟩ | ⟨stopped, -⟩
  · refine ⟨few, many, short, long, begins, ?_, ?_⟩
    · exact levels_circular short
    · exact levels_circular long
  · exact absurd empty (by decide +kernel)
  · refine absurd stopped (not_isStopped_of_short fun kind => ?_)
    cases kind <;> decide

end Project
end CodeReading
