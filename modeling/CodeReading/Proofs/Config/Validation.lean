import CodeReading.Config.Validation

set_option autoImplicit false

namespace CodeReading

theorem faultIf_eq_nil_iff {wrong : Bool} {fault : ConfigFault} :
    faultIf wrong fault = [] ↔ wrong = false := by
  cases wrong <;> simp [faultIf]

namespace Config

variable {config : Config}

theorem maxDepth_ne_zero (valid : config.faults = []) : config.maxDepth ≠ 0 := by
  simp only [faults, List.append_eq_nil_iff, faultIf_eq_nil_iff, decide_eq_false_iff_not] at valid
  obtain ⟨⟨⟨⟨⟨⟨⟨-, depth⟩, -⟩, -⟩, -⟩, -⟩, -⟩, -⟩ := valid
  exact depth

/-- Of the limit on levels it only matters that it is not zero. -/
theorem faults_maxLevels (valid : config.faults = []) {n : UInt64} (nonzero : n ≠ 0) :
    ({ config with maxLevels := n } : Config).faults = [] := by
  simp only [faults, List.append_eq_nil_iff, faultIf_eq_nil_iff, decide_eq_false_iff_not] at valid ⊢
  obtain ⟨⟨⟨⟨⟨⟨⟨-, depth⟩, candidates⟩, ranking⟩, difficulty⟩, challenges⟩, kinds⟩, xp⟩ := valid
  exact ⟨⟨⟨⟨⟨⟨⟨nonzero, depth⟩, candidates⟩, ranking⟩, difficulty⟩, challenges⟩, kinds⟩, xp⟩

theorem kind_pos (valid : config.faults = []) (kind : ChallengeKind) :
    1 ≤ config.challenges.points.get kind ∧ 1 ≤ config.rewards.minutes.get kind := by
  simp only [faults, List.append_eq_nil_iff, List.flatMap_eq_nil_iff] at valid
  have sound := valid.1.2 kind (by cases kind <;> decide)
  simp only [kindFaults, List.append_eq_nil_iff, faultIf_eq_nil_iff, decide_eq_false_iff_not]
    at sound
  obtain ⟨points, minutes⟩ := sound
  constructor <;> grind

theorem xpFaults_eq_nil (valid : config.faults = []) : config.rewards.xp.faults = [] := by
  simp only [faults, List.append_eq_nil_iff] at valid
  exact valid.2

end Config

namespace XpTable

variable {table : XpTable}

theorem reward_mono (sound : table.faults = []) {easier harder : Tier} (h : easier ≤ harder) :
    table.reward easier ≤ table.reward harder := by
  simp only [faults, List.append_eq_nil_iff, List.flatMap_eq_nil_iff, faultIf_eq_nil_iff,
    decide_eq_false_iff_not, UInt32.not_lt, UInt32.le_iff_toNat_le] at sound
  have steps := sound.2
  simp only [neighbours, Tier.all, List.tail_cons, List.zip_cons_cons, List.zip_nil_right,
    List.forall_mem_cons] at steps
  obtain ⟨basic, intermediate, advanced, expert, -⟩ := steps
  rw [UInt32.le_iff_toNat_le]
  cases easier <;> cases harder <;> first | omega | exact absurd h (by decide)

theorem reward_pos (sound : table.faults = []) (tier : Tier) : 1 ≤ table.reward tier := by
  have least : 1 ≤ table.reward .tutorial := by
    simp only [faults, List.append_eq_nil_iff, faultIf_eq_nil_iff, decide_eq_false_iff_not] at sound
    have basic := sound.1
    grind
  exact UInt32.le_trans least (reward_mono sound (Nat.zero_le _))

end XpTable
end CodeReading
