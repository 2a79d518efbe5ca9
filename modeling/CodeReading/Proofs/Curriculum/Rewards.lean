import CodeReading.Proofs.Config.Bands
import CodeReading.Proofs.Curriculum.Accounts

set_option autoImplicit false

namespace CodeReading

def Project.points (p : Project) (level : Level) : Scalar :=
  (p.config.difficulty.score p.graph level.chain).total

namespace Config

variable {config : Config}

theorem tier_mono (valid : config.faults = []) {s t : Scalar} (le : s ≤ t) :
    config.difficulty.tier s ≤ config.difficulty.tier t := by
  rw [DifficultyConfig.tier_eq, DifficultyConfig.tier_eq]
  exact DifficultyConfig.tierIn_mono (pairwise_bands valid) le

theorem reward_tier_mono (valid : config.faults = []) {s t : Scalar} (le : s ≤ t) :
    config.rewards.xp.reward (config.difficulty.tier s)
      ≤ config.rewards.xp.reward (config.difficulty.tier t) :=
  XpTable.reward_mono (xpFaults_eq_nil valid) (tier_mono valid le)

end Config

theorem Project.xpReward_of_mem_levelsOf {p : Project} {chains : List RankedChain} {level : Level}
    (mem : level ∈ p.levelsOf chains) :
    level.xpReward = p.config.rewards.xp.reward (p.config.difficulty.tier (p.points level)) := by
  obtain ⟨ranked, -, id, previous, rfl⟩ := exists_of_mem_levelsOf mem
  rfl

/-- Tier and reward never fall as the score rises, every reward is positive, and past the last band
    a score is for experts. In a curriculum a level with a lower score does not earn more. -/
theorem Config.rewards_followScores {config : Config} (valid : config.validate = .ok ()) :
    (∀ s t : Scalar, s ≤ t → config.difficulty.tier s ≤ config.difficulty.tier t ∧
      config.rewards.xp.reward (config.difficulty.tier s)
        ≤ config.rewards.xp.reward (config.difficulty.tier t)) ∧
    (∀ tier, 1 ≤ config.rewards.xp.reward tier) ∧
    (∀ total : Scalar,
      (∀ last, config.difficulty.bands.getLast? = some last → last.below ≤ total) →
        config.difficulty.tier total = .expert) ∧
    ∀ p : Project, p.config = config → ∀ curriculum, p.generate = .ok curriculum →
      ∀ level ∈ curriculum.levels, ∀ other ∈ curriculum.levels,
        p.points level ≤ p.points other → level.xpReward ≤ other.xpReward := by
  have sound := (Config.validate_eq_ok_iff config).1 valid
  refine ⟨?_, ?_, ?_, ?_⟩
  · intro s t le
    exact ⟨tier_mono sound le, reward_tier_mono sound le⟩
  · exact XpTable.reward_pos (xpFaults_eq_nil sound)
  · intro total past
    rw [DifficultyConfig.tier_eq]
    exact DifficultyConfig.tierIn_eq_expert (pairwise_bands sound) past
  · rintro p rfl curriculum generated level mem other otherMem le
    obtain ⟨-, rfl⟩ := Project.generate_eq_ok generated
    rw [Project.xpReward_of_mem_levelsOf mem, Project.xpReward_of_mem_levelsOf otherMem]
    exact reward_tier_mono sound le

def sparse : Config where
  difficulty := { bands := [⟨10.0, .basic⟩, ⟨32.0, .advanced⟩] }

def scannerDraft : Draft where
  nodes := [{ id := "open", name := "open", kind := .function, returnType := some "File" },
    { id := "read", name := "read", kind := .function, returnType := some "str" },
    { id := "scan", name := "scan", kind := .function, returnType := some "int", complexity := 23 }]
  edges := [⟨"open", "read", 1⟩, ⟨"scan", "read", 1⟩]
  entryPoints := ["open", "scan"]
  lenient := true

/-- Two levels that score as much as the bands are bounded by. -/
def scanner : Project where
  graph := scannerDraft.build.toOption.getD ⟨[], [], ∅⟩
  config := sparse

def openChain : Chain := ⟨["open", "read"], by decide, by decide⟩

def scanChain : Chain := ⟨["scan", "read"], by decide, by decide⟩

theorem sparse_valid : sparse.faults = [] := by decide +kernel

theorem scanner_generates : scanner.generate = .ok (scanner.assembled scanner.ranked) := by
  refine Project.generate_of_not_isStopped sparse_valid (by decide +kernel) ?_
  refine Project.not_isStopped_of_short fun kind => ?_
  cases kind <;> decide

theorem exists_level_scanner (chain : Chain)
    (enumerated : chain ∈ scanner.graph.enumerate scanner.config.maxDepth.toNat
      scanner.config.maxCandidateChains.toNat)
    (enough : minChallenges ≤ (successes (scanner.make chain) ChallengeKind.all).length) :
    ∃ level ∈ (scanner.assembled scanner.ranked).levels, level.chain = chain := by
  have room : (scanner.graph.enumerate scanner.config.maxDepth.toNat
      scanner.config.maxCandidateChains.toNat).length ≤ scanner.config.maxLevels.toNat := by
    decide +kernel
  obtain ⟨ranked, mem, rfl⟩ := RankingConfig.exists_mem_rank room enumerated
  exact (Project.exists_level_iff_teaches mem).2 (Project.teaches_iff.2 enough)

/-- Scores below and at the first bound, at the last bound, and of the two levels. -/
theorem Config.rewards_followScores_sparse :
    sparse.validate = .ok () ∧
    ((9.5 : Scalar) ≤ 10.0 ∧ sparse.difficulty.tier 9.5 ≤ sparse.difficulty.tier 10.0) ∧
    (sparse.difficulty.bands.getLast? = some ⟨32.0, .advanced⟩ ∧ (32.0 : Scalar) ≤ 32.0 ∧
      sparse.difficulty.tier 32.0 = .expert) ∧
    ∃ curriculum, scanner.generate = .ok curriculum ∧
      ∃ opened ∈ curriculum.levels, ∃ scanned ∈ curriculum.levels,
        opened.chain = openChain ∧ scanned.chain = scanChain ∧
        scanner.points opened ≤ scanner.points scanned ∧ opened.xpReward ≤ scanned.xpReward := by
  have valid := (Config.validate_eq_ok_iff sparse).2 sparse_valid
  obtain ⟨mono, -, past, earns⟩ := rewards_followScores valid
  have near : (9.5 : Scalar) ≤ 10.0 := by decide +kernel
  have hit : (32.0 : Scalar) ≤ 32.0 := by decide +kernel
  have isLast : sparse.difficulty.bands.getLast? = some ⟨32.0, .advanced⟩ := rfl
  have expert : sparse.difficulty.tier 32.0 = .expert := by
    refine past 32.0 fun band last => ?_
    cases isLast.symm.trans last
    exact hit
  obtain ⟨opened, openedMem, isOpen⟩ := exists_level_scanner openChain
    (by decide +kernel) (by decide +kernel)
  obtain ⟨scanned, scannedMem, isScan⟩ := exists_level_scanner scanChain
    (by decide +kernel) (by decide +kernel)
  have points : scanner.points opened ≤ scanner.points scanned := by
    unfold Project.points
    rw [isOpen, isScan]
    decide +kernel
  exact ⟨valid, ⟨near, (mono _ _ near).1⟩, ⟨isLast, hit, expert⟩, _, scanner_generates,
    opened, openedMem, scanned, scannedMem, isOpen, isScan, points,
    earns scanner rfl _ scanner_generates opened openedMem scanned scannedMem points⟩

end CodeReading
