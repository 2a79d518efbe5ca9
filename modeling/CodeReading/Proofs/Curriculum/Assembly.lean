import CodeReading.Proofs.Chain.Ranking
import CodeReading.Proofs.Config.Validation
import CodeReading.Proofs.Curriculum.Attempts
import Mathlib.Algebra.Order.BigOperators.Group.List
import Mathlib.Algebra.Order.Ring.Nat

set_option autoImplicit false

namespace CodeReading

def totalMinutes (table : KindTable UInt32) (challenges : List Challenge) : Nat :=
  (challenges.map fun challenge => (table.get challenge.kind).toNat).sum

theorem toNat_le_totalMinutes {table : KindTable UInt32} {challenges : List Challenge}
    {challenge : Challenge} (mem : challenge ∈ challenges) :
    (table.get challenge.kind).toNat ≤ totalMinutes table challenges :=
  List.le_sum_of_mem (List.mem_map_of_mem mem)

theorem totalMinutes_lt {table : KindTable UInt32} {challenges : List Challenge}
    (few : challenges.length ≤ maxChallenges)
    (short : ∀ kind, maxChallenges * (table.get kind).toNat < UInt32.size) :
    totalMinutes table challenges < UInt32.size := by
  have each : ∀ minutes ∈ challenges.map fun challenge => (table.get challenge.kind).toNat,
      minutes ≤ (UInt32.size - 1) / maxChallenges := by
    intro minutes mem
    obtain ⟨challenge, -, rfl⟩ := List.mem_map.1 mem
    have fits := short challenge.kind
    unfold maxChallenges at fits ⊢
    omega
  have sum := List.sum_le_card_nsmul _ _ each
  rw [List.length_map, Nat.nsmul_eq_mul] at sum
  calc totalMinutes table challenges
      ≤ challenges.length * ((UInt32.size - 1) / maxChallenges) := sum
    _ ≤ maxChallenges * ((UInt32.size - 1) / maxChallenges) := Nat.mul_le_mul_right _ few
    _ < UInt32.size := by decide

namespace Project

abbrev make (p : Project) (chain : Chain) : ChallengeKind → Except Gap Challenge :=
  p.material.generate chain

abbrev tier (p : Project) (chain : Chain) : Tier :=
  p.config.difficulty.classify p.graph chain

abbrev selected (p : Project) (chain : Chain) (tier : Tier) : List ChallengeKind :=
  p.config.challenges.select p.graph chain tier

abbrev fallbacks (p : Project) (chain : Chain) (tier : Tier) : List ChallengeKind :=
  ChallengeKind.fallbacks (p.selected chain tier)

def missing (p : Project) (chain : Chain) (tier : Tier) : Nat :=
  minChallenges - (successes (p.make chain) (p.selected chain tier)).length

def attempted (p : Project) (chain : Chain) (tier : Tier) : List ChallengeKind :=
  p.selected chain tier ++ tried (p.make chain) (p.missing chain tier) (p.fallbacks chain tier)

def outcome (p : Project) (ranked : RankedChain) : List Challenge × List Gap :=
  p.challenges ranked.chain (p.tier ranked.chain)

def teaches (p : Project) (ranked : RankedChain) : Bool :=
  minChallenges ≤ (p.outcome ranked).1.length

def minutes (p : Project) (ranked : RankedChain) : Nat :=
  totalMinutes p.config.rewards.minutes (p.outcome ranked).1

/-- Whether a chain ends the run, for the minutes of its level do not fit. -/
def stopsAt (p : Project) (ranked : RankedChain) : Bool :=
  p.overflow = .stops && p.teaches ranked && UInt32.size ≤ p.minutes ranked

def levelOf (p : Project) (id : LevelId) (previous : Option Level) (ranked : RankedChain) : Level :=
  p.level id previous ranked.chain (p.tier ranked.chain) (p.outcome ranked).1
    (UInt32.ofNat (p.minutes ranked))

def addLevel (p : Project) (levels : List Level) (ranked : RankedChain) : List Level :=
  levels ++ [p.levelOf (nextId levels.length) levels.getLast? ranked]

def drop (p : Project) (ranked : RankedChain) : DroppedChain :=
  ⟨ranked.chain, .tooFewChallenges (p.outcome ranked).1.length⟩

variable {p : Project} {chain : Chain} {tier : Tier} {ranked : RankedChain}

theorem challenges_eq : p.challenges chain tier
    = (successes (p.make chain) (p.attempted chain tier),
      failures (p.make chain) (p.attempted chain tier)) := by
  have selected : tried (p.make chain) (maxChallenges - 0) (p.selected chain tier) = _ :=
    tried_of_length_le ChallengeConfig.select_length_le
  unfold challenges attempted missing
  simp only [attempts_eq, List.length_nil, selected, List.nil_append, successes_append,
    failures_append]

theorem successes_attempted : successes (p.make chain) (p.attempted chain tier)
    = successes (p.make chain) (p.selected chain tier)
      ++ (successes (p.make chain) (p.fallbacks chain tier)).take (p.missing chain tier) := by
  unfold attempted
  rw [successes_append, successes_tried]

theorem candidates_perm (p : Project) (chain : Chain) (tier : Tier) :
    (p.selected chain tier ++ p.fallbacks chain tier).Perm ChallengeKind.all :=
  ChallengeKind.selected_append_fallbacks_perm ChallengeConfig.nodup_select
    ChallengeConfig.multipleChoice_mem_select

theorem nodup_attempted : (p.attempted chain tier).Nodup := by
  obtain ⟨rest, split, -, -⟩ := tried_spec (p.make chain) (p.missing chain tier)
    (p.fallbacks chain tier)
  have distinct := (p.candidates_perm chain tier).nodup_iff.2 (by decide)
  rw [split, ← List.append_assoc] at distinct
  exact List.Nodup.sublist (List.sublist_append_left _ rest) distinct

theorem length_successes_all (p : Project) (chain : Chain) (tier : Tier) :
    (successes (p.make chain) ChallengeKind.all).length
      = (successes (p.make chain) (p.selected chain tier)).length
        + (successes (p.make chain) (p.fallbacks chain tier)).length := by
  rw [← List.length_append, ← successes_append]
  exact ((p.candidates_perm chain tier).filterMap _).length_eq.symm

/-- There are enough challenges exactly when enough of all kinds can be made, whichever kinds are
    selected. -/
theorem enough_iff (p : Project) (chain : Chain) (tier : Tier) :
    minChallenges ≤ (p.challenges chain tier).1.length ↔
      minChallenges ≤ (successes (p.make chain) ChallengeKind.all).length := by
  rw [challenges_eq, successes_attempted, List.length_append, List.length_take,
    p.length_successes_all chain tier, missing]
  -- With `a` selected and `b` fallback challenges, `a + min (3 - a) b` reaches 3 when `a + b` does.
  omega

theorem teaches_iff : p.teaches ranked = true ↔
    minChallenges ≤ (successes (p.make ranked.chain) ChallengeKind.all).length := by
  unfold teaches outcome
  rw [decide_eq_true_eq]
  exact p.enough_iff ranked.chain _

theorem length_challenges_le : (p.challenges chain tier).1.length ≤ maxChallenges := by
  have made : (successes (p.make chain) (p.selected chain tier)).length ≤ maxChallenges :=
    Nat.le_trans successes_length_le ChallengeConfig.select_length_le
  rw [challenges_eq, successes_attempted, List.length_append, List.length_take, missing]
  unfold minChallenges maxChallenges at *
  omega

theorem attempted_perm_of_few (few : (p.challenges chain tier).1.length < minChallenges) :
    (p.attempted chain tier).Perm ChallengeKind.all := by
  have all := (not_congr (p.enough_iff chain tier)).1 (Nat.not_le.2 few)
  rw [p.length_successes_all chain tier] at all
  unfold attempted missing
  rw [tried_eq_self (by omega)]
  exact p.candidates_perm chain tier

def summed (p : Project) (total : Nat) : Except GenerationError UInt32 :=
  if p.overflow = .stops ∧ UInt32.size ≤ total then .error .overflow else .ok (UInt32.ofNat total)

theorem addMinutes_eq (sum : UInt32) (challenge : Challenge) : p.addMinutes sum challenge =
    p.summed (sum.toNat + (p.config.rewards.minutes.get challenge.kind).toNat) := by
  rw [summed, UInt32.ofNat_add, UInt32.ofNat_toNat, UInt32.ofNat_toNat]
  rfl

/-- Minutes that are added one after the other fit each time when they fit together. -/
theorem foldlM_addMinutes (challenges : List Challenge) (sum : UInt32) :
    challenges.foldlM p.addMinutes sum
      = p.summed (sum.toNat + totalMinutes p.config.rewards.minutes challenges) := by
  induction challenges generalizing sum with
  | nil => simp [summed, totalMinutes, sum.toNat_lt_size, pure, Except.pure]
  | cons challenge challenges ih =>
    have total : totalMinutes p.config.rewards.minutes (challenge :: challenges)
        = (p.config.rewards.minutes.get challenge.kind).toNat
          + totalMinutes p.config.rewards.minutes challenges := by
      simp [totalMinutes]
    rw [List.foldlM_cons, addMinutes_eq, total, ← Nat.add_assoc]
    generalize (p.config.rewards.minutes.get challenge.kind).toNat = minutes
    generalize totalMinutes p.config.rewards.minutes challenges = others at ih ⊢
    by_cases stops : p.overflow = .stops ∧ UInt32.size ≤ sum.toNat + minutes
    · have still := Nat.le_trans stops.2 (Nat.le_add_right _ others)
      rw [summed, if_pos stops, summed, if_pos ⟨stops.1, still⟩]
      rfl
    · rw [summed, if_neg stops]
      refine (ih _).trans ?_
      rw [UInt32.toNat_ofNat']
      cases build : p.overflow with
      | stops =>
        have fits : sum.toNat + minutes < UInt32.size := by
          rw [build] at stops
          simpa using stops
        rw [Nat.mod_eq_of_lt fits]
      | wraps => simp [summed, build, UInt32.ofNat_eq_iff_mod_eq_toNat]

theorem estimate_eq (challenges : List Challenge) :
    p.estimate challenges = p.summed (totalMinutes p.config.rewards.minutes challenges) := by
  have sums := p.foldlM_addMinutes challenges 0
  rwa [UInt32.toNat_zero, Nat.zero_add] at sums

def levelsOf (p : Project) (chains : List RankedChain) : List Level :=
  chains.foldl p.addLevel []

def gapsOf (p : Project) (chains : List RankedChain) : List Gap :=
  chains.flatMap fun ranked => (p.outcome ranked).2

def added (p : Project) (curriculum : Curriculum) (ranked : RankedChain) : Curriculum :=
  if p.teaches ranked then
    { curriculum with
      levels := p.addLevel curriculum.levels ranked
      gaps := curriculum.gaps ++ (p.outcome ranked).2 }
  else
    { curriculum with
      gaps := curriculum.gaps ++ (p.outcome ranked).2
      dropped := curriculum.dropped ++ [p.drop ranked] }

theorem addChain_eq (curriculum : Curriculum) : p.addChain curriculum ranked =
    if p.stopsAt ranked then .error .overflow else .ok (p.added curriculum ranked) := by
  unfold addChain added
  by_cases few : (p.outcome ranked).1.length < minChallenges
  · have untaught : p.teaches ranked = false := decide_eq_false (Nat.not_le.2 few)
    rw [stopsAt, untaught, Bool.and_false, Bool.false_and]
    exact if_pos few
  · have taught : p.teaches ranked = true := decide_eq_true (Nat.not_lt.1 few)
    have time : p.estimate (p.outcome ranked).1 = p.summed (p.minutes ranked) := p.estimate_eq _
    refine (if_neg few).trans ?_
    change Except.map _ (p.estimate (p.outcome ranked).1) = _
    rw [time, summed, stopsAt, taught, Bool.and_true]
    by_cases stops : p.overflow = .stops ∧ UInt32.size ≤ p.minutes ranked
    · rw [if_pos stops, if_pos (by simpa using stops)]
      rfl
    · rw [if_neg stops, if_neg (by simpa using stops)]
      rfl

theorem foldl_added (curriculum : Curriculum) (chains : List RankedChain) :
    chains.foldl p.added curriculum =
      { levels := (chains.filter p.teaches).foldl p.addLevel curriculum.levels
        gaps := curriculum.gaps ++ p.gapsOf chains
        dropped := curriculum.dropped
          ++ (chains.filter fun ranked => !p.teaches ranked).map p.drop } := by
  induction chains generalizing curriculum with
  | nil => simp [gapsOf]
  | cons ranked chains ih =>
    rw [List.foldl_cons, ih, added]
    cases taught : p.teaches ranked <;> simp [taught, gapsOf]

theorem foldlM_addChain (curriculum : Curriculum) (chains : List RankedChain) :
    chains.foldlM p.addChain curriculum =
      if chains.any p.stopsAt then .error .overflow else .ok (chains.foldl p.added curriculum) := by
  induction chains generalizing curriculum with
  | nil => rfl
  | cons ranked chains ih =>
    rw [List.foldlM_cons, addChain_eq, List.any_cons]
    cases stops : p.stopsAt ranked with
    | true => rfl
    | false => exact ih _

def assembled (p : Project) (chains : List RankedChain) : Curriculum where
  levels := p.levelsOf (chains.filter p.teaches)
  gaps := p.gapsOf chains
  dropped := (chains.filter fun ranked => !p.teaches ranked).map p.drop

def IsStopped (p : Project) : Prop :=
  p.overflow = .stops ∧
    ∃ ranked ∈ p.ranked, p.teaches ranked = true ∧ UInt32.size ≤ p.minutes ranked

theorem any_stopsAt_iff : p.ranked.any p.stopsAt = true ↔ p.IsStopped := by
  simp only [List.any_eq_true, stopsAt, Bool.and_eq_true, decide_eq_true_eq, IsStopped]
  constructor
  · rintro ⟨ranked, mem, ⟨build, taught⟩, large⟩
    exact ⟨build, ranked, mem, taught, large⟩
  · rintro ⟨build, ranked, mem, taught, large⟩
    exact ⟨ranked, mem, ⟨build, taught⟩, large⟩

theorem not_isStopped_of_short
    (short : ∀ kind, maxChallenges * (p.config.rewards.minutes.get kind).toNat < UInt32.size) :
    ¬p.IsStopped := by
  rintro ⟨-, ranked, -, -, large⟩
  exact Nat.not_lt.2 large (totalMinutes_lt length_challenges_le short)

theorem ranked_eq_nil (noEntries : p.graph.entryPoints.isEmpty = true) : p.ranked = [] := by
  have entries : p.graph.entryPoints.ids = [] := List.isEmpty_iff.1 noEntries
  simp [ranked, RankingConfig.rank, CallGraph.enumerate_eq, CallGraph.maximalPaths, entries]

/-- Under a valid configuration the ranked chains are assembled, unless entry points are required
    and there are none, or one of the chains ends the run. -/
theorem generate_eq (valid : p.config.faults = []) : p.generate =
    if p.graph.entryPoints.isEmpty ∧ p.config.requireEntryPoints then .error .noEntryPoints
    else if p.ranked.any p.stopsAt then .error .overflow else .ok (p.assembled p.ranked) := by
  have added : p.ranked.foldl p.added {} = p.assembled p.ranked := p.foldl_added {} p.ranked
  unfold generate
  rw [(Config.validate_eq_ok_iff _).2 valid]
  cases noEntries : p.graph.entryPoints.isEmpty with
  | true =>
    -- Without entry points nothing is ranked, so the empty curriculum is the assembled one.
    rw [ranked_eq_nil noEntries]
    cases p.config.requireEntryPoints <;> rfl
  | false =>
    rw [foldlM_addChain, added]
    rfl

/-- What a successful run does: the configuration is valid, and the ranked chains are assembled. -/
theorem generate_eq_ok {curriculum : Curriculum} (h : p.generate = .ok curriculum) :
    p.config.faults = [] ∧ curriculum =
      { levels := p.levelsOf (p.ranked.filter p.teaches)
        gaps := p.gapsOf p.ranked
        dropped := (p.ranked.filter fun ranked => !p.teaches ranked).map p.drop } := by
  have valid : p.config.faults = [] := by
    unfold generate at h
    split at h
    · cases h
    · rename_i valid
      exact (Config.validate_eq_ok_iff _).1 valid
  rw [generate_eq valid] at h
  split at h
  · cases h
  · split at h
    · cases h
    · cases h
      exact ⟨valid, rfl⟩

theorem generate_eq_overflow_iff :
    p.generate = .error .overflow ↔ p.config.faults = [] ∧ p.IsStopped := by
  constructor
  · intro h
    have valid : p.config.faults = [] := by
      unfold generate at h
      split at h
      · cases h
      · rename_i valid
        exact (Config.validate_eq_ok_iff _).1 valid
    rw [generate_eq valid] at h
    split at h
    · cases h
    · split at h
      · exact ⟨valid, any_stopsAt_iff.1 ‹_›⟩
      · cases h
  · rintro ⟨valid, stopped⟩
    have entries : p.graph.entryPoints.isEmpty = false := by
      refine Bool.eq_false_iff.2 fun none => ?_
      obtain ⟨-, ranked, mem, -⟩ := stopped
      rw [ranked_eq_nil none] at mem
      cases mem
    rw [generate_eq valid, if_neg (by simp [entries]), if_pos (any_stopsAt_iff.2 stopped)]

theorem not_isStopped_of_generate {curriculum : Curriculum} (h : p.generate = .ok curriculum) :
    ¬p.IsStopped := by
  intro stopped
  rw [generate_eq_overflow_iff.2 ⟨(generate_eq_ok h).1, stopped⟩] at h
  cases h

theorem generate_of_not_isStopped (valid : p.config.faults = [])
    (needed : ¬(p.graph.entryPoints.isEmpty ∧ p.config.requireEntryPoints))
    (goes : ¬p.IsStopped) : p.generate = .ok (p.assembled p.ranked) := by
  rw [generate_eq valid, if_neg needed, if_neg (mt any_stopsAt_iff.1 goes)]

theorem levelsOf_concat (chains : List RankedChain) (ranked : RankedChain) :
    p.levelsOf (chains ++ [ranked]) = p.addLevel (p.levelsOf chains) ranked := by
  unfold levelsOf
  rw [List.foldl_append, List.foldl_cons, List.foldl_nil]

/-- What can be said of each level by its chain can be said of all of them. -/
theorem map_levelsOf {α : Type} {f : Level → α} {f' : RankedChain → α}
    (each : ∀ id previous ranked, f (p.levelOf id previous ranked) = f' ranked)
    (chains : List RankedChain) : (p.levelsOf chains).map f = chains.map f' := by
  induction chains using List.reverseRecOn with
  | nil => rfl
  | append_singleton chains ranked ih =>
    rw [levelsOf_concat, addLevel, List.map_append, List.map_append, ih, List.map_singleton, each,
      List.map_singleton]

theorem map_chain_levelsOf (chains : List RankedChain) :
    (p.levelsOf chains).map (·.chain) = chains.map (·.chain) :=
  map_levelsOf (fun _ _ _ => rfl) chains

theorem map_tier_levelsOf (chains : List RankedChain) :
    (p.levelsOf chains).map (fun level => (level.chain, level.tier))
      = chains.map fun ranked => (ranked.chain, p.tier ranked.chain) :=
  map_levelsOf (fun _ _ _ => rfl) chains

theorem exists_level_iff (chains : List RankedChain) (chain : Chain) :
    (∃ level ∈ p.levelsOf chains, level.chain = chain) ↔
      ∃ ranked ∈ chains, ranked.chain = chain := by
  rw [← List.mem_map, ← List.mem_map, map_chain_levelsOf]

theorem length_levelsOf (chains : List RankedChain) :
    (p.levelsOf chains).length = chains.length := by
  have chainsEq := congrArg List.length (p.map_chain_levelsOf chains)
  rwa [List.length_map, List.length_map] at chainsEq

/-- Numbers are given in order, whatever was dropped in between. -/
theorem map_id_levelsOf (chains : List RankedChain) :
    (p.levelsOf chains).map (·.id) = (List.range chains.length).map nextId := by
  induction chains using List.reverseRecOn with
  | nil => rfl
  | append_singleton chains ranked ih =>
    rw [levelsOf_concat, addLevel, List.map_append, ih, length_levelsOf, List.length_append,
      List.length_singleton, List.range_succ, List.map_append]
    rfl

theorem levelsOf_split {chains : List RankedChain} {before after : List Level} {level : Level}
    (h : p.levelsOf chains = before ++ level :: after) : ∃ ranked ∈ chains,
      level = p.levelOf (nextId before.length) before.getLast? ranked := by
  induction chains using List.reverseRecOn generalizing after with
  | nil => simp [levelsOf] at h
  | append_singleton chains ranked ih =>
    rw [levelsOf_concat, addLevel] at h
    rcases List.eq_nil_or_concat after with rfl | ⟨others, last, rfl⟩
    · obtain ⟨same, new⟩ := List.append_inj' h rfl
      refine ⟨ranked, by simp, ?_⟩
      rw [← same]
      exact (List.singleton_inj.1 new).symm
    · rw [List.concat_eq_append, ← List.cons_append, ← List.append_assoc] at h
      obtain ⟨ranked, mem, eq⟩ := ih (List.append_inj' h rfl).1
      exact ⟨ranked, List.mem_append_left _ mem, eq⟩

theorem exists_of_mem_levelsOf {chains : List RankedChain} {level : Level}
    (h : level ∈ p.levelsOf chains) : ∃ ranked ∈ chains, ∃ id previous,
      level = p.levelOf id previous ranked := by
  obtain ⟨before, after, split⟩ := List.append_of_mem h
  obtain ⟨ranked, mem, levelEq⟩ := levelsOf_split split
  exact ⟨ranked, mem, _, _, levelEq⟩

theorem challenges_of_mem_levelsOf {chains : List RankedChain} {level : Level}
    (h : level ∈ p.levelsOf chains) :
    level.challenges = (p.challenges level.chain (p.tier level.chain)).1 := by
  obtain ⟨ranked, -, id, previous, rfl⟩ := exists_of_mem_levelsOf h
  rfl

def withMaxLevels (p : Project) (n : UInt64) : Project :=
  { p with config := { p.config with maxLevels := n } }

def circular : Project where
  graph := CallGraph.circularGraph

def circularChains : List Chain :=
  circular.graph.enumerate circular.config.maxDepth.toNat circular.config.maxCandidateChains.toNat

theorem circular_generates : ∃ curriculum, circular.generate = .ok curriculum := by
  have goes : ¬circular.IsStopped := by
    refine not_isStopped_of_short fun kind => ?_
    cases kind <;> decide
  exact ⟨_, generate_of_not_isStopped (by decide +kernel) (by decide +kernel) goes⟩

theorem circular_ranks : ∃ ranked ∈ circular.ranked, ranked.chain.ids = ["main", "emit"] := by
  have room : circularChains.length ≤ circular.config.maxLevels.toNat := by decide +kernel
  have enumerated : (⟨["main", "emit"], by decide, by decide⟩ : Chain) ∈ circularChains := by
    decide +kernel
  obtain ⟨ranked, mem, eq⟩ := RankingConfig.exists_mem_rank room enumerated
  exact ⟨ranked, mem, congrArg Chain.ids eq⟩

theorem filter_teaches_circular {chains : List RankedChain}
    (known : ∀ ranked ∈ chains, ranked.chain ∈ circularChains) :
    chains.filter circular.teaches = chains := by
  have enough : ∀ chain ∈ circularChains,
      minChallenges ≤ (successes (circular.make chain) ChallengeKind.all).length := by
    decide +kernel
  exact List.filter_eq_self.2 fun ranked mem => teaches_iff.2 (enough _ (known ranked mem))

end Project
end CodeReading
