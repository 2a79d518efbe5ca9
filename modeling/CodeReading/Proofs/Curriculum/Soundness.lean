import CodeReading.Proofs.Curriculum.Prerequisites

set_option autoImplicit false

namespace CodeReading

/-- What every level must offer under the settings of a project. -/
structure Level.IsSound (p : Project) (level : Level) : Prop where
  path : p.graph.IsPath level.chain.ids
  short : level.chain.length ≤ p.config.maxDepth.toNat
  entry : level.chain.ids.head? = some level.entryFunction
  enough : 3 ≤ level.challenges.length
  notTooMany : level.challenges.length ≤ 5
  kinds : (level.challenges.map Challenge.kind).Nodup
  ids : (level.challenges.map Challenge.id).Nodup
  hints : ∀ challenge ∈ level.challenges, challenge.hints ≠ []
  points : ∀ challenge ∈ level.challenges, 1 ≤ challenge.points
  objectives : 1 ≤ level.objectives.length ∧ level.objectives.length ≤ 3
  reward : 1 ≤ level.xpReward

structure Curriculum.IsSound (p : Project) (curriculum : Curriculum) : Prop where
  count : curriculum.levels.length ≤ p.config.maxLevels.toNat
  /-- As long as level numbers suffice, the levels are numbered from one. -/
  numbered : curriculum.levels.length < UInt32.size →
    curriculum.levels.map (·.id.number.toNat) = List.range' 1 curriculum.levels.length
  distinct : (curriculum.levels.map (·.chain)).Nodup
  sound : ∀ level ∈ curriculum.levels, level.IsSound p
  /-- A level has no prerequisite but the level right before it, which has a smaller number. -/
  backward : ∀ before level after, curriculum.levels = before ++ level :: after →
    level.prerequisites = [] ∨
      ∃ previous, before.getLast? = some previous ∧ level.prerequisites = [previous.id] ∧
        (curriculum.levels.length < UInt32.size → previous.id.number < level.id.number)

section
variable {m : Material} {chain : Chain} {kinds : List ChallengeKind} {challenge : Challenge}

theorem isMade_of_mem_successes (h : challenge ∈ successes (m.generate chain) kinds) :
    ∃ kind, m.IsMade chain kind challenge := by
  obtain ⟨kind, -, made⟩ := mem_successes.1 h
  exact ⟨kind, Material.isMade_of_attempt (Material.generate_eq_ok_iff.1 made)⟩

theorem kinds_successes_sublist :
    ((successes (m.generate chain) kinds).map Challenge.kind).Sublist kinds := by
  induction kinds with
  | nil => exact .slnil
  | cons kind kinds ih =>
    cases made : m.generate chain kind with
    | ok challenge =>
      have kindEq := (Material.isMade_of_attempt (Material.generate_eq_ok_iff.1 made)).kind_eq
      rw [successes_cons_ok made, List.map_cons, kindEq]
      exact ih.cons_cons kind
    | error gap =>
      rw [successes_cons_error made]
      exact ih.cons kind

theorem nodup_ids_of_nodup_kinds {challenges : List Challenge}
    (made : ∀ challenge ∈ challenges, ∃ kind, m.IsMade chain kind challenge)
    (distinct : (challenges.map Challenge.kind).Nodup) :
    (challenges.map Challenge.id).Nodup := by
  refine List.pairwise_map.2 ((List.pairwise_map.1 distinct).imp_of_mem ?_)
  intro challenge other mem otherMem differ same
  obtain ⟨kind, ofKind⟩ := made challenge mem
  obtain ⟨otherKind, ofOtherKind⟩ := made other otherMem
  apply differ
  rw [ofKind.kind_eq, ofOtherKind.kind_eq]
  exact ofKind.kind_eq_of_id ofOtherKind same

end

namespace Project

variable {p : Project} {ranked : RankedChain}

theorem length_objectives (p : Project) (chain : Chain) :
    1 ≤ (p.objectives chain).length ∧ (p.objectives chain).length ≤ 3 := by
  unfold objectives
  rw [List.length_take, List.length_cons]
  omega

theorem level_isSound (built : p.graph.Built) (valid : p.config.faults = [])
    (mem : ranked ∈ p.ranked) (taught : p.teaches ranked = true) (id : LevelId)
    (previous : Option Level) :
    (p.levelOf id previous ranked).IsSound p := by
  have maximal := RankingConfig.isMaximalPath_of_mem_rank built.closed mem
  have depth : 1 ≤ p.config.maxDepth.toNat := by
    have nonzero := Config.maxDepth_ne_zero valid
    rw [Ne, ← UInt64.toNat_inj] at nonzero
    exact Nat.one_le_iff_ne_zero.2 nonzero
  have short := maximal.bounded
  rw [Nat.max_eq_left depth] at short
  have made : (p.outcome ranked).1 = successes (p.make ranked.chain)
      (p.attempted ranked.chain (p.tier ranked.chain)) := by
    unfold outcome
    rw [challenges_eq]
  have isMade : ∀ challenge ∈ (p.outcome ranked).1,
      ∃ kind, p.material.IsMade ranked.chain kind challenge := by
    rw [made]
    exact fun challenge => isMade_of_mem_successes
  have kinds : ((p.outcome ranked).1.map Challenge.kind).Nodup := by
    rw [made]
    exact List.Nodup.sublist kinds_successes_sublist nodup_attempted
  refine
    { path := maximal.toIsPath
      short
      entry := List.head?_eq_some_head ranked.chain.nonempty
      enough := of_decide_eq_true taught
      notTooMany := length_challenges_le
      kinds
      ids := nodup_ids_of_nodup_kinds isMade kinds
      hints := ?_
      points := ?_
      objectives := p.length_objectives ranked.chain
      reward := XpTable.reward_pos (Config.xpFaults_eq_nil valid) _ }
  · intro challenge mem
    obtain ⟨kind, ofKind⟩ := isMade challenge mem
    exact ofKind.hints_ne
  · intro challenge mem
    obtain ⟨kind, ofKind⟩ := isMade challenge mem
    rw [ofKind.points_eq]
    exact (Config.kind_pos valid kind).1

theorem nextId_number {count : Nat} (h : count + 1 < UInt32.size) :
    (nextId count).number.toNat = count + 1 := by
  have small : min (count + 1) (UInt32.size - 1) = count + 1 := by omega
  rw [nextId, small]
  exact UInt32.toNat_ofNat_of_lt' h

theorem number_levelsOf {chains : List RankedChain} (h : chains.length < UInt32.size) :
    (p.levelsOf chains).map (·.id.number.toNat) = List.range' 1 chains.length := by
  have ids := congrArg (List.map fun id => id.number.toNat) (p.map_id_levelsOf chains)
  rw [List.map_map, List.map_map] at ids
  rw [List.range'_eq_map_range]
  refine ids.trans (List.map_congr_left fun count mem => ?_)
  rw [List.mem_range] at mem
  rw [Nat.add_comm]
  exact nextId_number (by omega)

theorem number_lt_of_successive {chains : List RankedChain} (h : chains.length < UInt32.size)
    {before after : List Level} {previous level : Level}
    (split : p.levelsOf chains = before ++ previous :: level :: after) :
    previous.id.number < level.id.number := by
  have length := congrArg List.length split
  rw [length_levelsOf, List.length_append, List.length_cons, List.length_cons] at length
  obtain ⟨_, -, previousEq⟩ := levelsOf_split split
  rw [List.append_cons] at split
  obtain ⟨_, -, levelEq⟩ := levelsOf_split split
  rw [List.length_append, List.length_singleton] at levelEq
  have previousNumber : previous.id.number.toNat = before.length + 1 := by
    rw [previousEq]
    exact nextId_number (by omega)
  have levelNumber : level.id.number.toNat = before.length + 1 + 1 := by
    rw [levelEq]
    exact nextId_number (by omega)
  rw [UInt32.lt_iff_toNat_lt]
  omega

theorem prerequisites_cases (previous : Option Level) (chain : Chain) :
    p.prerequisites previous chain = [] ∨
      ∃ level, previous = some level ∧ p.prerequisites previous chain = [level.id] := by
  unfold prerequisites
  split
  · split
    · exact Or.inr ⟨_, rfl, rfl⟩
    · exact Or.inl rfl
  · exact Or.inl rfl

theorem generate_isSound (built : p.graph.Built) {curriculum : Curriculum}
    (h : p.generate = .ok curriculum) : curriculum.IsSound p := by
  obtain ⟨valid, rfl⟩ := generate_eq_ok h
  refine ⟨?_, ?_, ?_, ?_, ?_⟩
  · dsimp only
    rw [length_levelsOf]
    exact Nat.le_trans (List.length_filter_le _ _) RankingConfig.rank_length_le
  · dsimp only
    rw [length_levelsOf]
    exact number_levelsOf
  · dsimp only
    rw [map_chain_levelsOf]
    exact List.Nodup.sublist (List.filter_sublist.map _) RankingConfig.nodup_rank_chains
  · intro level mem
    obtain ⟨ranked, chosen, id, previous, rfl⟩ := exists_of_mem_levelsOf mem
    obtain ⟨mem, taught⟩ := List.mem_filter.1 chosen
    exact level_isSound built valid mem taught _ _
  · intro before level after split
    obtain ⟨ranked, -, levelEq⟩ := levelsOf_split split
    rcases p.prerequisites_cases before.getLast? ranked.chain with none | ⟨previous, last, one⟩
    · rw [levelEq]
      exact Or.inl none
    · refine Or.inr ⟨previous, last, by rw [levelEq]; exact one, ?_⟩
      obtain ⟨init, rfl⟩ := List.getLast?_eq_some_iff.1 last
      rw [List.append_assoc] at split
      dsimp only
      rw [length_levelsOf]
      exact fun few => number_lt_of_successive few split

theorem generate_isSound_circular : circular.graph.Built ∧
    ∃ curriculum, circular.generate = .ok curriculum ∧ curriculum.IsSound circular ∧
      curriculum.levels.map (fun level => (level.id, level.prerequisites))
        = [(⟨1⟩, []), (⟨2⟩, [⟨1⟩]), (⟨3⟩, [⟨2⟩])] := by
  obtain ⟨curriculum, generated⟩ := circular_generates
  exact ⟨CallGraph.circularGraph_built, curriculum, generated,
    generate_isSound CallGraph.circularGraph_built generated,
    levels_circular (n := circular.config.maxLevels) generated⟩

end Project
end CodeReading
