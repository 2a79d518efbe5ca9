import CodeReading.Proofs.Curriculum.Assembly

set_option autoImplicit false

namespace CodeReading

/-- Whether the estimate of a level is the time that its challenges take. -/
structure Level.IsTimed (table : KindTable UInt32) (level : Level) : Prop where
  total : level.estimatedTime.toNat = totalMinutes table level.challenges
  positive : 0 < level.estimatedTime
  covers : ∀ challenge ∈ level.challenges, table.get challenge.kind ≤ level.estimatedTime

namespace Project

variable {p : Project} {chains : List RankedChain} {level : Level}

theorem toNat_estimatedTime (mem : level ∈ p.levelsOf chains) : level.estimatedTime.toNat
    = totalMinutes p.config.rewards.minutes level.challenges % UInt32.size := by
  obtain ⟨ranked, -, id, previous, rfl⟩ := exists_of_mem_levelsOf mem
  exact UInt32.toNat_ofNat'

theorem length_challenges_of_mem_levelsOf (mem : level ∈ p.levelsOf (chains.filter p.teaches)) :
    minChallenges ≤ level.challenges.length ∧ level.challenges.length ≤ maxChallenges := by
  obtain ⟨ranked, chosen, id, previous, rfl⟩ := exists_of_mem_levelsOf mem
  exact ⟨of_decide_eq_true (List.mem_filter.1 chosen).2, length_challenges_le⟩

theorem totalMinutes_lt_of_stops (goes : ¬p.IsStopped) (build : p.overflow = .stops)
    (mem : level ∈ p.levelsOf (p.ranked.filter p.teaches)) :
    totalMinutes p.config.rewards.minutes level.challenges < UInt32.size := by
  obtain ⟨ranked, chosen, id, previous, rfl⟩ := exists_of_mem_levelsOf mem
  obtain ⟨isRanked, taught⟩ := List.mem_filter.1 chosen
  exact Nat.not_le.1 fun large => goes ⟨build, ranked, isRanked, taught, large⟩

theorem isTimed_iff (valid : p.config.faults = [])
    (mem : level ∈ p.levelsOf (chains.filter p.teaches)) :
    level.IsTimed p.config.rewards.minutes ↔
      totalMinutes p.config.rewards.minutes level.challenges < UInt32.size := by
  constructor
  · intro timed
    rw [← timed.total]
    exact level.estimatedTime.toNat_lt_size
  · intro fits
    have total := toNat_estimatedTime mem
    rw [Nat.mod_eq_of_lt fits] at total
    have covers : ∀ challenge ∈ level.challenges,
        p.config.rewards.minutes.get challenge.kind ≤ level.estimatedTime := by
      intro challenge isIn
      rw [UInt32.le_iff_toNat_le, total]
      exact toNat_le_totalMinutes isIn
    have some : 0 < level.challenges.length :=
      Nat.lt_of_lt_of_le (by decide) (length_challenges_of_mem_levelsOf mem).1
    obtain ⟨challenge, isIn⟩ := List.exists_mem_of_length_pos some
    have takes := (Config.kind_pos valid challenge.kind).2
    refine ⟨total, ?_, covers⟩
    rw [UInt32.lt_iff_toNat_lt]
    exact UInt32.le_iff_toNat_le.1 (UInt32.le_trans takes (covers challenge isIn))

/-- The estimate of a level is the time that its challenges take, wrapped to 32 bits, and it is right
    exactly when that fits. A run stops, in a build that checks its sums, exactly when the time for
    one of the chains does not fit; so what such a build makes is right. All is right, in any build,
    where no kind takes more than a fifth of what fits. -/
theorem generate_estimates (p : Project) :
    (∀ curriculum, p.generate = .ok curriculum → ∀ level ∈ curriculum.levels,
      level.estimatedTime.toNat
        = totalMinutes p.config.rewards.minutes level.challenges % UInt32.size ∧
      (level.IsTimed p.config.rewards.minutes ↔
        totalMinutes p.config.rewards.minutes level.challenges < UInt32.size) ∧
      (p.overflow = .stops → level.IsTimed p.config.rewards.minutes)) ∧
    (p.generate = .error .overflow ↔ p.config.faults = [] ∧ p.IsStopped) ∧
    ((∀ kind, maxChallenges * (p.config.rewards.minutes.get kind).toNat < UInt32.size) →
      p.generate ≠ .error .overflow ∧ ∀ curriculum, p.generate = .ok curriculum →
        ∀ level ∈ curriculum.levels, level.IsTimed p.config.rewards.minutes) := by
  refine ⟨?_, generate_eq_overflow_iff, fun short => ⟨?_, ?_⟩⟩
  · intro curriculum made level mem
    have goes := not_isStopped_of_generate made
    obtain ⟨valid, rfl⟩ := generate_eq_ok made
    refine ⟨toNat_estimatedTime mem, isTimed_iff valid mem, fun build => ?_⟩
    exact (isTimed_iff valid mem).2 (totalMinutes_lt_of_stops goes build mem)
  · exact fun stopped => not_isStopped_of_short short (generate_eq_overflow_iff.1 stopped).2
  · intro curriculum made level mem
    obtain ⟨valid, rfl⟩ := generate_eq_ok made
    have few := (length_challenges_of_mem_levelsOf mem).2
    exact (isTimed_iff valid mem).2 (totalMinutes_lt few short)

def readerDraft : Draft where
  nodes := [{ id := "open", name := "open", kind := .function, returnType := some "File" },
    { id := "read", name := "read", kind := .function, returnType := some "str" }]
  edges := [⟨"open", "read", 1⟩]
  entryPoints := ["open"]
  lenient := true

def lengthy (minutes : UInt32) (overflow : Overflow) : Project where
  graph := readerDraft.build.toOption.getD ⟨[], [], ∅⟩
  config := { rewards := { minutes := ⟨minutes, 1, 1, 1, 1, 1⟩ } }
  overflow

theorem generate_estimates_lengthy : ∃ curriculum,
    (lengthy 858993459 .wraps).generate = .ok curriculum ∧
      (∀ kind, maxChallenges * ((lengthy 858993459 .wraps).config.rewards.minutes.get kind).toNat
        < UInt32.size) ∧
      ∃ level ∈ curriculum.levels, level.estimatedTime = 858993461 ∧
        level.IsTimed (lengthy 858993459 .wraps).config.rewards.minutes := by
  have run : (lengthy 858993459 .wraps).generate.toOption.map (fun curriculum =>
      curriculum.levels.map (·.estimatedTime)) = some [858993461] := by
    decide +kernel
  obtain ⟨curriculum, generated, times⟩ := Option.map_eq_some_iff.1 run
  rw [toOption_eq_some_iff] at generated
  obtain ⟨level, levels, time⟩ := List.map_eq_singleton_iff.1 times
  have mem : level ∈ curriculum.levels := levels ▸ List.mem_singleton_self level
  have short : ∀ kind, maxChallenges
      * ((lengthy 858993459 .wraps).config.rewards.minutes.get kind).toNat < UInt32.size := by
    intro kind
    cases kind <;> decide
  obtain ⟨-, -, timed⟩ := generate_estimates (lengthy 858993459 .wraps)
  exact ⟨curriculum, generated, short, level, mem, time,
    (timed short).2 curriculum generated level mem⟩

/-- Three challenges whose minutes are one too many together end the run, or are estimated to take
    no time. -/
theorem generate_estimates_nothing : (lengthy 4294967294 .stops).graph.Built ∧
    (lengthy 4294967294 .stops).generate = .error .overflow ∧ ∃ curriculum,
      (lengthy 4294967294 .wraps).generate = .ok curriculum ∧ ∃ level ∈ curriculum.levels,
        totalMinutes (lengthy 4294967294 .wraps).config.rewards.minutes level.challenges
          = UInt32.size ∧ level.estimatedTime = 0 := by
  have run : (lengthy 4294967294 .wraps).generate.toOption.map (fun curriculum =>
      curriculum.levels.map fun level =>
        (totalMinutes (lengthy 4294967294 .wraps).config.rewards.minutes level.challenges,
          level.estimatedTime)) = some [(UInt32.size, 0)] := by
    decide +kernel
  have stopped : (lengthy 4294967294 .stops).generate = .error .overflow := by decide +kernel
  obtain ⟨curriculum, generated, times⟩ := Option.map_eq_some_iff.1 run
  rw [toOption_eq_some_iff] at generated
  obtain ⟨level, levels, time⟩ := List.map_eq_singleton_iff.1 times
  obtain ⟨minutes, estimate⟩ := Prod.mk.inj time
  exact ⟨⟨readerDraft, rfl⟩, stopped, curriculum, generated, level,
    levels ▸ List.mem_singleton_self level, minutes, estimate⟩

end Project
end CodeReading
