import CodeReading.Proofs.Curriculum.Assembly

set_option autoImplicit false

namespace CodeReading

variable {make : ChallengeKind → Except Gap Challenge} {p : Project} {chain : Chain} {tier : Tier}

/-- All selected kinds, and then fallbacks in their order, each while there are fewer than three
    challenges. -/
def IsAttempted (make : ChallengeKind → Except Gap Challenge)
    (selected kinds : List ChallengeKind) : Prop :=
  ∃ used unused, ChallengeKind.fallbacks selected = used ++ unused ∧ kinds = selected ++ used ∧
    (∀ before kind after, used = before ++ kind :: after →
      (successes make (selected ++ before)).length < 3) ∧
    (unused = [] ∨ 3 ≤ (successes make kinds).length)

/-- What a curriculum says about a ranked chain. -/
structure Curriculum.AccountsFor (p : Project) (curriculum : Curriculum) (chain : Chain) :
    Prop where
  level_iff : (∃ level ∈ curriculum.levels, level.chain = chain) ↔
    3 ≤ (successes (p.make chain) ChallengeKind.all).length
  dropped_iff : (∃ dropped ∈ curriculum.dropped, dropped.chain = chain) ↔
    (successes (p.make chain) ChallengeKind.all).length < 3
  /-- At any other tier, and so with other kinds selected, it would be the same. -/
  anyTier : ∀ tier, 3 ≤ (p.challenges chain tier).1.length ↔
    3 ≤ (successes (p.make chain) ChallengeKind.all).length
  challenges : ∀ level ∈ curriculum.levels, level.chain = chain →
    level.challenges = successes (p.make chain) (p.selected chain (p.tier chain))
      ++ (successes (p.make chain) (p.fallbacks chain (p.tier chain))).take
        (3 - (successes (p.make chain) (p.selected chain (p.tier chain))).length)
  attempted : IsAttempted (p.make chain) (p.selected chain (p.tier chain))
    (p.attempted chain (p.tier chain))
  once : (p.attempted chain (p.tier chain)).Nodup
  gap_kind : ∀ kind gap, p.make chain kind = .error gap →
    gap.kind = kind ∧ gap.entry = chain.entry
  dropped_gaps : (∃ dropped ∈ curriculum.dropped, dropped.chain = chain) →
    (failures (p.make chain) (p.attempted chain (p.tier chain))).Perm
      (failures (p.make chain) ChallengeKind.all)

namespace Project

theorem isAttempted_attempted (p : Project) (chain : Chain) (tier : Tier) :
    IsAttempted (p.make chain) (p.selected chain tier) (p.attempted chain tier) := by
  obtain ⟨unused, split, enough, needed⟩ := tried_spec (p.make chain) (p.missing chain tier)
    (p.fallbacks chain tier)
  refine ⟨_, unused, split, rfl, ?_, enough.imp_right fun reached => ?_⟩
  · intro before kind after eq
    have few := needed before kind after eq
    rw [successes_append, List.length_append]
    unfold missing minChallenges at few
    omega
  · unfold attempted
    rw [successes_append, List.length_append]
    unfold missing minChallenges at *
    omega

variable {ranked other : RankedChain}

theorem teaches_congr (h : ranked.chain = other.chain) : p.teaches ranked = p.teaches other := by
  unfold teaches outcome
  rw [h]

theorem exists_level_iff_teaches (mem : ranked ∈ p.ranked) :
    (∃ level ∈ p.levelsOf (p.ranked.filter p.teaches), level.chain = ranked.chain) ↔
      p.teaches ranked = true := by
  rw [exists_level_iff]
  constructor
  · rintro ⟨other, isTaught, eq⟩
    rw [← teaches_congr eq]
    exact (List.mem_filter.1 isTaught).2
  · intro taught
    exact ⟨ranked, List.mem_filter.2 ⟨mem, taught⟩, rfl⟩

theorem exists_dropped_iff_not_teaches (mem : ranked ∈ p.ranked) :
    (∃ dropped ∈ (p.ranked.filter fun ranked => !p.teaches ranked).map p.drop,
      dropped.chain = ranked.chain) ↔ p.teaches ranked = false := by
  constructor
  · rintro ⟨dropped, isDropped, eq⟩
    obtain ⟨other, isUntaught, rfl⟩ := List.mem_map.1 isDropped
    have untaught := (List.mem_filter.1 isUntaught).2
    rw [Bool.not_eq_true'] at untaught
    rw [← teaches_congr eq]
    exact untaught
  · intro untaught
    refine ⟨p.drop ranked, List.mem_map_of_mem (List.mem_filter.2 ⟨mem, ?_⟩), rfl⟩
    rw [untaught]
    rfl

theorem generate_accounts {curriculum : Curriculum} (h : p.generate = .ok curriculum) :
    (∀ ranked ∈ p.ranked, curriculum.AccountsFor p ranked.chain) ∧
      curriculum.gaps = p.ranked.flatMap fun ranked =>
        failures (p.make ranked.chain) (p.attempted ranked.chain (p.tier ranked.chain)) := by
  obtain ⟨-, rfl⟩ := generate_eq_ok h
  constructor
  · intro ranked mem
    have untaught : p.teaches ranked = false ↔
        (successes (p.make ranked.chain) ChallengeKind.all).length < 3 := by
      rw [← Bool.not_eq_true, teaches_iff]
      exact Nat.not_le
    refine
      { level_iff := (exists_level_iff_teaches mem).trans teaches_iff
        dropped_iff := (exists_dropped_iff_not_teaches mem).trans untaught
        anyTier := p.enough_iff ranked.chain
        challenges := ?_
        attempted := p.isAttempted_attempted _ _
        once := nodup_attempted
        gap_kind := ?_
        dropped_gaps := ?_ }
    · intro level isLevel eq
      rw [challenges_of_mem_levelsOf isLevel, eq, challenges_eq, successes_attempted]
      rfl
    · intro kind gap failed
      obtain ⟨reason, -, rfl⟩ := Material.generate_eq_error_iff.1 failed
      exact ⟨rfl, rfl⟩
    · intro dropped
      have few := (exists_dropped_iff_not_teaches mem).1 dropped
      have attempted := attempted_perm_of_few (Nat.not_le.1 (of_decide_eq_false few))
      exact attempted.filterMap _
  · refine List.flatMap_congr fun ranked _ => ?_
    unfold outcome
    rw [challenges_eq]

theorem generate_accounts_circular : ∃ curriculum, circular.generate = .ok curriculum ∧
    ∃ ranked ∈ circular.ranked, ranked.chain.ids = ["main", "emit"] ∧
      curriculum.AccountsFor circular ranked.chain := by
  obtain ⟨curriculum, generated⟩ := circular_generates
  obtain ⟨ranked, mem, ids⟩ := circular_ranks
  exact ⟨curriculum, generated, ranked, mem, ids, (generate_accounts generated).1 ranked mem⟩

end Project
end CodeReading
