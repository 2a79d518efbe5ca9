import CodeReading.Proofs.Challenge.Success
import CodeReading.Proofs.Curriculum.Assembly

set_option autoImplicit false

namespace CodeReading

/-- A single node that calls nothing and has no return type. -/
def CallGraph.IsBare (g : CallGraph) (chain : Chain) : Prop :=
  ∃ node, g.node? chain.entry = some node ∧ chain.ids = [node.id] ∧ node.calls = ∅ ∧
    node.returnType = none

/-- Several nodes, or an entry with a callee, be it itself, or with a return type. -/
def CallGraph.IsRich (g : CallGraph) (chain : Chain) : Prop :=
  2 ≤ chain.length ∨
    ∃ node, g.node? chain.entry = some node ∧ (node.calls ≠ ∅ ∨ node.returnType ≠ none)

namespace CallGraph

variable {g : CallGraph} {chain : Chain}

theorem IsPath.exists_entry (closed : g.Closed) (path : g.IsPath chain.ids) :
    ∃ node, g.node? chain.entry = some node :=
  Option.isSome_iff_exists.1
    (node?_isSome_iff.2 (path.known closed chain.entry (List.head_mem chain.nonempty)))

theorem IsPath.entry_calls (path : g.IsPath chain.ids) (long : 2 ≤ chain.length) :
    ∃ node, g.node? chain.entry = some node ∧ node.calls ≠ ∅ := by
  obtain ⟨entry, second, rest, ids⟩ : ∃ entry second rest, chain.ids = entry :: second :: rest := by
    match ids : chain.ids, chain.nonempty with
    | [entry], _ => simp [Chain.length, ids] at long
    | entry :: second :: rest, _ => exact ⟨entry, second, rest, rfl⟩
  have first : chain.entry = entry := by simp [Chain.entry, ids]
  have calls := path.calls
  rw [ids] at calls
  obtain ⟨node, found, call⟩ := (List.isChain_cons_cons.1 calls).1
  exact ⟨node, first ▸ found, IdSet.ne_empty_of_mem call⟩

theorem IsPath.entry_of_isRich (path : g.IsPath chain.ids) (rich : g.IsRich chain) :
    ∃ node, g.node? chain.entry = some node ∧ (node.calls ≠ ∅ ∨ node.returnType ≠ none) := by
  rcases rich with long | entry
  · obtain ⟨node, found, calls⟩ := path.entry_calls long
    exact ⟨node, found, Or.inl calls⟩
  · exact entry

theorem IsPath.isBare_of_not_isRich (closed : g.Closed) (path : g.IsPath chain.ids)
    (poor : ¬ g.IsRich chain) : g.IsBare chain := by
  obtain ⟨node, found⟩ := path.exists_entry closed
  obtain ⟨short, nothing⟩ := not_or.1 poor
  have neither : ¬ (node.calls ≠ ∅ ∨ node.returnType ≠ none) :=
    fun either => nothing ⟨node, found, either⟩
  obtain ⟨calls, returns⟩ := not_or.1 neither
  refine ⟨node, found, ?_, not_not.1 calls, not_not.1 returns⟩
  rw [(mem_of_findNode? found).2]
  obtain ⟨entry, ids⟩ : ∃ entry, chain.ids = [entry] := by
    have some : 0 < chain.ids.length := List.length_pos_of_ne_nil chain.nonempty
    unfold Chain.length at short
    exact List.length_eq_one_iff.1 (by omega)
  simp [Chain.entry, ids]

end CallGraph

namespace Material

variable {m : Material} {chain : Chain}

/-- A question, a trace and a completion can be made for every rich path. -/
theorem enough_of_isRich (closed : m.graph.Closed) (path : m.graph.IsPath chain.ids)
    (rich : m.graph.IsRich chain) :
    minChallenges ≤ (successes (m.generate chain) ChallengeKind.all).length := by
  obtain ⟨entry, found, asks⟩ := path.entry_of_isRich rich
  have calls : entry.calls ≠ ∅ → entry.calls.isEmpty = false :=
    fun some => Bool.eq_false_iff.2 fun empty => some (IdSet.isEmpty_iff.1 empty)
  have question : m.Makes chain .multipleChoice := by
    refine makes_multipleChoice found ?_
    rcases asks with called | returns
    · refine Or.inr ?_
      rw [Option.isSome_or, List.isSome_head?.2 (List.isEmpty_eq_false_iff.1 (calls called))]
      exact Bool.or_true _
    · exact Or.inl (Option.isSome_iff_ne_none.2 returns)
  have trace : m.Makes chain .codeTracing := makes_codeTracing (path.known closed)
  have completion : m.Makes chain .codeCompletion := by
    refine makes_codeCompletion (mem_nodes (List.head_mem chain.nonempty) found) ?_
    rcases asks with called | returns
    · exact Or.inr (calls called)
    · exact Or.inl (Option.isSome_iff_ne_none.2 returns)
  have three : (successes (m.generate chain)
      [.multipleChoice, .codeTracing, .codeCompletion]).length = minChallenges := by
    refine length_successes_of_made ?_
    simp only [List.forall_mem_cons, List.not_mem_nil, false_implies, implies_true, and_true]
    exact ⟨question.generate, trace.generate, completion.generate⟩
  rw [← three]
  exact length_successes_le_all (by decide)

end Material

namespace Project

variable {p : Project}

/-- Only chains of a single bare node are dropped. All others become levels, and would so at any
    tier. -/
theorem generate_keeps_rich (built : p.graph.Built) {curriculum : Curriculum}
    (h : p.generate = .ok curriculum) :
    (∀ dropped ∈ curriculum.dropped, p.graph.IsBare dropped.chain) ∧
      ∀ ranked ∈ p.ranked, p.graph.IsRich ranked.chain →
        (∃ level ∈ curriculum.levels, level.chain = ranked.chain) ∧
          ∀ tier, minChallenges ≤ (p.challenges ranked.chain tier).1.length := by
  obtain ⟨-, rfl⟩ := generate_eq_ok h
  have paths : ∀ ranked ∈ p.ranked, p.graph.IsPath ranked.chain.ids := fun ranked mem =>
    (RankingConfig.isMaximalPath_of_mem_rank built.closed mem).toIsPath
  have enough : ∀ ranked ∈ p.ranked, p.graph.IsRich ranked.chain →
      minChallenges ≤ (successes (p.make ranked.chain) ChallengeKind.all).length :=
    fun ranked mem => Material.enough_of_isRich (m := p.material) built.closed (paths ranked mem)
  refine ⟨?_, ?_⟩
  · intro dropped isDropped
    obtain ⟨ranked, kept, rfl⟩ := List.mem_map.1 isDropped
    obtain ⟨mem, untaught⟩ := List.mem_filter.1 kept
    refine (paths ranked mem).isBare_of_not_isRich built.closed fun rich => ?_
    rw [teaches_iff.2 (enough ranked mem rich)] at untaught
    cases untaught
  · intro ranked mem rich
    refine ⟨(exists_level_iff _ _).2 ⟨ranked, ?_, rfl⟩, fun tier => ?_⟩
    · exact List.mem_filter.2 ⟨mem, teaches_iff.2 (enough ranked mem rich)⟩
    · exact (p.enough_iff ranked.chain tier).2 (enough ranked mem rich)

theorem generate_keeps_rich_circular : circular.graph.Built ∧
    ∃ curriculum, circular.generate = .ok curriculum ∧
      ∃ level ∈ curriculum.levels, level.chain.ids = ["main", "emit"] := by
  obtain ⟨curriculum, generated⟩ := circular_generates
  obtain ⟨ranked, mem, ids⟩ := circular_ranks
  have rich : circular.graph.IsRich ranked.chain := by
    refine Or.inl ?_
    rw [Chain.length, ids]
    decide
  obtain ⟨-, kept⟩ := generate_keeps_rich CallGraph.circularGraph_built generated
  obtain ⟨⟨level, isLevel, eq⟩, -⟩ := kept ranked mem rich
  exact ⟨CallGraph.circularGraph_built, curriculum, generated, level, isLevel, by rw [eq, ids]⟩

end Project
end CodeReading
