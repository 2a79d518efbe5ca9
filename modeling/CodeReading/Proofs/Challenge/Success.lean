import CodeReading.Proofs.Challenge.Made
import CodeReading.Proofs.Challenge.Options
import CodeReading.Proofs.Chain.Path
import CodeReading.Proofs.Text.Lines
import Mathlib.Data.List.Nodup

set_option autoImplicit false

namespace CodeReading

namespace Text

theorem rotated_perm {α : Type} (seed : UInt64) (items : List α) :
    (rotated seed items).Perm items := by
  unfold rotated
  exact List.perm_append_comm.trans (List.Perm.of_eq (List.take_append_drop _ _))

end Text

namespace MultipleChoice

variable {g : CallGraph} {chain : Chain} {entry : Node}

theorem mem_templates (entry : Node) (template : QuestionTemplate) : template ∈ templates entry :=
  (Text.rotated_perm _ _).mem_iff.2 (by cases template <;> decide)

/-- Names made up from that of a function are longer than it, and by different lengths. -/
theorem lookalikes_fresh (name : String) :
    Options.Fresh [Options.folded name] (lookalikes name) where
  distinct := by
    have lengths : ((lookalikes name).map fun text => (Options.folded text).length).Nodup := by
      simp [lookalikes, Options.length_folded]
    rw [← Function.comp_def, ← List.map_map] at lengths
    exact List.Nodup.of_map List.length lengths
  unseen := by
    intro text mem same
    have lengths := congrArg List.length (List.mem_singleton.1 same)
    simp only [lookalikes, List.mem_cons, List.not_mem_nil, or_false] at mem
    rcases mem with rfl | rfl | rfl <;> simp [Options.length_folded] at lengths
    omega
  shown := by
    intro text mem
    have underscore : '_' ∈ text.toList := by
      simp only [lookalikes, List.mem_cons, List.not_mem_nil, or_false] at mem
      rcases mem with rfl | rfl | rfl <;> simp
    exact Text.allBlank_eq_false underscore (by decide)

theorem pooledFact_isSome {field : Node → Option String} {pool : List String} {prompt hint : String}
    (distinct : (pool.map Options.folded).Nodup)
    (shown : ∀ text ∈ pool, Text.allBlank text.toList = false) (enough : 4 ≤ pool.length)
    (h : (field entry).isSome) : (pooledFact g entry field pool prompt hint).isSome := by
  obtain ⟨correct, own⟩ := Option.isSome_iff_exists.1 h
  have distractors := Options.distractors?_isSome_of_pool pool distinct shown enough correct
    (Options.shuffled entry.id ((otherNodes g entry).filterMap field))
  obtain ⟨wrong, picked⟩ := Option.isSome_iff_exists.1 distractors
  simp [pooledFact, own, picked]

theorem returnTypeFact_isSome (h : entry.returnType.isSome) : (returnTypeFact g entry).isSome :=
  pooledFact_isSome (by decide +kernel) (by decide +kernel) (by decide) h

theorem callTargetFact_isSome (h : (chain.second?.or entry.calls.ids.head?).isSome) :
    (callTargetFact g chain entry).isSome := by
  obtain ⟨target, called⟩ := Option.isSome_iff_exists.1 h
  have distractors := Options.distractors?_isSome (lookalikes_fresh (g.nodeName target))
    (List.subset_append_right (Options.shuffled entry.id
      (((otherNodes g entry).filter fun node => node.id ∉ entry.calls).map (·.name))) _)
    (by simp [lookalikes])
  obtain ⟨wrong, picked⟩ := Option.isSome_iff_exists.1 distractors
  simp only [decide_not] at picked
  simp [callTargetFact, called, picked]

theorem question?_isSome (template : QuestionTemplate)
    (h : (fact? g chain entry template).isSome) :
    (question? g chain entry).isSome := by
  unfold question?
  rw [List.findSome?_isSome_iff]
  refine ⟨template, mem_templates entry template, ?_⟩
  rwa [Option.isSome_map]

theorem generate_isOk {m : Material} (found : m.graph.node? chain.entry = some entry)
    (h : (question? m.graph chain entry).isSome) :
    ∃ challenge, generate m chain = .ok challenge := by
  obtain ⟨question, asked⟩ := Option.isSome_iff_exists.1 h
  exact ⟨_, bind_eq_ok_iff.2 ⟨entry, orGap_eq_ok_iff.2 found,
    bind_eq_ok_iff.2 ⟨question, orGap_eq_ok_iff.2 asked, rfl⟩⟩⟩

end MultipleChoice

namespace Architecture

/-- Work that goes through several functions is a pipeline or at least delegated. -/
theorem detected_ne_nil (g : CallGraph) (chain : Chain) (entry : Node) {nodes : List Node}
    (h : 2 ≤ nodes.length) : detected g chain entry nodes ≠ [] := by
  have shows : ∃ found ∈ evidence g chain entry nodes, found.2.isEmpty = false := by
    match nodes, h with
    | [first, second], _ =>
      exact ⟨(.delegation, delegation [first, second]), by simp [evidence], rfl⟩
    | first :: second :: third :: rest, _ =>
      refine ⟨(.pipeline, pipeline (first :: second :: third :: rest)), by simp [evidence], ?_⟩
      unfold pipeline
      rw [if_pos (by simp)]
      rfl
  obtain ⟨found, mem, shown⟩ := shows
  exact List.ne_nil_of_mem (List.mem_filter.2 ⟨mem, by rw [shown]; rfl⟩)

end Architecture

namespace Material

def Makes (m : Material) (chain : Chain) (kind : ChallengeKind) : Prop :=
  ∃ challenge, m.attempt chain kind = .ok challenge

variable {m : Material} {chain : Chain}

theorem Makes.generate {kind : ChallengeKind} (h : m.Makes chain kind) :
    ∃ challenge, m.generate chain kind = .ok challenge :=
  h.imp fun _ => generate_eq_ok_iff.2

theorem map_id_nodes (known : ∀ id ∈ chain.ids, id ∈ m.graph.ids) :
    (m.nodes chain).map (·.id) = chain.ids :=
  CallGraph.known_ids known

theorem length_nodes (known : ∀ id ∈ chain.ids, id ∈ m.graph.ids) :
    (m.nodes chain).length = chain.length := by
  rw [Chain.length, ← map_id_nodes known, List.length_map]

theorem nodes_ne_nil (known : ∀ id ∈ chain.ids, id ∈ m.graph.ids) : m.nodes chain ≠ [] := by
  intro none
  have ids := map_id_nodes known
  rw [none] at ids
  exact chain.nonempty ids.symm

theorem mem_nodes {node : Node} {id : NodeId} (mem : id ∈ chain.ids)
    (found : m.graph.node? id = some node) : node ∈ m.nodes chain :=
  List.mem_filterMap.2 ⟨id, mem, found⟩

/-- A question can be asked about an entry with a return type, a callee or a next step. -/
theorem makes_multipleChoice {entry : Node} (found : m.graph.node? chain.entry = some entry)
    (h : entry.returnType.isSome ∨ (chain.second?.or entry.calls.ids.head?).isSome) :
    m.Makes chain .multipleChoice := by
  refine MultipleChoice.generate_isOk found ?_
  rcases h with returns | calls
  · exact MultipleChoice.question?_isSome .returnType (MultipleChoice.returnTypeFact_isSome returns)
  · exact MultipleChoice.question?_isSome .callTarget (MultipleChoice.callTargetFact_isSome calls)

theorem makes_codeTracing (known : ∀ id ∈ chain.ids, id ∈ m.graph.ids) :
    m.Makes chain .codeTracing := by
  have nonempty := nodes_ne_nil known
  unfold Makes attempt CodeTracing.generate
  dsimp only
  rw [if_neg (not_not.2 (length_nodes known)), List.head?_eq_some_head nonempty,
    List.getLast?_eq_some_getLast nonempty]
  exact ⟨_, rfl⟩

theorem makes_codeCompletion {node : Node} (mem : node ∈ m.nodes chain)
    (h : node.returnType.isSome ∨ node.calls.isEmpty = false) :
    m.Makes chain .codeCompletion := by
  have targeted : (CodeCompletion.target? (m.nodes chain)).isSome := by
    unfold CodeCompletion.target?
    rw [Option.isSome_or, Bool.or_eq_true, List.find?_isSome, List.find?_isSome]
    rcases h with returns | calls
    · exact Or.inr ⟨node, mem, returns⟩
    · exact Or.inl ⟨node, mem, by rw [calls]; rfl⟩
  obtain ⟨target, found⟩ := Option.isSome_iff_exists.1 targeted
  exact ⟨_, bind_eq_ok_iff.2 ⟨target, orGap_eq_ok_iff.2 found, rfl⟩⟩

theorem makes_architecture (long : 2 ≤ chain.length) (known : ∀ id ∈ chain.ids, id ∈ m.graph.ids) :
    m.Makes chain .architecture := by
  have length := length_nodes known
  unfold Makes attempt Architecture.generate
  dsimp only
  rw [if_neg (by omega), List.head?_eq_some_head (nodes_ne_nil known)]
  dsimp only
  split
  · rename_i none
    exact absurd none (Architecture.detected_ne_nil _ _ _ (length ▸ long))
  · exact ⟨_, rfl⟩

end Material
end CodeReading
