import CodeReading.Challenge.MultipleChoice
import CodeReading.Proofs.Challenge.Options
import CodeReading.Proofs.Graph.Built

set_option autoImplicit false

namespace CodeReading.MultipleChoice

variable {m : Material} {g : CallGraph} {chain : Chain} {entry : Node} {challenge : Challenge}
  {template : QuestionTemplate} {fact : Fact}

inductive IsFactOf (g : CallGraph) (chain : Chain) (entry : Node) :
    QuestionTemplate → String → Prop
  | returnType {type : String} (returns : entry.returnType = some type) :
      IsFactOf g chain entry .returnType type
  | parameterCount (some : entry.parameters ≠ []) :
      IsFactOf g chain entry .parameterCount entry.parameters.length.repr
  | nextCall {id : NodeId} (next : chain.second? = some id) :
      IsFactOf g chain entry .callTarget (g.nodeName id)
  | firstCall {id : NodeId} (single : chain.length = 1) (called : id ∈ entry.calls)
      (least : ∀ other ∈ entry.calls, id ≤ other) :
      IsFactOf g chain entry .callTarget (g.nodeName id)
  | purpose {summary : String} (documented : entry.docSummary = some summary) :
      IsFactOf g chain entry .purpose summary

theorem length_eq_one_of_second? (single : chain.second? = none) : chain.length = 1 := by
  have few : chain.ids.length ≤ 1 := List.getElem?_eq_none_iff.1 single
  have some : 0 < chain.ids.length := List.length_pos_of_ne_nil chain.nonempty
  exact Nat.le_antisymm few some

theorem isFactOf_of_target {id : NodeId}
    (target : chain.second?.or entry.calls.ids.head? = some id) :
    IsFactOf g chain entry .callTarget (g.nodeName id) := by
  rcases Option.or_eq_some_iff.1 target with next | ⟨single, first⟩
  · exact .nextCall next
  · obtain ⟨rest, ids⟩ := List.head?_eq_some_iff.1 first
    have sorted := entry.calls.sorted
    rw [ids, List.pairwise_cons] at sorted
    refine .firstCall (length_eq_one_of_second? single) (List.mem_of_head? first) ?_
    intro other mem
    rw [IdSet.mem_def, ids, List.mem_cons] at mem
    rcases mem with rfl | later
    · exact String.le_refl _
    · exact Std.le_of_lt (sorted.1 other later)

theorem of_pooledFact {field : Node → Option String} {pool : List String} {prompt hint : String}
    (h : pooledFact g entry field pool prompt hint = some fact) :
    field entry = some fact.correct ∧
      ∃ candidates, Options.distractors? fact.correct candidates = some fact.distractors := by
  simp only [pooledFact, bind, Option.bind_eq_some_iff] at h
  obtain ⟨correct, own, distractors, picked, same⟩ := h
  cases same
  exact ⟨own, _, picked⟩

theorem of_parameterCountFact (h : parameterCountFact entry = some fact) :
    IsFactOf g chain entry .parameterCount fact.correct ∧
      ∃ candidates, Options.distractors? fact.correct candidates = some fact.distractors := by
  unfold parameterCountFact at h
  split at h
  · cases h
  · rename_i fewer count
    simp only [bind, Option.bind_eq_some_iff] at h
    obtain ⟨distractors, picked, same⟩ := h
    cases same
    have some : entry.parameters ≠ [] := by
      intro none
      rw [none] at count
      cases count
    have counted : IsFactOf g chain entry .parameterCount entry.parameters.length.repr :=
      .parameterCount some
    rw [count] at counted
    exact ⟨counted, _, picked⟩

theorem of_callTargetFact (h : callTargetFact g chain entry = some fact) :
    IsFactOf g chain entry .callTarget fact.correct ∧
      Options.distractors? fact.correct (Options.shuffled entry.id
        (((otherNodes g entry).filter fun node => node.id ∉ entry.calls).map (·.name))
          ++ lookalikes fact.correct) = some fact.distractors := by
  simp only [callTargetFact, bind, Option.bind_eq_some_iff] at h
  obtain ⟨id, target, distractors, picked, same⟩ := h
  cases same
  exact ⟨isFactOf_of_target target, picked⟩

theorem of_fact? (h : fact? g chain entry template = some fact) :
    IsFactOf g chain entry template fact.correct ∧
      ∃ candidates, Options.distractors? fact.correct candidates = some fact.distractors := by
  cases template with
  | returnType => exact (of_pooledFact h).imp_left .returnType
  | parameterCount => exact of_parameterCountFact h
  | callTarget => exact (of_callTargetFact h).imp_right fun picked => ⟨_, picked⟩
  | purpose => exact (of_pooledFact h).imp_left .purpose

theorem generate_eq_ok (h : generate m chain = .ok challenge) :
    ∃ entry template fact, m.graph.node? chain.entry = some entry ∧
      fact? m.graph chain entry template = some fact ∧
      challenge.spec = .multipleChoice (spec m entry template fact) := by
  unfold generate at h
  obtain ⟨entry, found, h⟩ := bind_eq_ok_iff.1 h
  obtain ⟨⟨template, fact⟩, asked, h⟩ := bind_eq_ok_iff.1 h
  rw [orGap_eq_ok_iff] at found asked
  cases h
  obtain ⟨tried, -, isFact⟩ := List.exists_of_findSome?_eq_some asked
  obtain ⟨fact, isFact, same⟩ := Option.map_eq_some_iff.1 isFact
  cases same
  exact ⟨entry, template, fact, found, isFact, rfl⟩

theorem isArranged_spec (m : Material) (entry : Node) (template : QuestionTemplate)
    (three : fact.distractors.length = 3) :
    Options.IsArranged fact.correct fact.distractors (spec m entry template fact).options
      (spec m entry template fact).answerKey :=
  Options.isArranged_arrange fact.correct three _

/-- Whether four lettered options can be told apart, the one with the right key has the right
    text, and none of the others is blank. -/
structure IsFourChoice (spec : MultipleChoiceSpec) : Prop where
  keys : spec.options.map (·.key) = ["a", "b", "c", "d"]
  distinct : (spec.options.map fun option => Text.lowercase option.text.toList).Nodup
  answered : ⟨spec.answerKey, spec.answerText⟩ ∈ spec.options
  right : ∀ option ∈ spec.options, option.key = spec.answerKey → option.text = spec.answerText
  shown : ∀ option ∈ spec.options, option.key ≠ spec.answerKey →
    Text.allBlank option.text.toList = false

/-- A question asks for a true fact about the entry of the chain, with three wrong options that can
    be told from the right one. -/
theorem generate_asksFact (h : generate m chain = .ok challenge) :
    ∃ entry spec, m.graph.node? chain.entry = some entry ∧
      challenge.spec = .multipleChoice spec ∧ IsFourChoice spec ∧
      IsFactOf m.graph chain entry spec.template spec.answerText := by
  obtain ⟨entry, template, fact, found, isFact, asked⟩ := generate_eq_ok h
  obtain ⟨isTrue, candidates, picked⟩ := of_fact? isFact
  obtain ⟨three, fresh, -⟩ := Options.of_distractors? picked
  have arranged := isArranged_spec m entry template three
  refine ⟨entry, _, found, asked, ?_, isTrue⟩
  exact {
    keys := arranged.keys
    distinct := arranged.nodup_folded fresh
    answered := arranged.answered
    right := arranged.right
    shown := fun option mem other => fresh.shown option.text (arranged.wrong option mem other) }

def callerDraft (stranger : String) : Draft where
  nodes := [{ id := "app.run", name := "run", kind := .function },
    { id := "db.load", name := "load", kind := .function },
    { id := "db.save", name := "save", kind := .function },
    { id := "log.save", name := stranger, kind := .function }]
  edges := [⟨"app.run", "db.load", 1⟩, ⟨"app.run", "db.save", 1⟩]
  lenient := true

def callerGraph (stranger : String) : CallGraph :=
  (callerDraft stranger).build.toOption.getD ⟨[], [], ∅⟩

def callerMaterial (stranger : String) : Material :=
  ⟨callerGraph stranger, fun _ => none, {}⟩

def callerChain : Chain := ⟨["app.run", "db.load"], by decide, by decide⟩

def callerNode : Node :=
  { id := "app.run", name := "run", kind := .function,
    calls := ⟨["db.load", "db.save"], by decide⟩ }

def callerSpec (stranger : String) : MultipleChoiceSpec where
  template := .callTarget
  prompt := "Which function does `run` call next on this execution path?"
  code := "def run():\n    load(...)\n    save(...)"
  options := [⟨"a", stranger⟩, ⟨"b", "load"⟩, ⟨"c", "load_impl"⟩, ⟨"d", "_load"⟩]
  answerKey := "b"
  answerText := "load"

theorem node?_caller : (callerGraph "log").node? callerChain.entry = some callerNode ∧
    (callerGraph "save").node? callerChain.entry = some callerNode := by
  decide +kernel

theorem generate_caller :
    (generate (callerMaterial "log") callerChain).toOption.map (·.spec)
        = some (.multipleChoice (callerSpec "log")) ∧
      (generate (callerMaterial "save") callerChain).toOption.map (·.spec)
        = some (.multipleChoice (callerSpec "save")) := by
  decide +kernel

theorem generate_asksFact_caller :
    ∃ challenge, generate (callerMaterial "log") callerChain = .ok challenge ∧
      challenge.spec = .multipleChoice (callerSpec "log") ∧ IsFourChoice (callerSpec "log") ∧
      IsFactOf (callerGraph "log") callerChain callerNode .callTarget "load" := by
  obtain ⟨challenge, succeeds, asked⟩ := Option.map_eq_some_iff.1 generate_caller.1
  rw [toOption_eq_some_iff] at succeeds
  obtain ⟨entry, spec, found, isSpec, fourChoice, isFact⟩ := generate_asksFact succeeds
  cases ChallengeSpec.multipleChoice.inj (asked.symm.trans isSpec)
  cases Option.some.inj (node?_caller.1.symm.trans found)
  exact ⟨challenge, succeeds, asked, fourChoice, isFact⟩

/-- Whether the functions that the entry calls, but for the right one, have names that no other
    function has and that are not made up from the right one. -/
structure AreNamesApart (g : CallGraph) (entry : Node) (correct : String) : Prop where
  others : ∀ callee ∈ entry.calls, g.nodeName callee ≠ correct →
    ∀ node ∈ g.nodes, node.id ≠ entry.id → node.id ∉ entry.calls → node.name ≠ g.nodeName callee
  lookalikes : ∀ callee ∈ entry.calls, g.nodeName callee ∉ lookalikes correct

theorem mem_of_mem_candidates {correct text : String}
    (h : text ∈ Options.shuffled entry.id
      (((otherNodes g entry).filter fun node => node.id ∉ entry.calls).map (·.name))
        ++ lookalikes correct) :
    (∃ node ∈ g.nodes, node.id ≠ entry.id ∧ node.id ∉ entry.calls ∧ node.name = text)
      ∨ text ∈ lookalikes correct := by
  rcases List.mem_append.1 h with shuffled | made
  · left
    obtain ⟨node, mem, named⟩ := List.mem_map.1 (Options.mem_shuffled.1 shuffled)
    obtain ⟨other, uncalled⟩ := List.mem_filter.1 mem
    obtain ⟨known, apart⟩ := List.mem_filter.1 other
    exact ⟨node, known, by simpa using apart, by simpa using uncalled, named⟩
  · exact Or.inr made

/-- A wrong target is the name of another function, which the entry does not call, or made up from
    the right one. Unless such a name is that of a called function too, no wrong target is one. -/
theorem generate_offersUncalled {spec : MultipleChoiceSpec} (h : generate m chain = .ok challenge)
    (asked : challenge.spec = .multipleChoice spec) (target : spec.template = .callTarget) :
    ∃ entry, m.graph.node? chain.entry = some entry ∧
      (∀ option ∈ spec.options, option.key ≠ spec.answerKey →
        (∃ node ∈ m.graph.nodes, node.id ≠ entry.id ∧ node.id ∉ entry.calls ∧
          node.name = option.text) ∨ option.text ∈ lookalikes spec.answerText) ∧
      (AreNamesApart m.graph entry spec.answerText →
        ∀ option ∈ spec.options, option.key ≠ spec.answerKey →
          ∀ callee ∈ entry.calls, option.text ≠ m.graph.nodeName callee) := by
  obtain ⟨entry, template, fact, found, isFact, isSpec⟩ := generate_eq_ok h
  cases ChallengeSpec.multipleChoice.inj (asked.symm.trans isSpec)
  cases target
  obtain ⟨-, picked⟩ := of_callTargetFact isFact
  obtain ⟨three, fresh, candidates⟩ := Options.of_distractors? picked
  have arranged := isArranged_spec m entry .callTarget three
  have origin : ∀ option ∈ (MultipleChoice.spec m entry .callTarget fact).options,
      option.key ≠ (MultipleChoice.spec m entry .callTarget fact).answerKey →
      (∃ node ∈ m.graph.nodes, node.id ≠ entry.id ∧ node.id ∉ entry.calls ∧
        node.name = option.text) ∨ option.text ∈ lookalikes fact.correct :=
    fun option mem other =>
      mem_of_mem_candidates (candidates (arranged.wrong option mem other))
  refine ⟨entry, found, origin, ?_⟩
  intro apart option mem other callee called same
  rcases origin option mem other with ⟨node, known, isOther, uncalled, named⟩ | made
  -- A called function with the right name is not offered as wrong either.
  · have notRight : m.graph.nodeName callee ≠ fact.correct := by
      intro right
      refine fresh.unseen option.text (arranged.wrong option mem other) (List.mem_singleton.2 ?_)
      rw [same, right]
    exact apart.others callee called notRight node known isOther uncalled (named.trans same)
  · exact apart.lookalikes callee called (same ▸ made)

/-- No wrong option is called, where the stranger has a name of its own. -/
theorem generate_offersUncalled_caller :
    ∃ challenge, generate (callerMaterial "log") callerChain = .ok challenge ∧
      challenge.spec = .multipleChoice (callerSpec "log") ∧
      AreNamesApart (callerGraph "log") callerNode "load" ∧
      ∀ option ∈ (callerSpec "log").options, option.key ≠ "b" →
        ∀ callee ∈ callerNode.calls, option.text ≠ (callerGraph "log").nodeName callee := by
  obtain ⟨challenge, succeeds, asked⟩ := Option.map_eq_some_iff.1 generate_caller.1
  rw [toOption_eq_some_iff] at succeeds
  obtain ⟨entry, found, -, wrong⟩ := generate_offersUncalled succeeds asked rfl
  cases Option.some.inj (node?_caller.1.symm.trans found)
  have apart : AreNamesApart (callerGraph "log") callerNode "load" := by
    have others : ∀ callee ∈ callerNode.calls.ids, ∀ node ∈ (callerGraph "log").nodes,
        node.id ≠ callerNode.id → node.id ∉ callerNode.calls →
          node.name ≠ (callerGraph "log").nodeName callee := by
      decide +kernel
    have made : ∀ callee ∈ callerNode.calls.ids,
        (callerGraph "log").nodeName callee ∉ lookalikes "load" := by
      decide +kernel
    exact ⟨fun callee called _ => others callee called, made⟩
  exact ⟨challenge, succeeds, asked, apart, wrong apart⟩

/-- A wrong option is called all the same, where the stranger is the namesake of a function that the
    entry calls. -/
theorem generate_offersCalled_namesake :
    (callerGraph "save").Built ∧ (callerGraph "save").node? callerChain.entry = some callerNode ∧
      ∃ challenge spec, generate (callerMaterial "save") callerChain = .ok challenge ∧
        challenge.spec = .multipleChoice spec ∧ spec.template = .callTarget ∧
        ∃ option ∈ spec.options, option.key ≠ spec.answerKey ∧
          ∃ callee ∈ callerNode.calls, option.text = (callerGraph "save").nodeName callee := by
  obtain ⟨challenge, succeeds, asked⟩ := Option.map_eq_some_iff.1 generate_caller.2
  rw [toOption_eq_some_iff] at succeeds
  have named : (callerGraph "save").nodeName "db.save" = "save" := by decide +kernel
  exact ⟨⟨callerDraft "save", rfl⟩, node?_caller.2, challenge, _, succeeds, asked, rfl,
    ⟨"a", "save"⟩, List.mem_cons_self, by decide, "db.save", by decide, named.symm⟩

end CodeReading.MultipleChoice
