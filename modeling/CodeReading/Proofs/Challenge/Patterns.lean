import CodeReading.Proofs.Challenge.Success

set_option autoImplicit false

namespace CodeReading.Architecture

/-- Whether a function makes objects, by its name or by the class that it returns. -/
def IsFactory (g : CallGraph) (node : Node) : Prop :=
  (∃ start ∈ factoryPrefixes, start.toList <+: node.name.toList) ∨
    ∃ other ∈ g.nodes, other.kind = .classDef ∧ node.returnType = some other.name

def Shows (g : CallGraph) (nodes : List Node) : DesignPattern → Prop
  | .recursion => ∃ place node, nodes[place]? = some node ∧
      ∃ earlier ∈ nodes.take (place + 1), earlier.id ∈ node.calls
  | .decorator => ∃ node ∈ nodes, node.decorators ≠ []
  | .facade => ∃ entry ∈ nodes.head?, 3 ≤ entry.calls.size
  | .factory => ∃ node ∈ nodes, IsFactory g node
  | .iterator => ∃ node ∈ nodes, node.isGenerator
  | .coroutineChain => ∀ node ∈ nodes, node.isAsync
  | .pipeline => 3 ≤ nodes.length
  | .delegation => nodes.length = 2
  | .observer => False
  | .singleton => False

/-- Whether a path shows a pattern, and none of those that are listed before it. -/
def IsFirstShown (g : CallGraph) (nodes : List Node) (pattern : DesignPattern) : Prop :=
  Shows g nodes pattern ∧
    ∃ before after, DesignPattern.all = before ++ pattern :: after ∧
      ∀ other ∈ before, ¬Shows g nodes other

variable {g : CallGraph} {chain : Chain} {entry : Node} {nodes : List Node}
  {pattern : DesignPattern} {texts : List String} {m : Material} {challenge : Challenge}

theorem backCalls_ne_nil_iff (ids : nodes.map (·.id) = chain.ids) :
    backCalls g chain nodes ≠ [] ↔ Shows g nodes .recursion := by
  unfold backCalls
  rw [← ids, Ne, List.flatMap_eq_nil_iff]
  constructor
  · intro some
    simp only [not_forall] at some
    obtain ⟨⟨node, place⟩, mem, calls⟩ := some
    rw [List.mem_zipIdx_iff_getElem?] at mem
    rw [List.map_eq_nil_iff, ← Ne, ← List.map_take] at calls
    obtain ⟨id, called⟩ := List.exists_mem_of_ne_nil _ calls
    obtain ⟨isEarlier, called⟩ := List.mem_filter.1 called
    obtain ⟨earlier, before, rfl⟩ := List.mem_map.1 isEarlier
    exact ⟨place, node, mem, earlier, before, of_decide_eq_true called⟩
  · rintro ⟨place, node, found, earlier, isEarlier, called⟩ none
    have row := none (node, place) (List.mem_zipIdx_iff_getElem?.2 found)
    rw [List.map_eq_nil_iff, ← List.map_take, List.filter_eq_nil_iff] at row
    exact row earlier.id (List.mem_map_of_mem isEarlier) (decide_eq_true called)

theorem decoratedNodes_ne_nil_iff :
    decoratedNodes nodes ≠ [] ↔ Shows g nodes .decorator := by
  simp [decoratedNodes, Shows]

theorem facade_ne_nil_iff (first : nodes.head? = some entry) :
    facade entry ≠ [] ↔ Shows g nodes .facade := by
  simp [facade, Shows, first]

theorem factoryEvidence?_isSome_iff {node : Node} :
    (factoryEvidence? g node).isSome ↔ IsFactory g node := by
  unfold factoryEvidence? IsFactory
  split
  · rename_i start named
    have starts := List.find?_some named
    rw [List.isPrefixOf_iff_prefix] at starts
    exact iff_of_true rfl (Or.inl ⟨start, List.mem_of_find?_eq_some named, starts⟩)
  · rename_i unnamed
    rw [List.find?_eq_none] at unnamed
    have plain : ¬∃ start ∈ factoryPrefixes, start.toList <+: node.name.toList := by
      rintro ⟨start, mem, isPrefix⟩
      exact unnamed start mem (List.isPrefixOf_iff_prefix.2 isPrefix)
    rw [or_iff_right plain]
    split
    · rename_i returns isReturned
      rw [isReturned]
      simp [eq_comm (a := returns)]
    · rename_i unreturned
      simp [unreturned]

theorem factories_ne_nil_iff :
    nodes.filterMap (factoryEvidence? g) ≠ [] ↔ Shows g nodes .factory := by
  rw [Ne, List.filterMap_eq_nil_iff]
  simp only [not_forall, Shows, ← factoryEvidence?_isSome_iff, exists_prop,
    Option.isSome_iff_ne_none, Ne]

theorem generatorNodes_ne_nil_iff :
    generatorNodes nodes ≠ [] ↔ Shows g nodes .iterator := by
  simp [generatorNodes, Shows]

theorem coroutines_ne_nil_iff :
    coroutines nodes ≠ [] ↔ Shows g nodes .coroutineChain := by
  simp [coroutines, Shows]

theorem pipeline_ne_nil_iff :
    pipeline nodes ≠ [] ↔ Shows g nodes .pipeline := by
  simp [pipeline, Shows]

theorem delegation_ne_nil_iff :
    delegation nodes ≠ [] ↔ Shows g nodes .delegation := by
  unfold delegation
  split
  · exact iff_of_true (List.cons_ne_nil _ _) rfl
  · rename_i other
    refine iff_of_false (fun some => some rfl) ?_
    intro two
    obtain ⟨first, second, rfl⟩ := List.length_eq_two.1 two
    exact other first second rfl

/-- There is evidence for exactly the patterns that are shown. -/
theorem ne_nil_iff_of_mem_evidence (ids : nodes.map (·.id) = chain.ids)
    (first : nodes.head? = some entry) (mem : (pattern, texts) ∈ evidence g chain entry nodes) :
    texts ≠ [] ↔ Shows g nodes pattern := by
  simp only [evidence, List.mem_cons, Prod.mk.injEq, List.not_mem_nil, or_false] at mem
  rcases mem with ⟨rfl, rfl⟩ | ⟨rfl, rfl⟩ | ⟨rfl, rfl⟩ | ⟨rfl, rfl⟩ | ⟨rfl, rfl⟩ | ⟨rfl, rfl⟩ |
    ⟨rfl, rfl⟩ | ⟨rfl, rfl⟩
  · exact backCalls_ne_nil_iff ids
  · exact decoratedNodes_ne_nil_iff
  · exact facade_ne_nil_iff first
  · exact factories_ne_nil_iff
  · exact generatorNodes_ne_nil_iff
  · exact coroutines_ne_nil_iff
  · exact pipeline_ne_nil_iff
  · exact delegation_ne_nil_iff

theorem patterns_evidence (g : CallGraph) (chain : Chain) (entry : Node) (nodes : List Node) :
    DesignPattern.all
      = (evidence g chain entry nodes).map Prod.fst ++ [.observer, .singleton] :=
  rfl

theorem mem_patterns_detected_iff (ids : nodes.map (·.id) = chain.ids)
    (first : nodes.head? = some entry) :
    pattern ∈ (detected g chain entry nodes).map Prod.fst ↔ Shows g nodes pattern := by
  constructor
  · intro mem
    obtain ⟨⟨pattern, texts⟩, isFound, rfl⟩ := List.mem_map.1 mem
    obtain ⟨listed, some⟩ := List.mem_filter.1 isFound
    refine (ne_nil_iff_of_mem_evidence ids first listed).1 ?_
    rintro rfl
    cases some
  · intro shown
    have mem : pattern ∈ DesignPattern.all := by cases pattern <;> decide
    rw [patterns_evidence g chain entry nodes, List.mem_append] at mem
    rcases mem with mem | undetectable
    · obtain ⟨⟨pattern, texts⟩, listed, rfl⟩ := List.mem_map.1 mem
      have some := (ne_nil_iff_of_mem_evidence ids first listed).2 shown
      refine List.mem_map.2 ⟨_, List.mem_filter.2 ⟨listed, ?_⟩, rfl⟩
      simpa using some
    · simp only [List.mem_cons, List.not_mem_nil, or_false] at undetectable
      rcases undetectable with rfl | rfl <;> exact shown.elim

theorem isFirstShown_of_detected (ids : nodes.map (·.id) = chain.ids)
    (first : nodes.head? = some entry) {others : List (DesignPattern × List String)}
    (h : detected g chain entry nodes = (pattern, texts) :: others) :
    IsFirstShown g nodes pattern ∧ texts ≠ [] := by
  obtain ⟨before, after, split, unseen, some, -⟩ := List.filter_eq_cons_iff.1 h
  have listed : (pattern, texts) ∈ evidence g chain entry nodes := by simp [split]
  have nonempty : texts ≠ [] := by simpa using some
  refine ⟨⟨(ne_nil_iff_of_mem_evidence ids first listed).1 nonempty, before.map Prod.fst,
    after.map Prod.fst ++ [.observer, .singleton], ?_, ?_⟩, nonempty⟩
  · rw [patterns_evidence g chain entry nodes, split]
    simp
  · intro other mem shown
    obtain ⟨⟨other, evidence⟩, isBefore, rfl⟩ := List.mem_map.1 mem
    have isListed : (other, evidence) ∈ Architecture.evidence g chain entry nodes := by
      simp [split, isBefore]
    have some := (ne_nil_iff_of_mem_evidence ids first isListed).2 shown
    exact unseen _ isBefore (by simpa using some)

theorem label_injective {a b : DesignPattern} (h : a.label = b.label) : a = b := by
  cases a <;> cases b <;> first | rfl | exact absurd h (by decide)

theorem mem_absent_iff {id : NodeId} {found : List DesignPattern} :
    pattern ∈ absent id found ↔ pattern ∉ found := by
  have mem : pattern ∈ DesignPattern.all := by cases pattern <;> decide
  rw [absent, Text.mem_shuffle, List.mem_filter, decide_eq_true_eq]
  exact and_iff_right mem

theorem nodup_absent (id : NodeId) (found : List DesignPattern) : (absent id found).Nodup := by
  have distinct : DesignPattern.all.Nodup := by decide
  exact (Text.shuffle_perm _ _ _).nodup_iff.2 (List.Nodup.sublist List.filter_sublist distinct)

/-- Three patterns are never found together with the others: nobody looks for two of them, and of
    pipelines and delegation a path has one at most. -/
theorem three_le_length_absent (id : NodeId) {found : List DesignPattern}
    (shown : ∀ pattern ∈ found, Shows g nodes pattern) : 3 ≤ (absent id found).length := by
  obtain ⟨unfit, isUnfit, unshown⟩ :
      ∃ unfit ∈ [DesignPattern.pipeline, .delegation], ¬Shows g nodes unfit := by
    by_cases long : 3 ≤ nodes.length
    · exact ⟨.delegation, by simp, fun two => by change nodes.length = 2 at two; omega⟩
    · exact ⟨.pipeline, by simp, long⟩
  have distinct : [unfit, .observer, .singleton].Nodup := by
    simp only [List.mem_cons, List.not_mem_nil, or_false] at isUnfit
    rcases isUnfit with rfl | rfl <;> decide
  have sub : [unfit, .observer, .singleton] ⊆ absent id found := by
    intro pattern mem
    simp only [List.mem_cons, List.not_mem_nil, or_false] at mem
    rw [mem_absent_iff]
    rcases mem with rfl | rfl | rfl
    · exact mt (shown _) unshown
    · exact shown .observer
    · exact shown .singleton
  exact (List.subperm_of_subset distinct sub).length_le

/-- Whether four lettered options can be told apart, of which the one with the right key is the
    first pattern that the path shows, and the others are patterns that it does not show. -/
structure AsksPattern (g : CallGraph) (nodes : List Node) (spec : ArchitectureSpec) : Prop where
  keys : spec.options.map (·.key) = ["a", "b", "c", "d"]
  distinct : (spec.options.map (·.text)).Nodup
  answered : ⟨spec.answerKey, spec.pattern.label⟩ ∈ spec.options
  right : ∀ option ∈ spec.options, option.key = spec.answerKey → option.text = spec.pattern.label
  first : IsFirstShown g nodes spec.pattern
  proved : spec.evidence ≠ []
  wrong : ∀ option ∈ spec.options, option.key ≠ spec.answerKey →
    ∃ pattern, option.text = DesignPattern.label pattern ∧ ¬Shows g nodes pattern
  unshown : ∀ option ∈ spec.options, option.key ≠ spec.answerKey →
    ∀ pattern, Shows g nodes pattern → option.text ≠ pattern.label

theorem known_of_length_nodes (h : (m.nodes chain).length = chain.length) :
    ∀ id ∈ chain.ids, id ∈ m.graph.ids := by
  intro id mem
  exact CallGraph.node?_isSome_iff.1 (List.filterMap_length_eq_length.1 h id mem)

def wrongLabels (m : Material) (chain : Chain) (entry : Node) : List String :=
  ((absent chain.entry ((detected m.graph chain entry (m.nodes chain)).map (·.1))).take 3).map
    DesignPattern.label

theorem generate_eq_ok (h : generate m chain = .ok challenge) :
    2 ≤ chain.length ∧ (∀ id ∈ chain.ids, id ∈ m.graph.ids) ∧
      ∃ entry others spec seed, (m.nodes chain).head? = some entry ∧
        challenge.spec = .architecture spec ∧
        detected m.graph chain entry (m.nodes chain) = (spec.pattern, spec.evidence) :: others ∧
        (spec.options, spec.answerKey)
          = Options.arrange spec.pattern.label (wrongLabels m chain entry) seed := by
  unfold generate at h
  dsimp only at h
  split at h
  · cases h
  · rename_i enough
    rw [not_or, Nat.not_lt, not_not] at enough
    split at h
    · cases h
    · rename_i entry first
      split at h
      · cases h
      · rename_i pattern texts others found
        cases h
        exact ⟨enough.1, known_of_length_nodes enough.2, entry, others, _, _, first, rfl, found, rfl⟩

theorem asksPattern_of_generate (h : generate m chain = .ok challenge) :
    ∃ spec, challenge.spec = .architecture spec ∧ AsksPattern m.graph (m.nodes chain) spec := by
  obtain ⟨-, known, entry, others, spec, seed, first, asked, found, arrange⟩ := generate_eq_ok h
  have ids := Material.map_id_nodes known
  obtain ⟨isFirst, proved⟩ := isFirstShown_of_detected ids first found
  have unshown : ∀ pattern ∈ absent chain.entry
      ((detected m.graph chain entry (m.nodes chain)).map (·.1)),
      ¬Shows m.graph (m.nodes chain) pattern := fun pattern mem shown =>
    mem_absent_iff.1 mem ((mem_patterns_detected_iff ids first).2 shown)
  have three : (wrongLabels m chain entry).length = 3 := by
    have enough := three_le_length_absent chain.entry fun pattern mem =>
      (mem_patterns_detected_iff (g := m.graph) ids first).1 mem
    rw [wrongLabels, List.length_map, List.length_take]
    exact Nat.min_eq_left enough
  have wrong : ∀ label ∈ wrongLabels m chain entry,
      ∃ pattern, label = DesignPattern.label pattern ∧ ¬Shows m.graph (m.nodes chain) pattern := by
    intro label mem
    obtain ⟨pattern, chosen, rfl⟩ := List.mem_map.1 mem
    exact ⟨pattern, rfl, unshown pattern (List.mem_of_mem_take chosen)⟩
  have distinct : (spec.pattern.label :: wrongLabels m chain entry).Nodup := by
    rw [List.nodup_cons]
    constructor
    · intro mem
      obtain ⟨pattern, same, notShown⟩ := wrong _ mem
      rw [← label_injective same] at notShown
      exact notShown isFirst.1
    · exact ((nodup_absent _ _).sublist (List.take_sublist 3 _)).map fun _ _ => label_injective
  have arranged := Options.isArranged_arrange spec.pattern.label three seed
  rw [← arrange] at arranged
  refine ⟨spec, asked, ?_⟩
  exact {
    keys := arranged.keys
    distinct := arranged.texts_perm.nodup_iff.2 distinct
    answered := arranged.answered
    right := arranged.right
    first := isFirst
    proved
    wrong := fun option mem other => wrong _ (arranged.wrong option mem other)
    unshown := by
      intro option mem other pattern shown same
      obtain ⟨absentPattern, label, notShown⟩ := wrong _ (arranged.wrong option mem other)
      rw [label] at same
      exact notShown (label_injective same ▸ shown) }

/-- An architecture question can be asked exactly about a path of several known functions, and asks
    for the first pattern that it shows. -/
theorem generate_asksPattern (m : Material) (chain : Chain) :
    ((∃ challenge, generate m chain = .ok challenge) ↔
      2 ≤ chain.length ∧ ∀ id ∈ chain.ids, id ∈ m.graph.ids) ∧
      ∀ challenge, generate m chain = .ok challenge → ∃ spec,
        challenge.spec = .architecture spec ∧ AsksPattern m.graph (m.nodes chain) spec := by
  refine ⟨⟨?_, ?_⟩, fun challenge => asksPattern_of_generate⟩
  · rintro ⟨challenge, h⟩
    obtain ⟨long, known, -⟩ := generate_eq_ok h
    exact ⟨long, known⟩
  · rintro ⟨long, known⟩
    exact Material.makes_architecture long known

def poolDraft : Draft where
  nodes := [{ id := "connect", name := "connect", kind := .function, isAsync := true },
    { id := "pool", name := "create_pool", kind := .function, decorators := ["traced"],
      isAsync := true, isGenerator := true },
    { id := "send", name := "send", kind := .function, isAsync := true }]
  edges := [⟨"pool", "pool", 1⟩, ⟨"pool", "connect", 1⟩, ⟨"pool", "send", 1⟩, ⟨"connect", "send", 1⟩]
  lenient := true

def poolMaterial : Material :=
  ⟨poolDraft.build.toOption.getD ⟨[], [], ∅⟩, fun node => some node.name, {}⟩

def poolChain : Chain := ⟨["pool", "connect", "send"], by decide, by decide⟩

def poolNode : Node :=
  { id := "pool", name := "create_pool", kind := .function, decorators := ["traced"],
    isAsync := true, isGenerator := true, calls := ⟨["connect", "pool", "send"], by decide⟩,
    calledBy := ⟨["pool"], by decide⟩ }

/-- Seven patterns are found, which leaves three. -/
theorem detected_pool :
    (poolMaterial.nodes poolChain).head? = some poolNode ∧
      detected poolMaterial.graph poolChain poolNode (poolMaterial.nodes poolChain) =
        [(.recursion, ["create_pool calls create_pool"]),
          (.decorator, ["create_pool is decorated with @traced"]),
          (.facade, ["create_pool calls 3 different functions"]),
          (.factory, ["create_pool is named like a constructor (create_...)"]),
          (.iterator, ["create_pool is a generator"]),
          (.coroutineChain, ["all 3 functions on the path are async"]),
          (.pipeline, ["work flows through create_pool -> connect -> send"])] := by
  decide +kernel

theorem generate_asksPattern_pool :
    ∃ challenge spec, generate poolMaterial poolChain = .ok challenge ∧
      challenge.spec = .architecture spec ∧ spec.pattern = .recursion ∧
      spec.evidence = ["create_pool calls create_pool"] ∧
      AsksPattern poolMaterial.graph (poolMaterial.nodes poolChain) spec := by
  have known : ∀ id ∈ poolChain.ids, id ∈ poolMaterial.graph.ids := by decide +kernel
  obtain ⟨made, asks⟩ := generate_asksPattern poolMaterial poolChain
  obtain ⟨challenge, succeeds⟩ := made.2 ⟨by decide, known⟩
  obtain ⟨spec, asked, asksPattern⟩ := asks challenge succeeds
  obtain ⟨-, -, entry, others, sameSpec, -, first, same, found, -⟩ := generate_eq_ok succeeds
  cases ChallengeSpec.architecture.inj (asked.symm.trans same)
  cases Option.some.inj (detected_pool.1.symm.trans first)
  obtain ⟨strongest, -⟩ := List.cons.inj (detected_pool.2.symm.trans found)
  obtain ⟨pattern, evidence⟩ := Prod.mk.inj strongest
  exact ⟨challenge, spec, succeeds, asked, pattern.symm, evidence.symm, asksPattern⟩

end CodeReading.Architecture
