import CodeReading.Command.Run
import CodeReading.Files.Tree
import CodeReading.Proofs.Curriculum.Partition
import CodeReading.Proofs.Curriculum.Record
import CodeReading.Proofs.Files.Walk

set_option autoImplicit false

namespace CodeReading.Command

open Files Json

def outcome (overflow : Overflow) (tree : Tree) (arguments : List String) : Outcome :=
  ((run overflow Tree.access arguments).run tree).1

def loaded (tree : Tree) (options : GraphOptions) : Except Failure Context :=
  ((load Tree.access options).run tree).1

variable {overflow : Overflow} {tree : Tree} {arguments : List String} {request : Request}
  {context : Context}

theorem fst_run_bind {σ α β : Type} (first : StateM σ α) (next : α → StateM σ β) (state : σ) :
    ((first >>= next).run state).1 = ((next (first.run state).1).run (first.run state).2).1 := rfl

theorem outcome_eq (parsed : parse arguments = .ok request) :
    outcome overflow tree arguments = ((execute overflow Tree.access request).run tree).1 := by
  unfold outcome run
  rw [parsed]

theorem status_failed_ne_zero (failure : Failure) : (failed failure).status ≠ 0 := by
  cases failure <;> exact Nat.succ_ne_zero _

theorem outcome_not_loaded {failure : Failure} (parsed : parse arguments = .ok request)
    (read : loaded tree request.graph = .error failure) :
    outcome overflow tree arguments = failed failure := by
  unfold loaded at read
  rw [outcome_eq parsed, execute, fst_run_bind, read]
  rfl

/-- Once settings and graph are read, a run that writes no file fails or prints the text of its
    action. -/
theorem outcome_loaded (overflow : Overflow) (parsed : parse arguments = .ok request)
    (noFile : request.action.output = none) (read : loaded tree request.graph = .ok context) :
    ∃ after : Tree, outcome overflow tree arguments =
      match actionText overflow context
        ((lookupFor Tree.access context.graph request.action).run after).1 request.action with
      | .error failure => failed failure
      | .ok text => { status := 0, stdout := text ++ "\n" } := by
  unfold loaded at read
  refine ⟨((load Tree.access request.graph).run tree).2, ?_⟩
  rw [outcome_eq parsed, execute, fst_run_bind, read, noFile]
  simp only [fst_run_bind]
  cases actionText overflow context _ request.action <;> rfl

theorem exists_text_of_outcome (parsed : parse arguments = .ok request)
    (noFile : request.action.output = none) (ok : (outcome overflow tree arguments).status = 0) :
    ∃ context source text, loaded tree request.graph = .ok context ∧
      actionText overflow context source request.action = .ok text ∧
      (outcome overflow tree arguments).stdout = text ++ "\n" := by
  cases read : loaded tree request.graph with
  | error failure =>
    rw [outcome_not_loaded parsed read] at ok
    exact absurd ok (status_failed_ne_zero failure)
  | ok context =>
    obtain ⟨after, result⟩ := outcome_loaded overflow parsed noFile read
    cases made : actionText overflow context
        ((lookupFor Tree.access context.graph request.action).run after).1 request.action with
    | error failure =>
      rw [result, made] at ok
      exact absurd ok (status_failed_ne_zero failure)
    | ok text => exact ⟨context, _, text, rfl, made, by rw [result, made]⟩

/-- What a run works on when at most `n` chains are wanted. -/
def Context.project (context : Context) (overflow : Overflow) (source : SourceLookup) (n : UInt64) :
    Project where
  graph := context.graph
  source := source
  config := { context.config with maxLevels := n }
  overflow := overflow

def chainRecords (p : Project) : Json :=
  .arr (p.ranked.zipIdx.map fun (ranked, i) => ranked.summary (i + 1) (p.tier ranked.chain))

theorem isWritable_chainRecords (p : Project) : (chainRecords p).IsWritable := by
  rw [chainRecords, isWritable_arr_iff, List.forall_mem_map]
  exact fun entry _ => entry.1.isWritable_summary _ _

/-- The records show which chains are ranked, from the best one on, and their tiers. -/
theorem ofJson_chainRecords (p : Project) :
    asList ListedChain.ofJson (chainRecords p) = some (ListedChain.numbered p.listing) := by
  have shows : ∀ entry : RankedChain × Nat,
      ListedChain.ofJson (entry.1.summary (entry.2 + 1) (p.tier entry.1.chain))
        = some ⟨entry.2 + 1, entry.1.chain, p.tier entry.1.chain⟩ :=
    fun entry => entry.1.ofJson_summary (entry.2 + 1) _
  rw [chainRecords, asList_map_of shows, ListedChain.numbered, Project.listing, List.zipIdx_map,
    List.map_map]
  rfl

variable {source : SourceLookup} {n : UInt64} {text : String}

theorem chainsText_eq_ok (h : chainsText context { maxChains := some n.toNat } = .ok text)
    (overflow : Overflow) (source : SourceLookup) :
    text = Json.pretty (chainRecords (context.project overflow source n)) := by
  unfold chainsText at h
  simp only [Option.getD_some, Option.getD_none] at h
  split at h
  · cases h
  · split at h
    · cases h
    · exact (Except.ok.inj h).symm

theorem generateText_eq_ok {options : GenerateOptions} (limit : options.maxLevels = some n.toNat)
    (h : generateText overflow context options source = .ok text) :
    ∃ curriculum, (context.project overflow source n).generate = .ok curriculum ∧
      text = Json.pretty (curriculum.toJson !options.redactAnswers) := by
  unfold generateText at h
  simp only [limit, UInt64.ofNat_toNat] at h
  split at h
  · rename_i curriculum made
    exact ⟨curriculum, made, (Except.ok.inj h).symm⟩
  · cases h
  · cases h
  · cases h

/-- Every ranked chain becomes a level, with the tier listed for it, or is dropped, and both lists
    keep the order of the ranking. So whenever both actions succeed on the same files with the same
    limit, the chains that one prints, the best first and each with its tier, are divided into the
    levels and the dropped chains that the other prints. -/
theorem chains_are_divided :
    (∀ p : Project, p.graph.entryPoints.isEmpty = false → p.config.faults = [] →
      (∃ curriculum, p.generate = .ok curriculum ∧ curriculum.outline.Divides p.listing) ∨
        (p.IsStopped ∧ p.generate = .error .overflow)) ∧
    (∀ (overflow : Overflow) (tree : Tree) (graph : GraphOptions) (options : GenerateOptions)
        (n : UInt64) (listing making : List String),
      parse listing = .ok ⟨graph, .chains { maxChains := some n.toNat }⟩ →
      parse making = .ok ⟨graph, .generate options⟩ →
      options.maxLevels = some n.toNat → options.output = none →
      (outcome overflow tree listing).status = 0 → (outcome overflow tree making).status = 0 →
      ∃ context source listed outline, loaded tree graph = .ok context ∧
        (context.project overflow source n).listing = listed ∧
        ((context.project overflow source n).generate.map Curriculum.outline = .ok outline) ∧
        ((context.project overflow source n).ranked.Pairwise
          fun better worse => ¬worse.precedes better) ∧
        (Json.parse (outcome overflow tree listing).stdout).bind (asList ListedChain.ofJson)
          = some (ListedChain.numbered listed) ∧
        (Json.parse (outcome overflow tree making).stdout).bind Outline.ofJson = some outline ∧
        outline.Divides listed) := by
  constructor
  · intro p entries valid
    by_cases stopped : p.IsStopped
    · exact .inr ⟨stopped, Project.generate_eq_overflow_iff.2 ⟨valid, stopped⟩⟩
    · have made := Project.generate_of_not_isStopped valid (by simp [entries]) stopped
      exact .inl ⟨_, made, Project.generate_divides made⟩
  · intro overflow tree graph options n listing making listed made limit noFile listedOk madeOk
    obtain ⟨context, none, listedText, read, listedEq, printed⟩ :=
      exists_text_of_outcome listed rfl listedOk
    obtain ⟨twin, source, madeText, readAgain, madeEq, written⟩ :=
      exists_text_of_outcome made noFile madeOk
    -- Both runs read the same settings and graph, so they work on one project.
    cases read.symm.trans readAgain
    obtain ⟨curriculum, generated, madeText⟩ := generateText_eq_ok limit madeEq
    have listedText := chainsText_eq_ok listedEq overflow source
    refine ⟨context, source, _, curriculum.outline, read, rfl, ?_, RankingConfig.sorted_rank, ?_, ?_,
      Project.generate_divides generated⟩
    · rw [generated]
      rfl
    · rw [printed, listedText, parse_pretty (isWritable_chainRecords _), Option.bind_some]
      exact ofJson_chainRecords _
    · rw [written, madeText, parse_pretty (curriculum.isWritable_toJson _), Option.bind_some]
      exact curriculum.ofJson_toJson _

theorem readText_of_file {name text : String} (plain : components name = [name])
    (relative : isAbsolute name = false) (special : name ∉ ["", ".", ".."])
    (short : name.utf8ByteSize ≤ Tree.nameLimit)
    (directory : tree.entryAt? tree.workingDirectory = some .directory)
    (file : tree.entryAt? (tree.workingDirectory ++ [name]) = some (.file text.toUTF8)) :
    tree.readText name = .ok text := by
  simp only [List.mem_cons, List.not_mem_nil, or_false, not_or] at special
  have shortPath : ¬Tree.pathLimit < name.utf8ByteSize := by
    unfold Tree.nameLimit at short
    unfold Tree.pathLimit
    omega
  have located : tree.locate false name = .ok (tree.workingDirectory ++ [name]) := by
    unfold Tree.locate
    rw [if_neg special.1, if_neg shortPath, plain, relative]
    simp [Tree.walk, directory, file, special, short]
  unfold Tree.readText
  rw [located]
  simp only [Except.bind, Tree.textAt, file, Tree.fromUTF8?_toUTF8]

theorem loaded_of_readText {options : GraphOptions} {text : String} {graph : CallGraph}
    (noConfig : options.config = none) (read : tree.readText options.path = .ok text)
    (built : graphOfText options text = .ok graph) :
    loaded tree options = .ok { config := {}, graph } := by
  have readGraph : ((loadGraph Tree.access options).run tree).1 = .ok graph := by
    have readText : ((Tree.access.readText options.path).run tree).1 = .ok text := read
    rw [loadGraph, fst_run_bind, readText]
    exact built
  have readConfig : (loadConfig Tree.access options.config).run tree = (.ok {}, tree) := by
    rw [noConfig]
    rfl
  rw [loaded, load, fst_run_bind, readConfig]
  simp only [fst_run_bind, readGraph]
  rfl

/-- A graph file with one function, which calls itself. -/
def recursiveText : String :=
  "\x7b\"nodes\":[\x7b\"id\":\"f\",\"name\":\"f\",\"kind\":\"function\",\"calls\":[\"f\"]\x7d],"
    ++ "\"entry_points\":[\"f\"]\x7d"

def recursiveGraph : CallGraph where
  nodes := [{
    id := "f"
    name := "f"
    kind := .function
    calls := IdSet.ofList ["f"]
    calledBy := IdSet.ofList ["f"] }]
  edges := [⟨"f", "f", 1⟩]
  entryPoints := IdSet.ofList ["f"]

def recursiveTree : Tree where
  entries := [(["g.json"], .file recursiveText.toUTF8)]
  workingDirectory := []

theorem recursive_loaded : loaded recursiveTree { path := "g.json", lenient := true }
    = .ok { config := {}, graph := recursiveGraph } := by
  have read : recursiveTree.readText "g.json" = .ok recursiveText :=
    readText_of_file (by decide +kernel) (by decide +kernel) (by decide) (by decide +kernel) rfl rfl
  have built : graphOfText { path := "g.json", lenient := true } recursiveText
      = .ok recursiveGraph := by decide +kernel
  exact loaded_of_readText rfl read built

theorem status_eq_zero (overflow : Overflow) (parsed : parse arguments = .ok request)
    (noFile : request.action.output = none) (read : loaded tree request.graph = .ok context)
    (made : ∀ after : Tree, (actionText overflow context
      ((lookupFor Tree.access context.graph request.action).run after).1 request.action).isOk) :
    (outcome overflow tree arguments).status = 0 := by
  obtain ⟨after, result⟩ := outcome_loaded overflow parsed noFile read
  have text := made after
  rw [result]
  split
  · rename_i failure failed
    rw [failed] at text
    cases text
  · rfl

def recursiveChain : Chain := ⟨["f"], List.cons_ne_nil "f" [], List.nodup_singleton "f"⟩

theorem recursive_listing (overflow : Overflow) (source : SourceLookup) :
    (Context.project ⟨{}, recursiveGraph⟩ overflow source 1).listing
      = [(recursiveChain, .tutorial)] := by
  have listing : (Context.project ⟨{}, recursiveGraph⟩ .stops .none 1).listing
      = [(recursiveChain, .tutorial)] := by decide +kernel
  exact listing

theorem chains_are_divided_recursive :
    (∃ curriculum, Project.circular.generate = .ok curriculum ∧
      curriculum.outline.Divides Project.circular.listing) ∧
    ∃ outline,
      (Json.parse (outcome .stops recursiveTree
          ["chains", "g.json", "--lenient", "--max-chains", "1"]).stdout).bind
        (asList ListedChain.ofJson) = some [⟨1, recursiveChain, .tutorial⟩] ∧
      (Json.parse (outcome .stops recursiveTree
          ["generate", "--lenient", "-n", "1", "g.json"]).stdout).bind Outline.ofJson
        = some outline ∧
      outline.Divides [(recursiveChain, .tutorial)] := by
  obtain ⟨projects, runs⟩ := chains_are_divided
  have listed : parse ["chains", "g.json", "--lenient", "--max-chains", "1"]
      = .ok ⟨{ path := "g.json", lenient := true }, .chains { maxChains := some 1 }⟩ := by
    decide +kernel
  have made : parse ["generate", "--lenient", "-n", "1", "g.json"]
      = .ok ⟨{ path := "g.json", lenient := true }, .generate { maxLevels := some 1 }⟩ := by
    decide +kernel
  have listedOk := status_eq_zero .stops listed rfl recursive_loaded fun _ =>
    show (chainsText ⟨{}, recursiveGraph⟩ { maxChains := some 1 }).isOk by decide +kernel
  have madeOk := status_eq_zero .stops made rfl recursive_loaded fun _ =>
    show (generateText .stops ⟨{}, recursiveGraph⟩ { maxLevels := some 1 } .none).isOk by
      decide +kernel
  obtain ⟨context, source, _, outline, read, rfl, -, -, printed, written, divides⟩ :=
    runs .stops recursiveTree _ _ 1 _ _ listed made rfl rfl listedOk madeOk
  cases recursive_loaded.symm.trans read
  rw [recursive_listing] at printed divides
  refine ⟨?_, outline, printed, written, divides⟩
  obtain made | ⟨-, stopped⟩ := projects .circular (by decide +kernel) (by decide +kernel)
  · exact made
  · obtain ⟨curriculum, generated⟩ := Project.circular_generates
    rw [stopped] at generated
    cases generated

end CodeReading.Command
