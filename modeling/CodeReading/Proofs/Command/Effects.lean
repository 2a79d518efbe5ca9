import CodeReading.Proofs.Command.Arguments
import CodeReading.Proofs.Command.Listing
import CodeReading.Proofs.Files.Sources

set_option autoImplicit false

namespace CodeReading.Command

open Files

variable {overflow : Overflow} {tree : Tree} {arguments : List String} {request : Request}
  {context : Context} {text : String}

def after (overflow : Overflow) (tree : Tree) (arguments : List String) : Tree :=
  ((run overflow Tree.access arguments).run tree).2

theorem run_bind_of_run {σ α β : Type} {first : StateM σ α} {a : α} {state next : σ}
    (h : first.run state = (a, next)) (rest : α → StateM σ β) :
    (first >>= rest).run state = (rest a).run next := by
  rw [StateT.run_bind, h]
  rfl

theorem run_readText (path : String) :
    (Tree.access.readText path).run tree = (tree.readText path, tree) := rfl

def configAt (tree : Tree) : Option String → Except Failure Config
  | none => .ok {}
  | some path =>
    match tree.readText path with
    | .error error => .error (.readConfig path error)
    | .ok text => configOfText path text

def graphAt (tree : Tree) (options : GraphOptions) : Except Failure CallGraph :=
  match tree.readText options.path with
  | .error error => .error (.readGraph options.path error)
  | .ok text => graphOfText options text

theorem run_loadConfig (path : Option String) :
    (loadConfig Tree.access path).run tree = (configAt tree path, tree) := by
  cases path with
  | none => rfl
  | some path =>
    rw [loadConfig, run_bind_of_run (run_readText path), configAt]
    cases tree.readText path <;> rfl

theorem run_loadGraph (options : GraphOptions) :
    (loadGraph Tree.access options).run tree = (graphAt tree options, tree) := by
  rw [loadGraph, run_bind_of_run (run_readText options.path), graphAt]
  cases tree.readText options.path <;> rfl

theorem run_load (options : GraphOptions) :
    (load Tree.access options).run tree =
      ((configAt tree options.config).bind fun config =>
        (graphAt tree options).map fun graph => { config, graph }, tree) := by
  rw [load, run_bind_of_run (run_loadConfig options.config)]
  cases configAt tree options.config with
  | error failure => rfl
  | ok config =>
    dsimp only
    rw [run_bind_of_run (run_loadGraph options)]
    cases graphAt tree options <;> rfl

theorem loaded_eq (options : GraphOptions) :
    loaded tree options = (configAt tree options.config).bind fun config =>
      (graphAt tree options).map fun graph => { config, graph } := by
  rw [loaded, run_load]

def sources (tree : Tree) (g : CallGraph) : Action → SourceLookup
  | .generate { sourceRoot := some root, .. } => tree.source root g
  | _ => SourceLookup.none

theorem run_lookupFor (g : CallGraph) (action : Action) :
    (lookupFor Tree.access g action).run tree = (sources tree g action, tree) := by
  cases action with
  | generate options =>
    obtain ⟨maxLevels, sourceRoot, redactAnswers, output⟩ := options
    cases sourceRoot with
    | none => rfl
    | some root => exact run_sourceLookup
  | chains options => rfl
  | stats => rfl
  | dot => rfl

/-- The text of a request, or why there is none. -/
def textOf (overflow : Overflow) (tree : Tree) (request : Request) : Except Failure String :=
  (loaded tree request.graph).bind fun context =>
    actionText overflow context (sources tree context.graph request.action) request.action

/-- A run finds the text of its request without a change to any file, and then emits it. -/
theorem run_execute : (execute overflow Tree.access request).run tree =
    match textOf overflow tree request with
    | .error failure => (failed failure, tree)
    | .ok text => (emit Tree.access request.action.output text).run tree := by
  rw [execute, run_bind_of_run (run_load request.graph), ← loaded_eq, textOf]
  cases loaded tree request.graph with
  | error failure => rfl
  | ok context =>
    dsimp only [Except.bind]
    rw [run_bind_of_run (run_lookupFor context.graph request.action)]
    cases actionText overflow context (sources tree context.graph request.action) request.action <;>
      rfl

theorem run_writeText (tree : Tree) (path text : String) :
    (Tree.access.writeText path text).run tree =
      match tree.writeText path text with
      | .error error => (.error error, tree)
      | .ok written => (.ok (), written) := by
  cases written : tree.writeText path text with
  | error error =>
    have ran : (Tree.access.writeText path text).run tree = pure (.error error, tree) := by
      simp [Tree.access, written]
    exact ran
  | ok after =>
    have ran : (Tree.access.writeText path text).run tree = pure (.ok (), after) := by
      simp [Tree.access, written]
    exact ran

theorem run_emit_file (path : String) :
    (emit Tree.access (some path) text).run tree =
      match tree.writeText path (text ++ "\n") with
      | .error error => (failed (.writeOutput path error), tree)
      | .ok written => ({ status := 0 }, written) := by
  have wrote := run_writeText tree path (text ++ "\n")
  cases result : tree.writeText path (text ++ "\n") with
  | error error =>
    rw [result] at wrote
    rw [emit, run_bind_of_run wrote]
    rfl
  | ok written =>
    rw [result] at wrote
    rw [emit, run_bind_of_run wrote]
    rfl

theorem run_parsed (parsed : parse arguments = .ok request) :
    (run overflow Tree.access arguments).run tree
      = (execute overflow Tree.access request).run tree := by
  unfold run
  rw [parsed]

/-- A run that does not succeed prints nothing and changes no file. -/
theorem run_quiet_or (overflow : Overflow) (tree : Tree) (arguments : List String) :
    ((outcome overflow tree arguments).stdout = "" ∧ after overflow tree arguments = tree) ∨
      (outcome overflow tree arguments).status = 0 := by
  unfold outcome after
  cases parsed : parse arguments with
  | error refusal =>
    unfold run
    rw [parsed]
    cases refusal with
    | help => exact .inr rfl
    | version => exact .inr rfl
    | usage => exact .inl ⟨rfl, rfl⟩
  | ok request =>
    rw [run_parsed parsed, run_execute]
    cases textOf overflow tree request with
    | error failure => exact .inl ⟨rfl, rfl⟩
    | ok text =>
      cases request.action.output with
      | none => exact .inr rfl
      | some path =>
        dsimp only
        rw [run_emit_file]
        cases tree.writeText path (text ++ "\n") with
        | error error => exact .inl ⟨rfl, rfl⟩
        | ok written => exact .inr rfl

theorem exists_textOf (parsed : parse arguments = .ok request)
    (printed : request.action.output = none) (ok : (outcome overflow tree arguments).status = 0) :
    ∃ text, textOf overflow tree request = .ok text ∧
      (outcome overflow tree arguments).stdout = text ++ "\n" := by
  unfold outcome at ok ⊢
  rw [run_parsed parsed, run_execute] at ok ⊢
  cases made : textOf overflow tree request with
  | error failure =>
    rw [made] at ok
    exact absurd ok (status_failed_ne_zero failure)
  | ok text =>
    rw [printed]
    exact ⟨text, rfl, rfl⟩

theorem run_writes {path : String} {place : ResolvedPath} (parsed : parse arguments = .ok request)
    (output : request.action.output = some path) (writable : tree.IsWritable path place)
    (made : textOf overflow tree request = .ok text) :
    (run overflow Tree.access arguments).run tree
      = ({ status := 0 }, tree.put place (.file (text ++ "\n").toUTF8)) := by
  rw [run_parsed parsed, run_execute, made, output]
  dsimp only
  rw [run_emit_file, writable.writeText]

theorem textOf_output (graph : GraphOptions) (options : GenerateOptions) (output : Option String) :
    textOf overflow tree ⟨graph, .generate { options with output }⟩
      = textOf overflow tree ⟨graph, .generate options⟩ := by
  obtain ⟨maxLevels, sourceRoot, redactAnswers, old⟩ := options
  cases sourceRoot <;> rfl

/-- Whether one tree is the other with a text in one of its files. -/
structure IsWritten (tree written : Tree) (place : ResolvedPath) (text : String) : Prop where
  file : written.entryAt? place = some (.file text.toUTF8)
  others : ∀ other ≠ place, written.entryAt? other = tree.entryAt? other
  workingDirectory : written.workingDirectory = tree.workingDirectory

/-- A run that fails prints nothing and changes nothing. Every line that generates and prints can be
    given an output file, and then the run leaves there exactly what it would print, prints nothing
    and changes no other file; the file may be one of those that are read. -/
theorem run_allOrNothing :
    (∀ (overflow : Overflow) (tree : Tree) (arguments : List String),
      (outcome overflow tree arguments).status ≠ 0 →
      (outcome overflow tree arguments).stdout = "" ∧ after overflow tree arguments = tree) ∧
    (∀ (arguments : List String) (graph : GraphOptions) (options : GenerateOptions)
        (file : String), file ≠ "" →
      parse arguments = .ok ⟨graph, .generate options⟩ → options.output = none →
      ∃ flags rest, arguments = flags ++ "generate" :: rest ∧
        parse (flags ++ "generate" :: longArgument "output" file :: rest)
          = .ok ⟨graph, .generate { options with output := some file }⟩) ∧
    (∀ (overflow : Overflow) (tree : Tree) (printing writing : List String) (graph : GraphOptions)
        (options : GenerateOptions) (file : String) (place : ResolvedPath),
      parse printing = .ok ⟨graph, .generate options⟩ → options.output = none →
      parse writing = .ok ⟨graph, .generate { options with output := some file }⟩ →
      tree.IsWritable file place → (outcome overflow tree printing).status = 0 →
      outcome overflow tree writing = { status := 0 } ∧
        (after overflow tree writing).readText file
          = .ok (outcome overflow tree printing).stdout ∧
        IsWritten tree (after overflow tree writing) place
          (outcome overflow tree printing).stdout) := by
  refine ⟨?_, ?_, ?_⟩
  · intro overflow tree arguments failed
    exact (run_quiet_or overflow tree arguments).resolve_right failed
  · intro arguments graph options file nonempty parsed noFile
    exact parse_output parsed noFile nonempty
  · intro overflow tree printing writing graph options file place prints noFile writes writable ok
    obtain ⟨text, made, printed⟩ := exists_textOf prints noFile ok
    -- The text is computed before anything is written, so it does not depend on the file.
    have again :
        textOf overflow tree ⟨graph, .generate { options with output := some file }⟩ = .ok text :=
      (textOf_output graph options (some file)).trans made
    have ran := run_writes writes rfl writable again
    have left : after overflow tree writing = tree.put place (.file (text ++ "\n").toUTF8) := by
      unfold after
      rw [ran]
    refine ⟨?_, ?_, ?_⟩
    · unfold outcome
      rw [ran]
    · rw [left, printed]
      exact writable.readText_put _
    · rw [left, printed]
      exact ⟨Tree.entryAt?_put_self writable.below, fun _ => Tree.entryAt?_put_of_ne, rfl⟩

theorem recursiveTree_isWritable : recursiveTree.IsWritable "g.json" ["g.json"] := by
  have plain : components "g.json" = ["g.json"] := by decide
  have relative : isAbsolute "g.json" = false := by decide
  have sizes : "g.json".utf8ByteSize = 6 := by decide
  refine ⟨?_, ?_⟩
  · unfold Tree.locate
    rw [plain, relative, sizes]
    simp [Tree.walk, Tree.entryAt?, recursiveTree, sizes, Tree.pathLimit, Tree.nameLimit]
  · intro entry found
    cases found
    exact ⟨_, rfl⟩

theorem recursive_missing : (outcome overflow recursiveTree ["dot", "h.json"]).status = 1 := by
  have parsed : parse ["dot", "h.json"] = .ok ⟨{ path := "h.json" }, .dot⟩ := by decide +kernel
  have plain : Tree.IsPlain "h.json" := ⟨by decide, by decide⟩
  have parts : components "h.json" = ["h.json"] := by decide
  have absent : recursiveTree.entryAt? ["h.json"] = none := rfl
  have walked : recursiveTree.walk false Tree.linkLimit [] ["h.json"] = .error .notFound :=
    Tree.walk_missing plain rfl absent
  have missing : recursiveTree.readText "h.json" = .error .notFound := by
    rw [Tree.readText, Tree.locate_relative (by decide) (by decide) (by decide) parts]
    change Except.bind (recursiveTree.walk false Tree.linkLimit [] ["h.json"]) _ = _
    rw [walked]
    rfl
  have read : loaded recursiveTree { path := "h.json" }
      = .error (.readGraph "h.json" .notFound) := by
    rw [loaded_eq, graphAt, missing]
    rfl
  rw [outcome_not_loaded parsed read]
  rfl

theorem run_allOrNothing_recursive :
    ((outcome .stops recursiveTree ["dot", "h.json"]).stdout = "" ∧
      after .stops recursiveTree ["dot", "h.json"] = recursiveTree) ∧
    (∃ flags rest, ["generate", "g.json", "--lenient"] = flags ++ "generate" :: rest ∧
      (parse (flags ++ "generate" :: longArgument "output" "g.json" :: rest)).isOk) ∧
    outcome .stops recursiveTree ["generate", "--output=g.json", "g.json", "--lenient"]
      = { status := 0 } ∧
    (after .stops recursiveTree
        ["generate", "--output=g.json", "g.json", "--lenient"]).readText "g.json"
      = .ok (outcome .stops recursiveTree ["generate", "g.json", "--lenient"]).stdout := by
  obtain ⟨fails, lines, writes⟩ := run_allOrNothing
  have prints : parse ["generate", "g.json", "--lenient"]
      = .ok ⟨{ path := "g.json", lenient := true }, .generate {}⟩ := by decide +kernel
  have writing : parse ["generate", "--output=g.json", "g.json", "--lenient"]
      = .ok ⟨{ path := "g.json", lenient := true }, .generate { output := some "g.json" }⟩ := by
    decide +kernel
  have ok := status_eq_zero .stops prints rfl recursive_loaded fun _ =>
    show (generateText .stops ⟨{}, recursiveGraph⟩ {} .none).isOk by decide +kernel
  have failed : (outcome .stops recursiveTree ["dot", "h.json"]).status ≠ 0 := by
    rw [recursive_missing]
    exact Nat.one_ne_zero
  obtain ⟨flags, rest, split, parsed⟩ := lines _ _ _ "g.json" (by decide) prints rfl
  obtain ⟨quiet, left, -⟩ :=
    writes .stops recursiveTree _ _ _ _ "g.json" ["g.json"] prints rfl writing
      recursiveTree_isWritable ok
  exact ⟨fails _ _ _ failed, ⟨flags, rest, split, by rw [parsed]; rfl⟩, quiet, left⟩

end CodeReading.Command
