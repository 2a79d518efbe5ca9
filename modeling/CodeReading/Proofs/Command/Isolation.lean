import CodeReading.Proofs.Command.Effects
import CodeReading.Proofs.Files.Confinement

set_option autoImplicit false

/-!
# Which files a run depends on

A run that takes source texts from below a root depends on its settings, its graph and the files at
or below the resolved root. The places of the file tree have to be such that they can be spelled:
where one cannot be, a link below the root may lead out of it unnoticed.
-/
namespace CodeReading.Command

open Files

variable {left right : Tree} {arguments : List String} {request : Request} {root : String}
  {paths : List String} {graph : GraphOptions} {options : GenerateOptions}

def GraphOptions.inputs (graph : GraphOptions) : List String :=
  graph.path :: graph.config.toList

theorem configAt_congr (agree : left.AgreeBelow right root paths) {config : Option String}
    (mem : ∀ path, config = some path → path ∈ paths) :
    configAt left config = configAt right config := by
  cases config with
  | none => rfl
  | some path => simp only [configAt, agree.readText (mem path rfl)]

theorem graphAt_congr (agree : left.AgreeBelow right root paths) (mem : graph.path ∈ paths) :
    graphAt left graph = graphAt right graph := by
  unfold graphAt
  rw [agree.readText mem]

theorem loaded_congr (agree : left.AgreeBelow right root graph.inputs) :
    loaded left graph = loaded right graph := by
  have config : configAt left graph.config = configAt right graph.config :=
    configAt_congr agree fun path given => by simp [GraphOptions.inputs, given]
  have graph : graphAt left graph = graphAt right graph :=
    graphAt_congr agree (by simp [GraphOptions.inputs])
  rw [loaded_eq, loaded_eq, config, graph]

theorem textOf_congr (overflow : Overflow) (agree : left.AgreeBelow right root graph.inputs)
    (nameable : left.IsNameable) (below : root ≠ "") (given : options.sourceRoot = some root) :
    textOf overflow left ⟨graph, .generate options⟩
      = textOf overflow right ⟨graph, .generate options⟩ := by
  have same : ∀ g, sources left g (.generate options) = sources right g (.generate options) := by
    intro g
    obtain ⟨maxLevels, sourceRoot, redactAnswers, output⟩ := options
    cases given
    exact agree.source nameable below
  unfold textOf
  simp only [loaded_congr agree, same]

/-- Whether two trees changed alike: each place is as it was in both, or the same in both. -/
def ChangedAlike (left right leftAfter rightAfter : Tree) : Prop :=
  ∀ place, leftAfter.entryAt? place = rightAfter.entryAt? place ∨
    leftAfter.entryAt? place = left.entryAt? place ∧
      rightAfter.entryAt? place = right.entryAt? place

theorem changedAlike_put {place : ResolvedPath} {entry : Entry} (below : place ≠ []) :
    ChangedAlike left right (left.put place entry) (right.put place entry) := by
  intro other
  by_cases here : other = place
  · subst here
    exact .inl (by rw [Tree.entryAt?_put_self below, Tree.entryAt?_put_self below])
  · exact .inr ⟨Tree.entryAt?_put_of_ne here, Tree.entryAt?_put_of_ne here⟩

theorem emit_congr (alike : left.Alike right) (output : Option String) (text : String) :
    ((emit Tree.access output text).run left).1 = ((emit Tree.access output text).run right).1 ∧
      ChangedAlike left right ((emit Tree.access output text).run left).2
        ((emit Tree.access output text).run right).2 := by
  have unchanged : ChangedAlike left right left right := fun _ => .inr ⟨rfl, rfl⟩
  cases output with
  | none => exact ⟨rfl, unchanged⟩
  | some path =>
    rw [run_emit_file, run_emit_file]
    cases located : left.locate true path with
    | error error =>
      have twin := (alike.locate path).symm.trans located
      rw [Tree.writeText_error located, Tree.writeText_error twin]
      exact ⟨rfl, unchanged⟩
    | ok place =>
      have twin := (alike.locate path).symm.trans located
      by_cases directory : left.entryAt? place = some .directory
      · rw [Tree.writeText_directory located directory,
          Tree.writeText_directory twin (alike.directory_iff.1 directory)]
        exact ⟨rfl, unchanged⟩
      · rw [Tree.writeText_put located directory,
          Tree.writeText_put twin fun other => directory (alike.directory_iff.2 other)]
        refine ⟨rfl, changedAlike_put ?_⟩
        rintro rfl
        exact directory rfl

/-- A source text comes from a place at or below the resolved root. So a run that takes source texts
    from there has the same outcome on file trees that differ only in what is in files elsewhere,
    other than its settings and its graph, and changes them alike. -/
theorem sources_are_confined {tree : Tree} (nameable : tree.IsNameable) (root : String) :
    (∀ (g : CallGraph) (node : Node) (text : String), root ≠ "" →
      ((sourceLookup Tree.access root g).run tree).1 node = some text →
      ∃ base place contents, tree.locate false root = .ok base ∧
        tree.locate false (join root node.filePath) = .ok place ∧ base <+: place ∧
        tree.textAt place = .ok contents ∧
        Text.sliceLines contents node.lineStart node.lineEnd = some text) ∧
    (∀ (overflow : Overflow) (other : Tree) (arguments : List String) (graph : GraphOptions)
        (options : GenerateOptions),
      parse arguments = .ok ⟨graph, .generate options⟩ → options.sourceRoot = some root →
      tree.AgreeBelow other root graph.inputs →
      outcome overflow tree arguments = outcome overflow other arguments ∧
        ChangedAlike tree other (after overflow tree arguments)
          (after overflow other arguments)) := by
  constructor
  · intro g node text below found
    rw [run_sourceLookup] at found
    obtain ⟨contents, read, sliced⟩ := exists_of_source_eq_some found
    obtain ⟨base, place, rooted, located, within, stored⟩ :=
      Tree.confined_of_sourceText? nameable below read
    exact ⟨base, place, contents, rooted, located, within, stored, sliced⟩
  · intro overflow other arguments graph options parsed given agree
    have same := textOf_congr overflow agree nameable (sourceRoot_ne_empty parsed given) given
    unfold outcome after
    rw [run_parsed parsed, run_parsed parsed, run_execute, run_execute, same]
    cases textOf overflow other ⟨graph, .generate options⟩ with
    | error failure => exact ⟨rfl, fun _ => .inr ⟨rfl, rfl⟩⟩
    | ok text => exact emit_congr agree.toAlike _ text

/-- A graph file with a function in a file below the root and one behind a link. -/
def linkedText : String :=
  "\x7b\"nodes\":[\x7b\"id\":\"f\",\"name\":\"f\",\"kind\":\"function\",\"file_path\":\"a.py\","
    ++ "\"line_start\":1,\"line_end\":1,\"calls\":[\"g\"]\x7d,\x7b\"id\":\"g\",\"name\":\"g\","
    ++ "\"kind\":\"function\",\"file_path\":\"b.py\",\"line_start\":1,\"line_end\":1\x7d],"
    ++ "\"entry_points\":[\"f\"]\x7d"

def linkedTree : Tree where
  entries := [
    (["g.json"], .file linkedText.toUTF8),
    (["root"], .directory),
    (["root", "a.py"], .file "return\n".toUTF8),
    (["root", "b.py"], .link "../secret.py"),
    (["secret.py"], .file "hidden\n".toUTF8)]
  workingDirectory := []

def linkedNode : Node :=
  { id := "f", name := "f", kind := .function, filePath := "a.py", lineStart := 1, lineEnd := 1 }

def graphOf (node : Node) : CallGraph :=
  { nodes := [node], edges := [], entryPoints := .ofList [node.id] }

theorem source_graphOf {tree : Tree} {root contents text : String} {node : Node}
    (read : tree.sourceText? root node.filePath = some contents)
    (sliced : Text.sliceLines contents node.lineStart node.lineEnd = some text) :
    ((sourceLookup Tree.access root (graphOf node)).run tree).1 node = some text := by
  have mem : node ∈ (graphOf node).nodes := List.mem_singleton.2 rfl
  rw [run_sourceLookup]
  change tree.source root (graphOf node) node = some text
  rw [source_of_mem mem, read]
  exact sliced

theorem linkedTree_isNameable : linkedTree.IsNameable :=
  Tree.isNameable_of_entries (by decide)

theorem isPlain_root : Tree.IsPlain "root" := ⟨by decide, by decide⟩

theorem locate_root {tree : Tree} (start : tree.workingDirectory = [])
    (directory : tree.entryAt? ["root"] = some .directory) :
    tree.locate false "root" = .ok ["root"] := by
  have entered : tree.walk false Tree.linkLimit [] ["root"]
      = tree.walk false Tree.linkLimit ["root"] [] :=
    Tree.walk_entry isPlain_root rfl directory nofun
  rw [Tree.locate_relative (by decide) (by decide) (by decide)
    (show components "root" = ["root"] by decide), start, entered, Tree.walk_nil]

theorem linkedTree_located :
    linkedTree.locate false (join "root" "a.py") = .ok ["root", "a.py"] := by
  have plain : Tree.IsPlain "a.py" := ⟨by decide, by decide⟩
  have parts : components (join "root" "a.py") = ["root", "a.py"] := by decide
  have directory : linkedTree.entryAt? ["root"] = some .directory := rfl
  have file : linkedTree.entryAt? ["root", "a.py"] = some (.file "return\n".toUTF8) := rfl
  rw [Tree.locate_relative (by decide) (by decide) (by decide) parts]
  calc
    linkedTree.walk false Tree.linkLimit [] ["root", "a.py"]
      = linkedTree.walk false Tree.linkLimit ["root"] ["a.py"] :=
        Tree.walk_entry isPlain_root rfl directory nofun
    _ = linkedTree.walk false Tree.linkLimit ["root", "a.py"] [] :=
        Tree.walk_entry plain directory file nofun
    _ = .ok ["root", "a.py"] := Tree.walk_nil

theorem linkedTree_graph : linkedTree.locate false "g.json" = .ok ["g.json"] := by
  have plain : Tree.IsPlain "g.json" := ⟨by decide, by decide⟩
  have parts : components "g.json" = ["g.json"] := by decide
  have file : linkedTree.entryAt? ["g.json"] = some (.file linkedText.toUTF8) := rfl
  have entered : linkedTree.walk false Tree.linkLimit [] ["g.json"]
      = linkedTree.walk false Tree.linkLimit ["g.json"] [] :=
    Tree.walk_entry plain rfl file nofun
  rw [Tree.locate_relative (by decide) (by decide) (by decide) parts]
  exact entered.trans Tree.walk_nil

theorem linkedTree_text : linkedTree.textAt ["root", "a.py"] = .ok "return\n" := by
  have file : linkedTree.entryAt? ["root", "a.py"] = some (.file "return\n".toUTF8) := rfl
  simp only [Tree.textAt, file, Tree.fromUTF8?_toUTF8]

theorem linkedTree_source : linkedTree.sourceText? "root" "a.py" = some "return\n" := by
  have root : linkedTree.locate false "root" = .ok ["root"] := locate_root rfl rfl
  have accepted : ¬("a.py" = "" ∨ (!isConfined "a.py") = true) := by decide
  unfold Tree.sourceText? Tree.readText
  rw [if_neg accepted, linkedTree_isNameable.resolve_eq, linkedTree_isNameable.resolve_eq, root,
    linkedTree_located]
  exact congrArg Except.toOption linkedTree_text

theorem sources_are_confined_linked :
    (∃ base place contents, linkedTree.locate false "root" = .ok base ∧
      linkedTree.locate false (join "root" "a.py") = .ok place ∧ base <+: place ∧
      linkedTree.textAt place = .ok contents ∧ Text.sliceLines contents 1 1 = some "return") ∧
    outcome .stops linkedTree ["generate", "g.json", "--source-root=root"] =
      outcome .stops (linkedTree.put ["secret.py"] (.file "found".toUTF8))
        ["generate", "g.json", "--source-root=root"] := by
  obtain ⟨confined, isolated⟩ := sources_are_confined linkedTree_isNameable "root"
  have parsed : parse ["generate", "g.json", "--source-root=root"]
      = .ok ⟨{ path := "g.json" }, .generate { sourceRoot := some "root" }⟩ := by decide +kernel
  have sliced : Text.sliceLines "return\n" 1 1 = some "return" := by decide
  have agree : linkedTree.AgreeBelow (linkedTree.put ["secret.py"] (.file "found".toUTF8)) "root"
      ["g.json"] := by
    refine Tree.agreeBelow_put rfl ?_ ?_
    · intro base rooted within
      rw [locate_root rfl rfl] at rooted
      cases rooted
      exact absurd within (by decide)
    · intro path mem located
      rw [List.mem_singleton.1 mem, linkedTree_graph] at located
      exact absurd (Except.ok.inj located) (by decide)
  refine ⟨?_, ?_⟩
  · exact confined (graphOf linkedNode) linkedNode "return" (by decide)
      (source_graphOf linkedTree_source sliced)
  · exact (isolated _ _ _ _ _ parsed rfl agree).1

def longName (letter : Char) (count : Nat) : String := String.ofList (List.replicate count letter)

theorem longName_noSlash {letter : Char} (other : letter ≠ '/') (count : Nat) :
    '/' ∉ (longName letter count).toList := by
  unfold longName
  rw [String.toList_ofList]
  exact fun mem => other (List.eq_of_mem_replicate mem).symm

theorem longName_size (letter : Char) (count : Nat) :
    (longName letter count).utf8ByteSize = count * letter.utf8Size := by
  unfold longName
  induction count with
  | zero => simp
  | succ count ih =>
    rw [List.replicate_succ, String.ofList_cons, String.utf8ByteSize_append,
      String.utf8ByteSize_singleton, ih, Nat.succ_mul, Nat.add_comm]

/-- A directory name of which sixteen fit into a path, but not with a file name after them. -/
def deepName : String := longName 'd' 240

def deepLeaf : String := longName 'x' 250

def deepPath : Nat → String
  | 0 => deepName
  | n + 1 => join deepName (deepPath n)

def deepPlace (n : Nat) : ResolvedPath := "root" :: List.replicate n deepName

/-- Far below the root there is a link to a file outside of it. -/
def deepTree : Tree where
  entries := [
    (["secret.py"], .file "hidden".toUTF8),
    (["root", "n"], .link (deepPath 15)),
    (deepPlace 16 ++ [deepLeaf], .link "/secret.py")]
    ++ (List.range 17).map fun n => (deepPlace n, .directory)
  workingDirectory := []

def deepNode : Node :=
  { id := "f", name := "f", kind := .function, filePath := join "n" deepLeaf, lineStart := 1,
    lineEnd := 1 }

theorem deepName_noSlash : '/' ∉ deepName.toList := longName_noSlash (by decide) 240

theorem deepLeaf_noSlash : '/' ∉ deepLeaf.toList := longName_noSlash (by decide) 250

theorem deepName_size : deepName.utf8ByteSize = 240 := longName_size 'd' 240

theorem deepLeaf_size : deepLeaf.utf8ByteSize = 250 := longName_size 'x' 250

theorem isPlain_deepName : Tree.IsPlain deepName := by
  apply Tree.isPlain_of_long <;> rw [deepName_size] <;> decide

theorem isPlain_deepLeaf : Tree.IsPlain deepLeaf := by
  apply Tree.isPlain_of_long <;> rw [deepLeaf_size] <;> decide

theorem names_deepName : names deepName = [deepName] :=
  names_of_no_slash deepName_noSlash isPlain_deepName.ne_empty

theorem deepPath_ne_empty (n : Nat) : deepPath n ≠ "" := by
  cases n with
  | zero => exact isPlain_deepName.ne_empty
  | succ n => exact join_ne_empty isPlain_deepName.ne_empty _

theorem components_deepPath (n : Nat) :
    components (deepPath n) = List.replicate (n + 1) deepName := by
  induction n with
  | zero => exact components_of_no_slash deepName_noSlash isPlain_deepName.ne_empty
  | succ n ih =>
    rw [deepPath, components_join isPlain_deepName.ne_empty (deepPath_ne_empty n), names_deepName,
      ih]
    rfl

theorem isAbsolute_deepPath (n : Nat) : isAbsolute (deepPath n) = false := by
  have first : isAbsolute deepName = false := by
    unfold isAbsolute deepName longName
    rw [String.toList_ofList]
    rfl
  cases n with
  | zero => exact first
  | succ n =>
    rw [deepPath, isAbsolute_join isPlain_deepName.ne_empty]
    exact first

theorem deepName_ne : "n" ≠ deepName := by
  intro same
  have size : "n".utf8ByteSize = 240 := same ▸ deepName_size
  exact absurd size (by decide)

theorem mem_deepTree {place : ResolvedPath} {entry : Entry} :
    (place, entry) ∈ deepTree.entries ↔
      place = ["secret.py"] ∧ entry = .file "hidden".toUTF8 ∨
      place = ["root", "n"] ∧ entry = .link (deepPath 15) ∨
      place = deepPlace 16 ++ [deepLeaf] ∧ entry = .link "/secret.py" ∨
      ∃ n ≤ 16, place = deepPlace n ∧ entry = .directory := by
  have directories : (place, entry) ∈ (List.range 17).map (fun n => (deepPlace n, Entry.directory))
      ↔ ∃ n ≤ 16, place = deepPlace n ∧ entry = .directory := by
    simp only [List.mem_map, List.mem_range, Prod.mk.injEq, Nat.lt_succ_iff, eq_comm]
  unfold deepTree
  rw [List.mem_append, directories]
  simp [or_assoc]

theorem deepTree_directory {n : Nat} (le : n ≤ 16) :
    deepTree.entryAt? (deepPlace n) = some .directory := by
  refine Tree.entryAt?_of_mem nofun ?_ ?_
  · exact mem_deepTree.2 (.inr (.inr (.inr ⟨n, le, rfl, rfl⟩)))
  · intro other mem
    obtain ⟨eq, -⟩ | ⟨eq, -⟩ | ⟨eq, -⟩ | ⟨m, -, -, rfl⟩ := mem_deepTree.1 mem
    · simp [deepPlace] at eq
    · cases n with
      | zero => simp [deepPlace] at eq
      | succ n =>
        rw [deepPlace, List.replicate_succ, List.cons.injEq, List.cons.injEq] at eq
        exact absurd eq.2.1.symm deepName_ne
    · have lengths := congrArg List.length eq
      simp [deepPlace] at lengths
      omega
    · rfl

theorem deepTree_leaf :
    deepTree.entryAt? (deepPlace 16 ++ [deepLeaf]) = some (.link "/secret.py") := by
  refine Tree.entryAt?_of_mem (by simp) ?_ ?_
  · exact mem_deepTree.2 (.inr (.inr (.inl ⟨rfl, rfl⟩)))
  · intro other mem
    obtain ⟨eq, -⟩ | ⟨eq, -⟩ | ⟨-, rfl⟩ | ⟨m, le, eq, -⟩ := mem_deepTree.1 mem
    · have lengths := congrArg List.length eq
      simp [deepPlace] at lengths
    · have lengths := congrArg List.length eq
      simp [deepPlace] at lengths
    · rfl
    · have lengths := congrArg List.length eq
      simp [deepPlace] at lengths
      omega

theorem deepTree_link : deepTree.entryAt? ["root", "n"] = some (.link (deepPath 15)) := rfl

theorem deepTree_secret : deepTree.entryAt? ["secret.py"] = some (.file "hidden".toUTF8) := rfl

theorem locate_deep {tree : Tree} (start : tree.workingDirectory = [])
    (directory : ∀ n ≤ 16, tree.entryAt? (deepPlace n) = some .directory)
    (link : tree.entryAt? ["root", "n"] = some (.link (deepPath 15))) :
    tree.locate false (join "root" deepNode.filePath)
      = tree.walk false 39 (deepPlace 16) [deepLeaf] := by
  have plainLink : Tree.IsPlain "n" := ⟨by decide, by decide⟩
  have file : join "n" deepLeaf ≠ "" := join_ne_empty (by decide) _
  have rootNames : names "root" = ["root"] := by decide
  have linkNames : names "n" = ["n"] := by decide
  have parts : components (join "root" (join "n" deepLeaf)) = ["root", "n", deepLeaf] := by
    rw [components_join (by decide) file, components_join (by decide) isPlain_deepLeaf.ne_empty,
      components_of_no_slash deepLeaf_noSlash isPlain_deepLeaf.ne_empty, rootNames, linkNames]
    rfl
  have inside : tree.entryAt? ["root"] = some .directory := directory 0 (Nat.zero_le _)
  have relative : isAbsolute (join "root" (join "n" deepLeaf)) = false := by
    rw [isAbsolute_join (by decide)]
    decide
  have short : (join "root" (join "n" deepLeaf)).utf8ByteSize ≤ Tree.pathLimit := by
    have outer := size_join_le "root" (join "n" deepLeaf)
    have inner := size_join_le "n" deepLeaf
    have sizes : "root".utf8ByteSize = 4 ∧ "n".utf8ByteSize = 1 := by decide
    have leaf := deepLeaf_size
    unfold Tree.pathLimit
    omega
  change tree.locate false (join "root" (join "n" deepLeaf)) = _
  rw [Tree.locate_relative (join_ne_empty (by decide) _) short relative parts, start]
  calc
    tree.walk false 40 [] ["root", "n", deepLeaf]
      = tree.walk false 40 ["root"] ["n", deepLeaf] :=
        Tree.walk_entry isPlain_root rfl inside nofun
    _ = tree.walk false 39 ["root"] (List.replicate 16 deepName ++ [deepLeaf]) := by
        rw [Tree.walk_link plainLink inside link, isAbsolute_deepPath, components_deepPath]
        rfl
    _ = tree.walk false 39 (deepPlace 16) [deepLeaf] :=
        Tree.walk_replicate isPlain_deepName 16 directory

theorem deepTree_located :
    deepTree.locate false (join "root" deepNode.filePath) = .ok ["secret.py"] := by
  have parts : components "/secret.py" = ["secret.py"] := by decide
  have absolute : isAbsolute "/secret.py" = true := by decide
  have plain : Tree.IsPlain "secret.py" := ⟨by decide, by decide⟩
  rw [locate_deep rfl (fun n le => deepTree_directory le) deepTree_link,
    Tree.walk_link isPlain_deepLeaf (deepTree_directory (Nat.le_refl _)) deepTree_leaf, parts,
    absolute]
  have entered : deepTree.walk false 38 [] ["secret.py"]
      = deepTree.walk false 38 ["secret.py"] [] :=
    Tree.walk_entry plain rfl deepTree_secret nofun
  exact entered.trans Tree.walk_nil

theorem deepTree_root : deepTree.locate false "root" = .ok ["root"] :=
  locate_root rfl (deepTree_directory (Nat.zero_le _))

theorem spelledSize_deepPlace (n : Nat) : Tree.spelledSize (deepPlace n) = 5 + n * 241 := by
  have first : "root".utf8ByteSize = 4 := by decide
  rw [deepPlace, Tree.spelledSize, Tree.spelledSize_replicate, deepName_size, first]

theorem deepTree_unresolved : deepTree.resolve (join "root" deepNode.filePath) = none := by
  have directory : ∀ n ≤ 16, deepTree.nameable.entryAt? (deepPlace n) = some .directory := by
    intro n le
    have short : Tree.spelledSize (deepPlace n) ≤ Tree.pathLimit := by
      rw [spelledSize_deepPlace]
      unfold Tree.pathLimit
      omega
    rw [Tree.entryAt?_nameable, if_pos short, deepTree_directory le]
  have link : deepTree.nameable.entryAt? ["root", "n"] = some (.link (deepPath 15)) := by
    rw [Tree.entryAt?_nameable, if_pos (by decide), deepTree_link]
  have missing : deepTree.nameable.entryAt? (deepPlace 16 ++ [deepLeaf]) = none := by
    have long : ¬Tree.spelledSize (deepPlace 16 ++ [deepLeaf]) ≤ Tree.pathLimit := by
      have size : Tree.spelledSize (deepPlace 16 ++ [deepLeaf])
          = Tree.spelledSize (deepPlace 16) + 251 := by
        have leaf : Tree.spelledSize [deepLeaf] = 251 := by
          rw [Tree.spelledSize, Tree.spelledSize, deepLeaf_size]
        rw [Tree.spelledSize_append, leaf]
      rw [size, spelledSize_deepPlace]
      decide
    rw [Tree.entryAt?_nameable, if_neg long]
  unfold Tree.resolve
  rw [locate_deep rfl directory link,
    Tree.walk_missing isPlain_deepLeaf (directory 16 (Nat.le_refl _)) missing]
  rfl

theorem deepNode_isConfined : isConfined deepNode.filePath = true := by
  have apart : ¬("n" = "" ∨ "n".toList.getLast? = some '/') := by decide
  have joined : deepNode.filePath = "n" ++ "/" ++ deepLeaf := by
    change join "n" deepLeaf = _
    rw [join, if_neg apart]
  have pieces : splitSlashes deepNode.filePath = ["n", deepLeaf] := by
    rw [joined, splitSlashes_append, splitSlashes_of_no_slash deepLeaf_noSlash]
    rfl
  have relative : isAbsolute deepNode.filePath = false :=
    (isAbsolute_join (by decide) deepLeaf).trans (by decide)
  have noParent : ".." ≠ deepLeaf := fun same =>
    isPlain_deepLeaf.named (by simp [← same])
  simp [isConfined, relative, pieces, noParent]

/-- In a tree with a place that cannot be spelled, a source text may come from elsewhere. -/
theorem sources_escape :
    ((sourceLookup Tree.access "root" (graphOf deepNode)).run deepTree).1 deepNode = some "hidden" ∧
      deepTree.locate false "root" = .ok ["root"] ∧
      deepTree.locate false (join "root" deepNode.filePath) = .ok ["secret.py"] ∧
      ¬["root"] <+: ["secret.py"] := by
  have file : deepNode.filePath ≠ "" := (join_ne_empty (by decide) _ : join "n" deepLeaf ≠ "")
  have read : deepTree.sourceText? "root" deepNode.filePath = some "hidden" := by
    rw [Tree.sourceText?_of_unresolved file deepNode_isConfined deepTree_unresolved, Tree.readText,
      deepTree_located]
    change (deepTree.textAt ["secret.py"]).toOption = some "hidden"
    simp only [Tree.textAt, deepTree_secret, Tree.fromUTF8?_toUTF8]
    rfl
  have sliced : Text.sliceLines "hidden" 1 1 = some "hidden" := by decide
  exact ⟨source_graphOf read sliced, deepTree_root, deepTree_located, by decide⟩

end CodeReading.Command
