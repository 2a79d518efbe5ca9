import CodeReading.Files.Sources
import CodeReading.Files.Tree

set_option autoImplicit false

namespace CodeReading.Files

def Tree.sourceText? (tree : Tree) (root path : String) : Option String :=
  if path = "" ∨ !isConfined path then none
  else if liesOutside (tree.resolve root) (tree.resolve (join root path)) then none
  else (tree.readText (join root path)).toOption

def Tree.source (tree : Tree) (root : String) (g : CallGraph) : SourceLookup :=
  SourceLookup.ofFiles ((g.nodes.map (·.filePath)).eraseDups.flatMap fun path =>
    ((tree.sourceText? root path).map (path, ·)).toList)

variable {tree : Tree} {root path : String} {g : CallGraph}

theorem run_readSource :
    (readSource Tree.access root path).run tree = (tree.sourceText? root path, tree) := by
  unfold readSource Tree.sourceText?
  split
  · rfl
  · change StateT.run (if liesOutside (tree.resolve root) (tree.resolve (join root path)) = true
      then pure none else _) tree = _
    split <;> rfl

theorem run_readSources (paths : List String) :
    (readSources Tree.access root paths).run tree
      = (paths.flatMap fun path => ((tree.sourceText? root path).map (path, ·)).toList, tree) := by
  induction paths with
  | nil => rfl
  | cons path paths ih =>
    rw [readSources, StateT.run_bind, run_readSource]
    change (StateT.run (_ >>= _) tree) = _
    rw [StateT.run_bind, ih]
    rfl

theorem run_sourceLookup :
    (sourceLookup Tree.access root g).run tree = (tree.source root g, tree) := by
  rw [sourceLookup, StateT.run_bind, run_readSources]
  rfl

theorem lookup_flatMap_toList (text : String → Option String) (paths : List String)
    (path : String) :
    (paths.flatMap fun path => ((text path).map (path, ·)).toList).lookup path
      = if path ∈ paths then text path else none := by
  induction paths with
  | nil => rfl
  | cons first paths ih =>
    rw [List.flatMap_cons, List.lookup_append, ih]
    by_cases same : path = first
    · subst same
      cases text path <;> simp
    · have different : (path == first) = false := beq_false_of_ne same
      cases text first <;> simp [List.lookup_cons, different, same]

theorem source_of_mem {node : Node} (mem : node ∈ g.nodes) :
    tree.source root g node = (tree.sourceText? root node.filePath).bind fun contents =>
      Text.sliceLines contents node.lineStart node.lineEnd := by
  have listed : node.filePath ∈ (g.nodes.map (·.filePath)).eraseDups :=
    List.mem_eraseDups.2 (List.mem_map_of_mem mem)
  unfold Tree.source SourceLookup.ofFiles
  rw [lookup_flatMap_toList, if_pos listed]

theorem exists_of_source_eq_some {node : Node} {text : String}
    (h : tree.source root g node = some text) :
    ∃ contents, tree.sourceText? root node.filePath = some contents ∧
      Text.sliceLines contents node.lineStart node.lineEnd = some text := by
  obtain ⟨contents, found, sliced⟩ := Option.bind_eq_some_iff.1 h
  rw [lookup_flatMap_toList] at found
  split at found
  · exact ⟨contents, found, sliced⟩
  · cases found

end CodeReading.Files
