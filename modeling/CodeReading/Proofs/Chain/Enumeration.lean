import CodeReading.Proofs.Chain.Path

set_option autoImplicit false

/-!
# The enumerated chains

The stack search meets the maximal paths in lexicographic order. `completions` unfolds one path
without a stack: the finished paths that extend it. A search is the completions of its stack, one
path after the other, up to the limit.
-/
namespace CodeReading.CallGraph

/-- Finished paths that a path can be extended to, in the order in which a search meets them. -/
def completions (g : CallGraph) (maxLength : Nat) (path : Path) : List Path :=
  if g.extensions maxLength path = [] then [path]
  else
    (g.extensions maxLength path).attach.flatMap fun ⟨longer, _⟩ => g.completions maxLength longer
termination_by (g.unvisited path).length
decreasing_by exact unvisited_extension_lt (by assumption)

variable {g : CallGraph} {maxLength : Nat} {path : Path}

theorem completions_finished (h : g.extensions maxLength path = []) :
    g.completions maxLength path = [path] := by
  rw [completions, if_pos h]

theorem completions_extended (h : g.extensions maxLength path ≠ []) :
    g.completions maxLength path
      = (g.extensions maxLength path).flatMap (g.completions maxLength) := by
  rw [completions, if_neg h]
  simp

/-- Induction on the search tree below a path. -/
theorem extension_induction (g : CallGraph) (maxLength : Nat) {motive : Path → Prop}
    (step : ∀ path, (∀ longer ∈ g.extensions maxLength path, motive longer) → motive path)
    (path : Path) : motive path := by
  induction size : (g.unvisited path).length using Nat.strong_induction_on generalizing path with
  | _ n ih =>
    refine step path fun longer mem => ih _ ?_ longer rfl
    rw [← size]
    exact unvisited_extension_lt mem

/-- What a search finds: what it has found before, then the completions of its stack, up to the
    limit. -/
theorem finishedPaths_eq (g : CallGraph) (maxLength limit : Nat) (found stack : List Path)
    (room : found.length < max limit 1) :
    g.finishedPaths maxLength limit found stack
      = (found.reverse ++ stack.flatMap (g.completions maxLength)).take (max limit 1) := by
  -- Popping a path either finishes it or puts its extensions in its place on the stack: neither
  -- changes what was found followed by the completions of the stack.
  fun_induction finishedPaths g maxLength limit found stack with
  | case1 found =>
    rw [List.flatMap_nil, List.append_nil, List.take_of_length_le]
    rw [List.length_reverse]
    omega
  | case2 found path stack finished full =>
    have last : (path :: found).reverse.length = max limit 1 := by
      simp only [List.length_reverse, List.length_cons]
      omega
    rw [List.flatMap_cons, completions_finished finished, ← List.append_assoc, ← List.reverse_cons,
      ← last, List.take_left]
  | case3 found path stack finished more ih =>
    rw [ih (by simp only [List.length_cons]; omega), List.flatMap_cons,
      completions_finished finished, List.reverse_cons, List.append_assoc]
  | case4 found path stack longer others extended ih =>
    have below : g.completions maxLength path
        = (longer :: others).flatMap (g.completions maxLength) := by
      rw [← extended]
      exact completions_extended (by simp [extended])
    rw [ih room, List.flatMap_append, ← below, List.flatMap_cons]

theorem prefix_of_mem_completions {full : Path} :
    full ∈ g.completions maxLength path → path <+: full := by
  induction path using extension_induction g maxLength with
  | step path ih =>
    intro mem
    by_cases finished : g.extensions maxLength path = []
    · rw [completions_finished finished, List.mem_singleton] at mem
      subst mem
      exact List.prefix_rfl
    · rw [completions_extended finished] at mem
      obtain ⟨longer, extension, mem⟩ := List.mem_flatMap.1 mem
      obtain ⟨id, rfl, -, -⟩ := mem_extensions extension
      exact (List.prefix_append path [id]).trans (ih _ extension mem)

theorem Closed.isMaximalPath_of_mem_completions (closed : g.Closed) {full : Path}
    (h : g.IsPath path) (bounded : path.length ≤ max maxLength 1) :
    full ∈ g.completions maxLength path → g.IsMaximalPath (max maxLength 1) full := by
  induction path using extension_induction g maxLength with
  | step path ih =>
    intro mem
    by_cases finished : g.extensions maxLength path = []
    · rw [completions_finished finished, List.mem_singleton] at mem
      subst mem
      have some : 0 < full.length := List.length_pos_of_ne_nil h.ne_nil
      refine ⟨h, bounded, ?_⟩
      rcases closed.extensions_eq_nil_iff.1 finished with full | back
      · exact Or.inl (by omega)
      · exact Or.inr back
    · rw [completions_extended finished] at mem
      obtain ⟨longer, extension, mem⟩ := List.mem_flatMap.1 mem
      obtain ⟨isPath, short⟩ := closed.isPath_extension h extension
      exact ih longer extension isPath (short.trans (Nat.le_max_left _ _)) mem

theorem Closed.mem_completions_of_prefix (closed : g.Closed) {full : Path}
    (h : g.IsMaximalPath (max maxLength 1) full) :
    path <+: full → path ≠ [] → full ∈ g.completions maxLength path := by
  induction path using extension_induction g maxLength with
  | step path ih =>
    rintro ⟨rest, rfl⟩ start
    have bounded := h.bounded
    have some : 0 < path.length := List.length_pos_of_ne_nil start
    cases rest with
    | nil =>
      rw [List.append_nil] at h bounded ⊢
      have finished : g.extensions maxLength path = [] := by
        refine closed.extensions_eq_nil_iff.2 ?_
        rcases h.finished with full | back
        · exact Or.inl (by omega)
        · exact Or.inr back
      rw [completions_finished finished]
      exact List.mem_singleton_self path
    | cons callee rest =>
      have room : path.length < maxLength := by
        rw [List.length_append, List.length_cons] at bounded
        omega
      have extension := closed.prefix_extension h.toIsPath start room
      rw [completions_extended (List.ne_nil_of_mem extension)]
      refine List.mem_flatMap.2 ⟨path ++ [callee], extension, ih _ extension ?_ (by simp)⟩
      exact ⟨rest, by rw [List.append_assoc, List.singleton_append]⟩

/-- Paths below two branches of one path stand in the order of the branches. -/
theorem lt_of_branches {a b : NodeId} (h : a < b) {left right : Path} (ha : path ++ [a] <+: left)
    (hb : path ++ [b] <+: right) : left < right := by
  obtain ⟨left, rfl⟩ := ha
  obtain ⟨right, rfl⟩ := hb
  rw [List.append_assoc, List.append_assoc]
  exact List.append_left_lt (List.cons_lt_cons_iff.2 (Or.inl h))

theorem sorted_flatMap_completions (path : Path) {ids : List NodeId} (sorted : ids.Pairwise (· < ·))
    (each : ∀ id ∈ ids, (g.completions maxLength (path ++ [id])).Pairwise (· < ·)) :
    ((ids.map fun id => path ++ [id]).flatMap (g.completions maxLength)).Pairwise (· < ·) := by
  rw [List.flatMap_map]
  refine List.pairwise_flatMap.2 ⟨each, sorted.imp ?_⟩
  intro a b less left hleft right hright
  exact lt_of_branches less (prefix_of_mem_completions hleft) (prefix_of_mem_completions hright)

theorem known_ids_sublist (ids : List NodeId) : ((g.known ids).map (·.id)).Sublist ids := by
  induction ids with
  | nil => exact .slnil
  | cons id ids ih =>
    unfold known at ih ⊢
    cases found : g.node? id with
    | none =>
      rw [List.filterMap_cons_none found]
      exact ih.cons id
    | some node =>
      rw [List.filterMap_cons_some found, List.map_cons, (mem_of_findNode? found).2]
      exact ih.cons_cons id

theorem sorted_callees (id : NodeId) : ((g.callees id).map (·.id)).Pairwise (· < ·) := by
  unfold callees
  split
  · rename_i node _
    exact node.calls.sorted.sublist (known_ids_sublist _)
  · exact .nil

theorem sorted_completions (g : CallGraph) (maxLength : Nat) (path : Path) :
    (g.completions maxLength path).Pairwise (· < ·) := by
  induction path using extension_induction g maxLength with
  | step path ih =>
    by_cases finished : g.extensions maxLength path = []
    · rw [completions_finished finished]
      exact List.pairwise_singleton _ _
    · rw [completions_extended finished]
      unfold extensions at finished ih ⊢
      split at finished
      · contradiction
      · rename_i room
        rw [if_neg room] at ih ⊢
        split at finished
        · contradiction
        · rename_i last hlast
          simp only [hlast] at ih ⊢
          refine sorted_flatMap_completions path ((sorted_callees last).filter _) ?_
          exact fun id mem => ih _ (List.mem_map_of_mem mem)

def maximalPaths (g : CallGraph) (maxLength : Nat) : List Path :=
  (g.entryPoints.ids.map fun id => [id]).flatMap (g.completions maxLength)

theorem sorted_maximalPaths (g : CallGraph) (maxLength : Nat) :
    (g.maximalPaths maxLength).Pairwise (· < ·) :=
  sorted_flatMap_completions [] g.entryPoints.sorted fun _ _ => sorted_completions _ _ _

theorem Closed.mem_maximalPaths_iff (closed : g.Closed) :
    path ∈ g.maximalPaths maxLength ↔ g.IsMaximalPath (max maxLength 1) path := by
  unfold maximalPaths
  rw [List.flatMap_map, List.mem_flatMap]
  constructor
  · rintro ⟨entry, isEntry, mem⟩
    refine closed.isMaximalPath_of_mem_completions ?_ (Nat.le_max_right _ _) mem
    exact ⟨⟨entry, isEntry, rfl⟩, List.isChain_singleton _, by simp⟩
  · intro h
    obtain ⟨entry, isEntry, first⟩ := h.starts
    refine ⟨entry, isEntry, closed.mem_completions_of_prefix h ?_ (by simp)⟩
    obtain ⟨rest, rfl⟩ := List.head?_eq_some_iff.1 first
    exact ⟨rest, rfl⟩

theorem filterMap_ofList?_ids {paths : List Path} (h : ∀ path ∈ paths, path ≠ [] ∧ path.Nodup) :
    (paths.filterMap Chain.ofList?).map (·.ids) = paths := by
  induction paths with
  | nil => rfl
  | cons path paths ih =>
    rw [List.forall_mem_cons] at h
    have chain : Chain.ofList? path = some ⟨path, h.1.1, h.1.2⟩ :=
      Chain.ofList?_eq_some_iff.2 rfl
    rw [List.filterMap_cons_some chain, List.map_cons, ih h.2]

theorem enumerate_eq (g : CallGraph) (maxLength limit : Nat) : g.enumerate maxLength limit
    = ((g.maximalPaths maxLength).take (max limit 1)).filterMap Chain.ofList? := by
  have search := finishedPaths_eq g maxLength limit [] (g.entryPoints.ids.map fun id => [id])
    (Nat.lt_of_lt_of_le Nat.zero_lt_one (Nat.le_max_right _ _))
  rw [List.reverse_nil, List.nil_append] at search
  simp only [enumerate, search, maximalPaths]

theorem Closed.enumerate_ids (closed : g.Closed) (maxLength limit : Nat) :
    (g.enumerate maxLength limit).map (·.ids) = (g.maximalPaths maxLength).take (max limit 1) := by
  rw [enumerate_eq]
  refine filterMap_ofList?_ids fun path mem => ?_
  have maximal := closed.mem_maximalPaths_iff.1 (List.mem_of_mem_take mem)
  exact ⟨maximal.ne_nil, maximal.simple⟩

theorem Closed.isMaximalPath_of_mem_enumerate (closed : g.Closed) {limit : Nat} {chain : Chain}
    (h : chain ∈ g.enumerate maxLength limit) : g.IsMaximalPath (max maxLength 1) chain.ids := by
  have mem := List.mem_map_of_mem (f := Chain.ids) h
  rw [closed.enumerate_ids] at mem
  exact closed.mem_maximalPaths_iff.1 (List.mem_of_mem_take mem)

theorem nodup_enumerate (g : CallGraph) (maxLength limit : Nat) :
    (g.enumerate maxLength limit).Nodup := by
  have sorted := (sorted_maximalPaths g maxLength).sublist (List.take_sublist (max limit 1) _)
  rw [enumerate_eq]
  refine List.Pairwise.filterMap Chain.ofList? ?_ sorted
  intro path other less chain hpath twin hother eq
  subst eq
  rw [← Chain.ofList?_eq_some_iff.1 hpath, ← Chain.ofList?_eq_some_iff.1 hother] at less
  exact List.lt_irrefl _ less

/-- The enumeration gives the first maximal paths in lexicographic order, and all of them when the
    limit allows it. -/
theorem enumerate_eq_take (built : g.Built) (maxLength limit : Nat) :
    ∃ paths : List Path, paths.Pairwise (· < ·) ∧
      (∀ path, path ∈ paths ↔ g.IsMaximalPath (max maxLength 1) path) ∧
      (g.enumerate maxLength limit).map (·.ids) = paths.take (max limit 1) :=
  ⟨g.maximalPaths maxLength, sorted_maximalPaths g maxLength,
    fun _ => built.closed.mem_maximalPaths_iff, built.closed.enumerate_ids maxLength limit⟩

/-- Three functions that call each other, and one of them itself, in circles. -/
def circularDraft : Draft where
  nodes := ["main", "parse", "emit"].map fun id => { id, name := id, kind := .function }
  edges := [⟨"main", "parse", 1⟩, ⟨"main", "emit", 1⟩, ⟨"parse", "parse", 2⟩, ⟨"parse", "emit", 1⟩,
    ⟨"emit", "main", 1⟩]
  entryPoints := ["main", "emit"]
  lenient := true

def circularGraph : CallGraph :=
  circularDraft.build.toOption.getD ⟨[], [], ∅⟩

theorem circularGraph_built : circularGraph.Built :=
  ⟨circularDraft, rfl⟩

/-- The limit cuts off the last of the three maximal paths. -/
theorem enumerate_eq_take_circular : circularGraph.Built ∧
    ∃ paths : List Path, paths.Pairwise (· < ·) ∧
      (∀ path, path ∈ paths ↔ circularGraph.IsMaximalPath 5 path) ∧
      [["emit", "main", "parse"], ["main", "emit"]] = paths.take 2 := by
  obtain ⟨paths, sorted, mem, enumerated⟩ := enumerate_eq_take circularGraph_built 5 2
  refine ⟨circularGraph_built, paths, sorted, mem, Eq.trans ?_ enumerated⟩
  decide +kernel

end CodeReading.CallGraph
