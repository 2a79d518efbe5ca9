import CodeReading.Proofs.Graph.Depth
import CodeReading.Proofs.Graph.Search
import Mathlib.Data.List.TakeWhile
import Mathlib.Order.Bounds.Basic

set_option autoImplicit false

/-!
# What a depth measures

The depth of a node is one less than the greatest number of nodes in distinct components that call
each other in a row, from its own component on. A path that goes through no node twice leaves a
component for good, so it is no longer than the depth; and where no nodes call each other in
circles, components are single nodes and the depth is the length of a longest path.
-/
namespace CodeReading.CallGraph

variable {g : CallGraph} {id other callee : NodeId} {members : List NodeId}
  {components : List (List NodeId)} {path : List NodeId}

/-- Distinct components, each with an edge to the next. -/
structure IsComponentPath (g : CallGraph) (components : List (List NodeId)) : Prop where
  component : ∀ members ∈ components, g.IsComponent members
  apart : components.Pairwise fun members others => ∀ id ∈ members, id ∉ others
  linked : components.IsChain fun members others =>
    ∃ id ∈ members, ∃ callee ∈ others, g.HasEdge id callee

/-- Nodes, none twice, each with an edge to the next. -/
structure IsSimplePath (g : CallGraph) (path : List NodeId) : Prop where
  linked : path.IsChain g.HasEdge
  distinct : path.Nodup

theorem IsComponentPath.tail (linked : g.IsComponentPath (members :: components)) :
    g.IsComponentPath components where
  component := fun others mem => linked.component others (List.mem_cons_of_mem _ mem)
  apart := (List.pairwise_cons.1 linked.apart).2
  linked := linked.linked.tail

theorem foldl_max_mem_cons (ns : List Nat) (start : Nat) : ns.foldl max start ∈ start :: ns := by
  induction ns generalizing start with
  | nil => exact List.mem_cons_self
  | cons n ns ih =>
    rw [List.foldl_cons]
    rcases List.mem_cons.1 (ih (max start n)) with first | later
    · rw [first]
      rcases Nat.le_total start n with le | le
      · rw [Nat.max_eq_right le]
        exact List.mem_cons_of_mem start List.mem_cons_self
      · rw [Nat.max_eq_left le]
        exact List.mem_cons_self
    · exact List.mem_cons_of_mem start (List.mem_cons_of_mem n later)

theorem foldl_max_mem {ns : List Nat} (nonempty : ns ≠ []) : ns.foldl max 0 ∈ ns := by
  cases ns with
  | nil => contradiction
  | cons n ns =>
    rw [List.foldl_cons, Nat.zero_max]
    exact foldl_max_mem_cons ns n

theorem mem_callsOut_of_edge (mem : id ∈ members) (edge : g.HasEdge id callee)
    (out : callee ∉ members) : callee ∈ g.callsOut members :=
  mem_callsOut_iff.2 ⟨⟨id, mem, hasEdge_iff.1 edge⟩, out⟩

/-- A component is deeper than each node that it calls, by all of its nodes. -/
theorem Built.callDepth_ge (built : g.Built) (component : g.IsComponent members)
    (mem : id ∈ members) (out : callee ∈ g.callsOut members) :
    members.length + g.callDepth callee ≤ g.callDepth id := by
  have rule := isDepth_callDepth built.bounded built.closed.nodup_ids members component id mem
  have below : g.callDepth callee + 1
      ≤ ((g.callsOut members).map fun callee => g.callDepth callee + 1).foldl max 0 :=
    le_foldl_max (List.mem_map_of_mem (f := fun callee => g.callDepth callee + 1) out) 0
  have some := List.length_pos_of_mem mem
  rw [rule, depthFrom]
  omega

theorem Built.callDepth_cases (built : g.Built) (component : g.IsComponent members)
    (mem : id ∈ members) : g.callDepth id + 1 = members.length ∨
      ∃ callee ∈ g.callsOut members, g.callDepth id = members.length + g.callDepth callee := by
  have rule := isDepth_callDepth built.bounded built.closed.nodup_ids members component id mem
  have some := List.length_pos_of_mem mem
  rw [depthFrom] at rule
  by_cases none : g.callsOut members = []
  · left
    rw [none, List.map_nil, List.foldl_nil] at rule
    omega
  · have called : (g.callsOut members).map (fun callee => g.callDepth callee + 1) ≠ [] :=
      mt List.map_eq_nil_iff.1 none
    obtain ⟨callee, out, eq⟩ := List.mem_map.1 (foldl_max_mem called)
    refine Or.inr ⟨callee, out, ?_⟩
    omega

theorem Built.length_le_callDepth (built : g.Built) (component : g.IsComponent members)
    (mem : id ∈ members) : members.length ≤ g.callDepth id + 1 := by
  rcases built.callDepth_cases component mem with alone | ⟨callee, -, below⟩ <;> omega

theorem Built.callDepth_eq_of_mutual (built : g.Built) (known : id ∈ g.ids)
    (both : g.Mutual id other) : g.callDepth id = g.callDepth other := by
  obtain ⟨component, self⟩ := isComponent_component built.bounded known
  have otherMem := (component.mem_iff id self other).2 both
  have rule := isDepth_callDepth built.bounded built.closed.nodup_ids _ component
  rw [rule id self, rule other otherMem]

theorem IsComponentPath.reaches (linked : g.IsComponentPath (members :: components))
    (mem : id ∈ members) : ∀ others ∈ members :: components, ∀ other ∈ others,
      g.Reaches id other := by
  induction components generalizing members id with
  | nil =>
    intro others othersMem other otherMem
    rw [List.mem_singleton.1 othersMem] at otherMem
    have component := linked.component members List.mem_cons_self
    exact ((component.mem_iff id mem other).1 otherMem).1
  | cons next components ih =>
    have component := linked.component members List.mem_cons_self
    obtain ⟨caller, callerMem, callee, calleeMem, edge⟩ :=
      (List.isChain_cons_cons.1 linked.linked).1
    intro others othersMem other otherMem
    rcases List.mem_cons.1 othersMem with rfl | othersMem
    · exact ((component.mem_iff id mem other).1 otherMem).1
    · have there : g.Reaches id callee :=
        ((component.mem_iff id mem caller).1 callerMem).1.tail (hasEdge_iff.1 edge)
      exact there.trans (ih linked.tail calleeMem others othersMem other otherMem)

theorem Built.length_componentPath_le (built : g.Built)
    (linked : g.IsComponentPath (members :: components)) (mem : id ∈ members) :
    (members :: components).flatten.length ≤ g.callDepth id + 1 := by
  induction components generalizing members id with
  | nil =>
    have component := linked.component members List.mem_cons_self
    rw [List.flatten_cons, List.flatten_nil, List.append_nil]
    exact built.length_le_callDepth component mem
  | cons next components ih =>
    have component := linked.component members List.mem_cons_self
    obtain ⟨caller, callerMem, callee, calleeMem, edge⟩ :=
      (List.isChain_cons_cons.1 linked.linked).1
    have out : callee ∉ members := fun inside =>
      (List.pairwise_cons.1 linked.apart).1 next List.mem_cons_self callee inside calleeMem
    have below := built.callDepth_ge component mem (mem_callsOut_of_edge callerMem edge out)
    have rest := ih linked.tail calleeMem
    rw [List.flatten_cons, List.length_append]
    omega

theorem isComponentPath_cons (component : g.IsComponent members)
    {next : List NodeId} (linked : g.IsComponentPath (next :: components))
    (out : callee ∈ g.callsOut members) (calleeMem : callee ∈ next) :
    g.IsComponentPath (members :: next :: components) := by
  obtain ⟨⟨caller, callerMem, step⟩, outside⟩ := mem_callsOut_iff.1 out
  refine ⟨List.forall_mem_cons.2 ⟨component, linked.component⟩,
    List.pairwise_cons.2 ⟨?_, linked.apart⟩,
    List.isChain_cons_cons.2 ⟨⟨caller, callerMem, callee, calleeMem, hasEdge_iff.2 step⟩,
      linked.linked⟩⟩
  -- A common node would lead back from the callee, which would then be a member.
  intro others othersMem id mem otherMem
  have back : g.Reaches callee id := linked.reaches calleeMem others othersMem id otherMem
  have there : g.Reaches id callee := ((component.mem_iff id mem caller).1 callerMem).1.tail step
  exact outside ((component.mem_iff id mem callee).2 ⟨there, back⟩)

theorem Built.exists_componentPath (built : g.Built) (known : id ∈ g.ids) :
    ∃ members components, g.IsComponentPath (members :: components) ∧ id ∈ members ∧
      (members :: components).flatten.length = g.callDepth id + 1 := by
  -- Induction on how many nodes are reached: callees outside of the component reach fewer.
  induction size : (g.reachable [id]).length using Nat.strongRecOn generalizing id with
  | ind n ih =>
    obtain ⟨component, self⟩ := isComponent_component built.bounded known
    rcases built.callDepth_cases component self with alone | ⟨callee, out, depth⟩
    · refine ⟨_, [], ⟨?_, List.pairwise_singleton _ _, List.isChain_singleton _⟩, self, ?_⟩
      · intro members mem
        rwa [List.mem_singleton.1 mem]
      · simpa using alone.symm
    · have less := length_reachable_lt built.bounded component self out
      obtain ⟨next, components, linked, calleeMem, total⟩ :=
        ih _ (size ▸ less) (built.bounded.mem_ids_of_mem_callsOut out) rfl
      refine ⟨_, next :: components, isComponentPath_cons component linked out calleeMem,
        self, ?_⟩
      rw [List.flatten_cons, List.length_append, total, depth]
      omega

theorem IsSimplePath.suffix {front back : List NodeId} (simple : g.IsSimplePath (front ++ back)) :
    g.IsSimplePath back :=
  ⟨(List.isChain_append.1 simple.linked).2.1, (List.nodup_append.1 simple.distinct).2.1⟩

/-- A path from a component stays inside for a while and then leaves it by a call. -/
theorem IsSimplePath.exists_leaving (simple : g.IsSimplePath (id :: path)) (self : id ∈ members) :
    ∃ inside outside, id :: inside ++ outside = id :: path ∧ id :: inside ⊆ members ∧
      ∀ next ∈ outside.head?, next ∈ g.callsOut members := by
  have split : (id :: path.takeWhile (· ∈ members)) ++ path.dropWhile (· ∈ members)
      = id :: path := by
    rw [List.cons_append, List.takeWhile_append_dropWhile]
  have within : id :: path.takeWhile (· ∈ members) ⊆ members :=
    List.cons_subset.2 ⟨self, fun other mem => by simpa using List.mem_takeWhile_imp mem⟩
  refine ⟨_, _, split, within, fun next first => ?_⟩
  have edge :
      g.HasEdge ((id :: path.takeWhile (· ∈ members)).getLast (List.cons_ne_nil _ _)) next :=
    (List.isChain_append.1 (split ▸ simple.linked)).2.2 _ (List.getLast?_eq_some_getLast _) _ first
  have outside : next ∉ members := by
    have head := List.head?_dropWhile_not (· ∈ members) path
    rw [first] at head
    simpa using head
  exact mem_callsOut_of_edge (within (List.getLast_mem _)) edge outside

/-- A simple path goes through the nodes of its first component in one go, and what is left of it
    begins one call below. -/
theorem Built.length_simplePath_le (built : g.Built) (known : id ∈ g.ids)
    (simple : g.IsSimplePath (id :: path)) : (id :: path).length ≤ g.callDepth id + 1 := by
  induction size : path.length using Nat.strongRecOn generalizing id path with
  | ind n ih =>
    obtain ⟨component, self⟩ := isComponent_component built.bounded known
    obtain ⟨inside, outside, split, within, leaves⟩ := simple.exists_leaving self
    rw [← split] at simple
    have few := (List.subperm_of_subset (List.nodup_append.1 simple.distinct).1 within).length_le
    cases outside with
    | nil =>
      have fits := built.length_le_callDepth component self
      rw [← split, List.append_nil]
      omega
    | cons next rest =>
      have out := leaves next rfl
      have below := built.callDepth_ge component self out
      have lengths := congrArg List.length split
      simp only [List.length_append, List.length_cons] at lengths few
      have onward := ih rest.length (by omega) (built.bounded.mem_ids_of_mem_callsOut out)
        simple.suffix rfl
      simp only [List.length_cons] at onward ⊢
      omega

/-- Whether no nodes that can be reached from a node call each other in circles, other than
    themselves. -/
def IsAcyclicFrom (g : CallGraph) (id : NodeId) : Prop :=
  ∀ a b, g.Reaches id a → g.Mutual a b → a = b

theorem IsComponentPath.isSimplePath (linked : g.IsComponentPath (path.map fun id => [id])) :
    g.IsSimplePath path where
  linked := by
    have edges := (List.isChain_map _).1 linked.linked
    simpa using edges
  distinct := by
    have apart := List.pairwise_map.1 linked.apart
    exact apart.imp fun {a b} disjoint same => disjoint a (by simp) (by simp [same])

theorem exists_eq_map_singleton {rows : List (List NodeId)}
    (single : ∀ row ∈ rows, ∃ id, row = [id]) :
    ∃ ids : List NodeId, rows = ids.map fun id => [id] := by
  induction rows with
  | nil => exact ⟨[], rfl⟩
  | cons row rows ih =>
    rw [List.forall_mem_cons] at single
    obtain ⟨id, rfl⟩ := single.1
    obtain ⟨ids, rfl⟩ := ih single.2
    exact ⟨id :: ids, rfl⟩

theorem IsComponentPath.exists_singletons (linked : g.IsComponentPath (members :: components))
    (mem : id ∈ members) (acyclic : g.IsAcyclicFrom id) :
    ∃ path, members :: components = (id :: path).map fun id => [id] := by
  have single : ∀ row ∈ members :: components, ∃ only, row = [only] := by
    intro row rowMem
    have component := linked.component row rowMem
    obtain ⟨first, rest, rfl⟩ := List.exists_cons_of_ne_nil component.nonempty
    have alone : ∀ second ∈ rest, first = second := by
      intro second later
      refine acyclic first second (linked.reaches mem _ rowMem first List.mem_cons_self) ?_
      exact (component.mem_iff first List.mem_cons_self second).1 (List.mem_cons_of_mem _ later)
    have apart := (List.nodup_cons.1 component.nodup).1
    have none : rest = [] :=
      List.eq_nil_iff_forall_not_mem.2 fun second later => apart (alone second later ▸ later)
    exact ⟨first, by rw [none]⟩
  obtain ⟨ids, eq⟩ := exists_eq_map_singleton single
  cases ids with
  | nil => cases eq
  | cons first path =>
    rw [List.map_cons, List.cons.injEq] at eq
    rw [eq.1, List.mem_singleton] at mem
    exact ⟨path, by rw [eq.1, eq.2, mem]; rfl⟩

theorem Built.exists_simplePath (built : g.Built) (known : id ∈ g.ids)
    (acyclic : g.IsAcyclicFrom id) :
    ∃ path, g.IsSimplePath (id :: path) ∧ path.length = g.callDepth id := by
  obtain ⟨members, components, linked, mem, total⟩ := built.exists_componentPath known
  obtain ⟨path, eq⟩ := linked.exists_singletons mem acyclic
  rw [eq] at linked total
  refine ⟨path, linked.isSimplePath, ?_⟩
  rw [← List.flatMap_def, List.flatMap_singleton', List.length_cons] at total
  exact Nat.succ_inj.1 total

/-- Whether depths measure the components below each node: one less than the greatest number of
    nodes in a row of distinct components, and so the same for nodes that reach each other, at
    least the length of any simple path, and the greatest such length where there are no circles.
    The depth of a graph is the greatest depth of an entry point, zero if there is none. -/
structure IsMeasuredBy (g : CallGraph) (depth : NodeId → Nat) : Prop where
  components : ∀ id ∈ g.ids, IsGreatest
    {count | ∃ members others, g.IsComponentPath (members :: others) ∧ id ∈ members ∧
      (members :: others).flatten.length = count} (depth id + 1)
  agree : ∀ id ∈ g.ids, ∀ other, g.Mutual id other → depth id = depth other
  paths : ∀ id ∈ g.ids, ∀ path, g.IsSimplePath (id :: path) → path.length ≤ depth id
  longest : ∀ id ∈ g.ids, g.IsAcyclicFrom id →
    IsGreatest {length | ∃ path, g.IsSimplePath (id :: path) ∧ path.length = length} (depth id)
  entries : (g.entryPoints.ids = [] ∧ g.stats.maxDepth = 0) ∨
    IsGreatest {n | ∃ id ∈ g.entryPoints.ids, depth id = n} g.stats.maxDepth

theorem stats_maxDepth (g : CallGraph) :
    (g.entryPoints.ids = [] ∧ g.stats.maxDepth = 0) ∨
      IsGreatest {n | ∃ id ∈ g.entryPoints.ids, g.callDepth id = n} g.stats.maxDepth := by
  have eq : g.stats.maxDepth = (g.entryPoints.ids.map g.callDepth).foldl max 0 := rfl
  by_cases none : g.entryPoints.ids = []
  · exact Or.inl ⟨none, by rw [eq, none]; rfl⟩
  · right
    rw [eq]
    refine ⟨List.mem_map.1 (foldl_max_mem (mt List.map_eq_nil_iff.1 none)), ?_⟩
    rintro n ⟨id, mem, rfl⟩
    exact le_foldl_max (List.mem_map_of_mem mem) 0

theorem Built.isMeasuredBy_callDepth (built : g.Built) : g.IsMeasuredBy g.callDepth where
  components id known := by
    refine ⟨?_, ?_⟩
    · exact built.exists_componentPath known
    · rintro count ⟨members, others, linked, mem, rfl⟩
      exact built.length_componentPath_le linked mem
  agree id known other both := built.callDepth_eq_of_mutual known both
  paths id known path simple := Nat.le_of_succ_le_succ (built.length_simplePath_le known simple)
  longest id known acyclic := by
    refine ⟨?_, ?_⟩
    · exact built.exists_simplePath known acyclic
    · rintro length ⟨path, simple, rfl⟩
      exact Nat.le_of_succ_le_succ (built.length_simplePath_le known simple)
  entries := g.stats_maxDepth

/-- The depths of a built graph measure its components, also when they are computed along another
    order of the components in which each comes after those that it has edges to. -/
theorem depths_measure (built : g.Built) : g.IsMeasuredBy g.callDepth ∧
    ∀ components, g.IsComponentOrder components →
      g.IsMeasuredBy (depthOf (g.depthsAlong components)) := by
  refine ⟨built.isMeasuredBy_callDepth, fun components order => ?_⟩
  have same : depthOf (g.depthsAlong components) = g.callDepth :=
    funext fun id => order.depthOf_depthsAlong built.bounded built.closed.nodup_ids id
  rw [same]
  exact built.isMeasuredBy_callDepth

/-- A function that calls two others, which call each other and a function that calls itself. -/
def nestedDraft : Draft where
  nodes := ["main", "parse", "expr", "leaf"].map fun id => { id, name := id, kind := .function }
  edges := [⟨"main", "parse", 1⟩, ⟨"parse", "expr", 1⟩, ⟨"expr", "parse", 2⟩, ⟨"expr", "leaf", 1⟩,
    ⟨"leaf", "leaf", 1⟩]
  entryPoints := ["main"]
  lenient := true

def nestedGraph : CallGraph :=
  nestedDraft.build.toOption.getD ⟨[], [], ∅⟩

theorem nestedGraph_built : nestedGraph.Built :=
  ⟨nestedDraft, rfl⟩

theorem nestedGraph_order :
    nestedGraph.IsComponentOrder [["leaf"], ["parse", "expr"], ["main"]] where
  component := by
    have leaf : nestedGraph.reachable ["leaf"] = ["leaf"] :=
      reachable_of_rounds (show nestedGraph.advance^[2] _ = _ by decide +kernel)
    have parse : nestedGraph.reachable ["parse"] = ["leaf", "expr", "parse"] :=
      reachable_of_rounds (show nestedGraph.advance^[5] _ = _ by decide +kernel)
    have expr : nestedGraph.reachable ["expr"] = ["leaf", "parse", "expr"] :=
      reachable_of_rounds (show nestedGraph.advance^[5] _ = _ by decide +kernel)
    have main : nestedGraph.reachable ["main"] = ["leaf", "expr", "parse", "main"] :=
      reachable_of_rounds (show nestedGraph.advance^[6] _ = _ by decide +kernel)
    have component : ∀ id members, id ∈ nestedGraph.ids →
        (nestedGraph.reachable [id]).filter
          (fun other => id ∈ nestedGraph.reachable [other]) = members →
        nestedGraph.IsComponent members :=
      fun id members known eq => eq ▸ (isComponent_component nestedGraph_built.bounded known).1
    simp only [List.forall_mem_cons]
    refine ⟨component "leaf" _ (by decide +kernel) ?_, component "expr" _ (by decide +kernel) ?_,
      component "main" _ (by decide +kernel) ?_, List.forall_mem_nil _⟩
    · simp [leaf]
    · simp [leaf, parse, expr]
    · simp [leaf, parse, expr, main]
  covers := by decide +kernel
  apart := by decide +kernel
  calleesFirst := by decide +kernel

theorem depths_measure_nested : nestedGraph.Built ∧
    nestedGraph.IsComponentOrder [["leaf"], ["parse", "expr"], ["main"]] ∧
    nestedGraph.callDepth "main" = 3 ∧ nestedGraph.IsMeasuredBy nestedGraph.callDepth ∧
    nestedGraph.IsMeasuredBy
      (depthOf (nestedGraph.depthsAlong [["leaf"], ["parse", "expr"], ["main"]])) := by
  obtain ⟨measured, along⟩ := depths_measure nestedGraph_built
  have depth : nestedGraph.callDepth "main" = 3 := by
    rw [← nestedGraph_order.depthOf_depthsAlong nestedGraph_built.bounded
      nestedGraph_built.closed.nodup_ids]
    decide +kernel
  exact ⟨nestedGraph_built, nestedGraph_order, depth, measured, along _ nestedGraph_order⟩

end CodeReading.CallGraph
