import CodeReading.Proofs.Graph.Reachability
import CodeReading.Proofs.Sorting
import Mathlib.Data.List.Perm.Subperm

set_option autoImplicit false

/-!
# Depths of components

The nodes of a component all have the depth that one rule gives it: its own calls, one fewer than
its nodes, and below them the deepest node that it calls, one call further. A node reaches more than
the callees outside its component, so there is only one way to obey the rule. Every order of the
components in which callees come first leads there, and so does the order by the number of nodes
reached.
-/
namespace CodeReading.CallGraph

variable {g h : CallGraph} {id other callee : NodeId} {members others : List NodeId}
  {depth deep : NodeId → Nat}

theorem foldl_max_le {ns : List Nat} {start bound : Nat} (least : start ≤ bound)
    (all : ∀ n ∈ ns, n ≤ bound) : ns.foldl max start ≤ bound := by
  induction ns generalizing start with
  | nil => exact least
  | cons n ns ih =>
    rw [List.forall_mem_cons] at all
    exact ih (Nat.max_le.2 ⟨least, all.1⟩) all.2

theorem start_le_foldl_max (ns : List Nat) (start : Nat) : start ≤ ns.foldl max start := by
  induction ns generalizing start with
  | nil => exact Nat.le_refl start
  | cons n ns ih => exact Nat.le_trans (Nat.le_max_left start n) (ih (max start n))

theorem le_foldl_max {ns : List Nat} {n : Nat} (mem : n ∈ ns) (start : Nat) :
    n ≤ ns.foldl max start := by
  induction ns generalizing start with
  | nil => cases mem
  | cons first ns ih =>
    rcases List.mem_cons.1 mem with rfl | mem
    · exact Nat.le_trans (Nat.le_max_right start n) (start_le_foldl_max ns _)
    · exact ih mem _

theorem foldl_max_congr {ms ns : List Nat} (same : ∀ n, n ∈ ms ↔ n ∈ ns) :
    ms.foldl max 0 = ns.foldl max 0 := by
  apply Nat.le_antisymm
  · exact foldl_max_le (Nat.zero_le _) fun n mem => le_foldl_max ((same n).1 mem) 0
  · exact foldl_max_le (Nat.zero_le _) fun n mem => le_foldl_max ((same n).2 mem) 0

def Mutual (g : CallGraph) (a b : NodeId) : Prop :=
  g.Reaches a b ∧ g.Reaches b a

/-- The nodes of a strongly connected component, each once. -/
structure IsComponent (g : CallGraph) (members : List NodeId) : Prop where
  nonempty : members ≠ []
  nodup : members.Nodup
  known : ∀ id ∈ members, id ∈ g.ids
  mem_iff : ∀ id ∈ members, ∀ other, other ∈ members ↔ g.Mutual id other

/-- The nodes outside of a component that it calls. -/
def callsOut (g : CallGraph) (members : List NodeId) : List NodeId :=
  (members.flatMap g.successors).filter fun callee => callee ∉ members

theorem mem_callsOut_iff : callee ∈ g.callsOut members ↔
    (∃ id ∈ members, callee ∈ g.successors id) ∧ callee ∉ members := by
  simp [callsOut]

theorem Bounded.mem_ids_of_mem_callsOut (bounded : g.Bounded) (mem : callee ∈ g.callsOut members) :
    callee ∈ g.ids := by
  obtain ⟨⟨id, -, step⟩, -⟩ := mem_callsOut_iff.1 mem
  exact bounded id callee step

theorem IsComponent.perm (component : g.IsComponent members) (another : g.IsComponent others)
    (mem : id ∈ members) (otherMem : id ∈ others) : members.Perm others := by
  refine (List.perm_ext_iff_of_nodup component.nodup another.nodup).2 fun node => ?_
  rw [component.mem_iff id mem node, another.mem_iff id otherMem node]

theorem isComponent_component (bounded : g.Bounded) (known : id ∈ g.ids) :
    g.IsComponent ((g.reachable [id]).filter fun other => id ∈ g.reachable [other]) ∧
      id ∈ (g.reachable [id]).filter fun other => id ∈ g.reachable [other] := by
  have mem_iff : ∀ other,
      other ∈ (g.reachable [id]).filter (fun other => id ∈ g.reachable [other]) ↔
        g.Mutual id other := by
    intro other
    simp only [List.mem_filter, decide_eq_true_eq, bounded.mem_reachable_singleton_iff, known,
      true_and, Mutual]
    exact and_congr_right fun there => and_iff_right (bounded.reaches_known known there)
  have self := (mem_iff id).2 ⟨.refl, .refl⟩
  refine ⟨⟨List.ne_nil_of_mem self, (g.nodup_reachable [id]).filter _, ?_, ?_⟩, self⟩
  · intro other mem
    exact bounded.reaches_known known ((mem_iff other).1 mem).1
  · intro other mem third
    obtain ⟨there, back⟩ := (mem_iff other).1 mem
    rw [mem_iff third]
    exact ⟨fun ⟨on, off⟩ => ⟨back.trans on, off.trans there⟩,
      fun ⟨on, off⟩ => ⟨there.trans on, off.trans back⟩⟩

theorem length_reachable_lt (bounded : g.Bounded) (component : g.IsComponent members)
    (mem : id ∈ members) (out : callee ∈ g.callsOut members) :
    (g.reachable [callee]).length < (g.reachable [id]).length := by
  obtain ⟨⟨caller, callerMem, step⟩, apart⟩ := mem_callsOut_iff.1 out
  have known := component.known id mem
  have there : g.Reaches id callee :=
    ((component.mem_iff id mem caller).1 callerMem).1.tail step
  have noReturn : id ∉ g.reachable [callee] := by
    intro back
    exact apart ((component.mem_iff id mem callee).2
      ⟨there, (bounded.mem_reachable_singleton_iff.1 back).2⟩)
  have below : id :: g.reachable [callee] ⊆ g.reachable [id] := by
    intro node nodeMem
    rcases List.mem_cons.1 nodeMem with rfl | nodeMem
    · exact bounded.mem_reachable_singleton_iff.2 ⟨known, .refl⟩
    · have path := (bounded.mem_reachable_singleton_iff.1 nodeMem).2
      exact bounded.mem_reachable_singleton_iff.2 ⟨known, there.trans path⟩
  have distinct := List.nodup_cons.2 ⟨noReturn, g.nodup_reachable [callee]⟩
  exact (List.subperm_of_subset distinct below).length_le

/-- Depth of a component, from the depths of the nodes that it calls. -/
def depthFrom (g : CallGraph) (depth : NodeId → Nat) (members : List NodeId) : Nat :=
  members.length - 1 + ((g.callsOut members).map fun callee => depth callee + 1).foldl max 0

def IsDepth (g : CallGraph) (depth : NodeId → Nat) : Prop :=
  ∀ members, g.IsComponent members → ∀ id ∈ members, depth id = g.depthFrom depth members

/-- The rule looks at which nodes there are and whom they call, not at any order. -/
theorem depthFrom_congr (steps : ∀ a b, b ∈ g.successors a ↔ b ∈ h.successors a)
    (perm : members.Perm others)
    (same : ∀ callee ∈ g.callsOut members, depth callee = deep callee) :
    g.depthFrom depth members = h.depthFrom deep others := by
  have out : ∀ callee, callee ∈ g.callsOut members ↔ callee ∈ h.callsOut others := by
    intro callee
    simp only [mem_callsOut_iff, perm.mem_iff, steps]
  unfold depthFrom
  rw [perm.length_eq, List.map_congr_left fun callee mem => congrArg (· + 1) (same callee mem)]
  congr 1
  refine foldl_max_congr fun n => ?_
  simp only [List.mem_map, out]

theorem IsDepth.eq (bounded : g.Bounded) (first : g.IsDepth depth) (second : g.IsDepth deep)
    (known : id ∈ g.ids) : depth id = deep id := by
  -- Induction on how many nodes are reached: callees outside of the component reach fewer.
  induction size : (g.reachable [id]).length using Nat.strongRecOn generalizing id with
  | ind n ih =>
    obtain ⟨component, self⟩ := isComponent_component bounded known
    rw [first _ component id self, second _ component id self]
    refine depthFrom_congr (fun _ _ => Iff.rfl) (.refl _) fun callee out => ?_
    have less := length_reachable_lt bounded component self out
    exact ih _ (size ▸ less) (bounded.mem_ids_of_mem_callsOut out) rfl

theorem IsDepth.congr (ids : g.ids = h.ids)
    (steps : ∀ a b, b ∈ g.successors a ↔ b ∈ h.successors a) (rule : g.IsDepth depth) :
    h.IsDepth depth := by
  intro members component id mem
  have same : g.IsComponent members := by
    refine ⟨component.nonempty, component.nodup, ids ▸ component.known, ?_⟩
    unfold Mutual
    rw [reaches_congr steps]
    exact component.mem_iff
  rw [rule members same id mem]
  exact depthFrom_congr steps (.refl _) fun _ _ => rfl

theorem lookup_map_pair {α : Type} (f : NodeId → α) (ids : List NodeId) (id : NodeId) :
    (ids.map fun id => (id, f id)).lookup id = if id ∈ ids then some (f id) else none := by
  induction ids with
  | nil => rfl
  | cons first ids ih =>
    rw [List.map_cons, List.lookup_cons]
    by_cases same : id = first
    · simp [same]
    · rw [beq_false_of_ne same]
      simpa [same] using ih

section
variable {Step : Type} {keys comp : Step → List NodeId} {steps before after : List Step}
  {step : Step} {depths : List (NodeId × Nat)}

/-- Depths with those of one more step, which settles its keys as members of a component. -/
def settle (g : CallGraph) (keys comp : Step → List NodeId) (depths : List (NodeId × Nat))
    (step : Step) : List (NodeId × Nat) :=
  ((keys step).map fun id => (id, g.depthFrom (depthOf depths) (comp step))) ++ depths

theorem depthOf_append (ids : List NodeId) (n : Nat) (depths : List (NodeId × Nat)) (id : NodeId) :
    depthOf ((ids.map fun id => (id, n)) ++ depths) id
      = if id ∈ ids then n else depthOf depths id := by
  unfold depthOf
  rw [List.lookup_append, lookup_map_pair fun _ => n]
  split <;> rfl

theorem depthOf_foldl_settle (apart : ∀ step ∈ steps, id ∉ keys step) :
    depthOf (steps.foldl (g.settle keys comp) depths) id = depthOf depths id := by
  induction steps generalizing depths with
  | nil => rfl
  | cons step steps ih =>
    rw [List.forall_mem_cons] at apart
    rw [List.foldl_cons, ih apart.2, settle, depthOf_append, if_neg apart.1]

/-- Steps that settle every node once, callees outside the component of a node before it. -/
structure IsSchedule (g : CallGraph) (keys comp : Step → List NodeId) (steps : List Step) :
    Prop where
  component : ∀ step ∈ steps, g.IsComponent (comp step)
  keys_subset : ∀ step ∈ steps, keys step ⊆ comp step
  covers : ∀ id ∈ g.ids, ∃ step ∈ steps, id ∈ keys step
  apart : steps.Pairwise fun earlier later => ∀ id ∈ keys earlier, id ∉ keys later
  calleesFirst : ∀ before step after, steps = before ++ step :: after →
    ∀ callee ∈ g.callsOut (comp step), ∃ earlier ∈ before, callee ∈ keys earlier

theorem IsSchedule.depthOf_eq (schedule : g.IsSchedule keys comp steps)
    (split : steps = before ++ step :: after) (mem : id ∈ keys step) :
    depthOf (steps.foldl (g.settle keys comp) []) id
      = g.depthFrom (depthOf (before.foldl (g.settle keys comp) [])) (comp step) := by
  have apart := schedule.apart
  rw [split, List.pairwise_append, List.pairwise_cons] at apart
  rw [split, List.foldl_append, List.foldl_cons,
    depthOf_foldl_settle fun later laterMem => apart.2.1.1 later laterMem id mem, settle,
    depthOf_append, if_pos mem]

theorem IsSchedule.depthOf_before (schedule : g.IsSchedule keys comp steps)
    (split : steps = before ++ after) {earlier : Step} (earlierMem : earlier ∈ before)
    (mem : id ∈ keys earlier) :
    depthOf (before.foldl (g.settle keys comp) []) id
      = depthOf (steps.foldl (g.settle keys comp) []) id := by
  have apart := schedule.apart
  rw [split, List.pairwise_append] at apart
  rw [split, List.foldl_append, depthOf_foldl_settle fun later laterMem =>
    apart.2.2 earlier earlierMem later laterMem id mem]

theorem IsSchedule.isDepth (schedule : g.IsSchedule keys comp steps) :
    g.IsDepth (depthOf (steps.foldl (g.settle keys comp) [])) := by
  intro members component id mem
  obtain ⟨step, stepMem, key⟩ := schedule.covers id (component.known id mem)
  obtain ⟨before, after, split⟩ := List.append_of_mem stepMem
  have perm : (comp step).Perm members :=
    (schedule.component step stepMem).perm component (schedule.keys_subset step stepMem key) mem
  rw [schedule.depthOf_eq split key]
  refine depthFrom_congr (fun _ _ => Iff.rfl) perm fun callee out => ?_
  obtain ⟨earlier, earlierMem, calleeMem⟩ :=
    schedule.calleesFirst before step after split callee out
  exact schedule.depthOf_before split earlierMem calleeMem

end

theorem Bounded.reachOf_reachTable (bounded : g.Bounded) (id : NodeId) :
    reachOf g.reachTable id = g.reachable [id] := by
  unfold reachOf reachTable
  rw [lookup_map_pair]
  split
  · rfl
  · rename_i unknown
    refine (List.eq_nil_iff_forall_not_mem.2 fun other mem => ?_).symm
    exact unknown (bounded.mem_reachable_singleton_iff.1 mem).1

theorem Bounded.component_reachTable (bounded : g.Bounded) (id : NodeId) :
    component g.reachTable id
      = (g.reachable [id]).filter fun other => id ∈ g.reachable [other] := by
  unfold component
  simp only [bounded.reachOf_reachTable]

/-- The order in which depths are computed: nodes that reach fewer nodes first. -/
def byReach (g : CallGraph) : List (NodeId × List NodeId) :=
  g.reachTable.mergeSort fun a b => a.2.length ≤ b.2.length

theorem mem_byReach_iff {entry : NodeId × List NodeId} :
    entry ∈ g.byReach ↔ ∃ id ∈ g.ids, (id, g.reachable [id]) = entry := by
  unfold byReach reachTable
  rw [List.mem_mergeSort, List.mem_map]

theorem sorted_byReach (g : CallGraph) :
    g.byReach.Pairwise fun earlier later => earlier.2.length ≤ later.2.length := by
  unfold byReach
  exact Sorting.pairwise_mergeSort_key (fun entry => entry.2.length) g.reachTable

theorem nodup_map_fst_byReach (ids : g.ids.Nodup) : (g.byReach.map (·.1)).Nodup := by
  have keys : (g.reachTable.map (·.1)) = g.ids := by
    unfold reachTable
    rw [List.map_map]
    exact List.map_id g.ids
  unfold byReach
  rw [((List.mergeSort_perm _ _).map _).nodup_iff, keys]
  exact ids

theorem isSchedule_byReach (bounded : g.Bounded) (ids : g.ids.Nodup) :
    g.IsSchedule (fun entry => [entry.1]) (fun entry => component g.reachTable entry.1)
      g.byReach := by
  have isComponent : ∀ entry ∈ g.byReach, g.IsComponent (component g.reachTable entry.1) ∧
      entry.1 ∈ component g.reachTable entry.1 ∧ entry.2 = g.reachable [entry.1] := by
    intro entry mem
    obtain ⟨id, known, rfl⟩ := mem_byReach_iff.1 mem
    obtain ⟨component, self⟩ := isComponent_component bounded known
    rw [bounded.component_reachTable]
    exact ⟨component, self, rfl⟩
  refine ⟨fun entry mem => (isComponent entry mem).1, ?_, ?_, ?_, ?_⟩
  · intro entry mem id key
    rw [List.mem_singleton.1 key]
    exact (isComponent entry mem).2.1
  · intro id known
    exact ⟨(id, g.reachable [id]), mem_byReach_iff.2 ⟨id, known, rfl⟩, List.mem_singleton_self id⟩
  · refine (List.pairwise_map.1 (nodup_map_fst_byReach ids)).imp fun {earlier later} apart => ?_
    intro id key other
    exact apart ((List.mem_singleton.1 key).symm.trans (List.mem_singleton.1 other))
  · intro before entry after split callee out
    have mem : entry ∈ g.byReach := split ▸ List.mem_append_right _ List.mem_cons_self
    obtain ⟨component, self, reach⟩ := isComponent entry mem
    have less := length_reachable_lt bounded component self out
    have calleeMem := mem_byReach_iff.2 ⟨callee, bounded.mem_ids_of_mem_callsOut out, rfl⟩
    have sorted := g.sorted_byReach
    rw [split] at calleeMem
    rw [split, List.pairwise_append, List.pairwise_cons] at sorted
    rcases List.mem_append.1 calleeMem with earlier | rest
    · exact ⟨_, earlier, List.mem_singleton_self callee⟩
    · rcases List.mem_cons.1 rest with same | later
      · subst same
        exact absurd self (mem_callsOut_iff.1 out).2
      · -- A later entry would reach as many nodes, but the callee reaches fewer.
        have more : entry.2.length ≤ (g.reachable [callee]).length := sorted.2.1.1 _ later
        rw [reach] at more
        omega

theorem callDepth_eq (g : CallGraph) (id : NodeId) : g.callDepth id
    = depthOf (g.byReach.foldl (g.settle (fun entry => [entry.1])
      fun entry => component g.reachTable entry.1) []) id := rfl

theorem isDepth_callDepth (bounded : g.Bounded) (ids : g.ids.Nodup) : g.IsDepth g.callDepth :=
  (isSchedule_byReach bounded ids).isDepth

theorem callDepth_unknown (unknown : id ∉ g.ids) : g.callDepth id = 0 := by
  rw [callDepth_eq, depthOf_foldl_settle]
  · rfl
  · intro entry mem key
    obtain ⟨other, known, rfl⟩ := mem_byReach_iff.1 mem
    exact unknown (List.mem_singleton.1 key ▸ known)

/-- The components of a graph, each after those that it calls. -/
structure IsComponentOrder (g : CallGraph) (components : List (List NodeId)) : Prop where
  component : ∀ members ∈ components, g.IsComponent members
  covers : ∀ id ∈ g.ids, ∃ members ∈ components, id ∈ members
  apart : components.Pairwise fun earlier later => ∀ id ∈ earlier, id ∉ later
  calleesFirst : components.Pairwise fun earlier later =>
    ∀ id ∈ earlier, ∀ callee ∈ g.successors id, callee ∉ later

/-- When every node reaches some hub and is reached from it, there is only one component. -/
theorem isComponentOrder_ids (bounded : g.Bounded) (ids : g.ids.Nodup) {hub : NodeId}
    (known : hub ∈ g.ids) (connected : ∀ id ∈ g.ids, g.Reaches id hub ∧ g.Reaches hub id) :
    g.IsComponentOrder [g.ids] := by
  have component : g.IsComponent g.ids := by
    refine ⟨List.ne_nil_of_mem known, ids, fun _ mem => mem, fun id mem other => ⟨?_, ?_⟩⟩
    · intro otherMem
      obtain ⟨up, down⟩ := connected id mem
      obtain ⟨otherUp, otherDown⟩ := connected other otherMem
      exact ⟨up.trans otherDown, otherUp.trans down⟩
    · rintro ⟨there, -⟩
      exact bounded.reaches_known mem there
  refine ⟨?_, fun id mem => ⟨g.ids, List.mem_singleton_self _, mem⟩, ?_, ?_⟩
  · intro members mem
    rwa [List.mem_singleton.1 mem]
  · exact List.pairwise_singleton _ _
  · exact List.pairwise_singleton _ _

def depthsAlong (g : CallGraph) (components : List (List NodeId)) : List (NodeId × Nat) :=
  components.foldl (fun depths members =>
    (members.map fun id => (id, g.depthFrom (depthOf depths) members)) ++ depths) []

theorem IsComponentOrder.isSchedule {components : List (List NodeId)} (bounded : g.Bounded)
    (order : g.IsComponentOrder components) :
    g.IsSchedule (fun members => members) (fun members => members) components := by
  refine ⟨order.component, fun _ _ => List.Subset.refl _, order.covers, order.apart, ?_⟩
  intro before members after split callee out
  obtain ⟨⟨id, mem, step⟩, outside⟩ := mem_callsOut_iff.1 out
  obtain ⟨others, othersMem, calleeMem⟩ := order.covers callee (bounded.mem_ids_of_mem_callsOut out)
  have calleesFirst := order.calleesFirst
  rw [split] at othersMem
  rw [split, List.pairwise_append, List.pairwise_cons] at calleesFirst
  rcases List.mem_append.1 othersMem with earlier | rest
  · exact ⟨others, earlier, calleeMem⟩
  · rcases List.mem_cons.1 rest with rfl | later
    · exact absurd calleeMem outside
    · exact absurd calleeMem (calleesFirst.2.1.1 others later id mem callee step)

/-- Along whichever order of the components, callees first, the depths come out the same. -/
theorem IsComponentOrder.depthOf_depthsAlong {components : List (List NodeId)}
    (bounded : g.Bounded) (ids : g.ids.Nodup) (order : g.IsComponentOrder components)
    (id : NodeId) : depthOf (g.depthsAlong components) id = g.callDepth id := by
  have schedule := order.isSchedule bounded
  by_cases known : id ∈ g.ids
  · exact schedule.isDepth.eq bounded (isDepth_callDepth bounded ids) known
  · rw [callDepth_unknown known]
    have unsettled : ∀ members ∈ components, id ∉ members := fun members mem key =>
      known ((order.component members mem).known id key)
    exact (depthOf_foldl_settle unsettled).trans rfl

theorem callDepth_congr (bounded : g.Bounded) (nodup : g.ids.Nodup) (ids : g.ids = h.ids)
    (steps : ∀ a b, b ∈ g.successors a ↔ b ∈ h.successors a) : g.callDepth = h.callDepth := by
  have rule : h.IsDepth h.callDepth := isDepth_callDepth (bounded.congr ids steps) (ids ▸ nodup)
  funext id
  by_cases known : id ∈ g.ids
  · exact (isDepth_callDepth bounded nodup).eq bounded
      (rule.congr ids.symm fun a b => (steps a b).symm) known
  · rw [callDepth_unknown known, callDepth_unknown (ids ▸ known)]

end CodeReading.CallGraph
