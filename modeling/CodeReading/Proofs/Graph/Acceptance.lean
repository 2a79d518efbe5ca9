import CodeReading.Proofs.Graph.Rephrasing

set_option autoImplicit false

/-!
# Drafts that are accepted

A draft is accepted exactly when it is well formed. One that is not is refused for its nodes before
its edges, for these before its call sets, and for its entry points last; of nodes, edges and entry
points the first that is at fault is named.
-/
namespace CodeReading

/-- Whether the node of `caller` lists `callee` among its calls. -/
def ListsCall (nodes : List Node) (caller callee : NodeId) : Prop :=
  ∃ node ∈ nodes, node.id = caller ∧ callee ∈ node.calls

def ListsCaller (nodes : List Node) (caller callee : NodeId) : Prop :=
  ∃ node ∈ nodes, node.id = callee ∧ caller ∈ node.calledBy

theorem one_le_count_iff {count : UInt32} : 1 ≤ count ↔ count ≠ 0 := by
  rw [← UInt32.pos_iff_ne_zero, UInt32.le_iff_toNat_le, UInt32.lt_iff_toNat_lt]
  rfl

namespace Draft

def ids (draft : Draft) : List NodeId :=
  draft.nodes.map (·.id)

def IsSoundEdge (draft : Draft) (edge : Edge) : Prop :=
  1 ≤ edge.count ∧ edge.caller ∈ draft.ids ∧ edge.callee ∈ draft.ids

/-- Whether the call sets name nodes only and, in a strict draft, agree with the edges and with each
    other. -/
structure HasSoundSets (draft : Draft) : Prop where
  callees_known : ∀ caller callee, ListsCall draft.nodes caller callee → callee ∈ draft.ids
  callers_known : ∀ caller callee, ListsCaller draft.nodes caller callee → caller ∈ draft.ids
  edges_listed : draft.lenient = false → ∀ edge ∈ draft.edges,
    ListsCall draft.nodes edge.caller edge.callee ∧ ListsCaller draft.nodes edge.caller edge.callee
  mirrored : draft.lenient = false → ∀ caller callee,
    ListsCall draft.nodes caller callee ↔ ListsCaller draft.nodes caller callee

structure IsWellFormed (draft : Draft) : Prop where
  ids_nodup : draft.ids.Nodup
  edges_sound : ∀ edge ∈ draft.edges, draft.IsSoundEdge edge
  sets_sound : draft.HasSoundSets
  entries_known : ∀ id ∈ draft.entryPoints, id ∈ draft.ids

/-- What an edge is refused for: first its count, then its caller, then its callee. -/
inductive EdgeFails (draft : Draft) (edge : Edge) : GraphError → Prop
  | uncalled (zero : edge.count = 0) :
    EdgeFails draft edge (.uncalledEdge edge.caller edge.callee)
  | unknownCaller (counted : 1 ≤ edge.count) (unknown : edge.caller ∉ draft.ids) :
    EdgeFails draft edge (.danglingEdge edge.caller edge.callee edge.caller)
  | unknownCallee (counted : 1 ≤ edge.count) (known : edge.caller ∈ draft.ids)
    (unknown : edge.callee ∉ draft.ids) :
    EdgeFails draft edge (.danglingEdge edge.caller edge.callee edge.callee)

/-- What call sets are refused for: an unknown id or, in a strict draft, half of a call. -/
inductive SetsFail (draft : Draft) : GraphError → Prop
  | unknownCallee {caller callee : NodeId} (call : ListsCall draft.nodes caller callee)
    (unknown : callee ∉ draft.ids) : SetsFail draft (.danglingEdge caller callee callee)
  | unknownCaller {caller callee : NodeId} (call : ListsCaller draft.nodes caller callee)
    (unknown : caller ∉ draft.ids) : SetsFail draft (.danglingEdge caller callee caller)
  | edgeWithoutCall {edge : Edge} (strict : draft.lenient = false) (mem : edge ∈ draft.edges)
    (missing : ¬ ListsCall draft.nodes edge.caller edge.callee) :
    SetsFail draft (.inconsistentAdjacency edge.caller edge.callee .edgeWithoutCall)
  | edgeWithoutCaller {edge : Edge} (strict : draft.lenient = false) (mem : edge ∈ draft.edges)
    (call : ListsCall draft.nodes edge.caller edge.callee)
    (missing : ¬ ListsCaller draft.nodes edge.caller edge.callee) :
    SetsFail draft (.inconsistentAdjacency edge.caller edge.callee .edgeWithoutCaller)
  | callWithoutCaller {caller callee : NodeId} (strict : draft.lenient = false)
    (call : ListsCall draft.nodes caller callee)
    (missing : ¬ ListsCaller draft.nodes caller callee) :
    SetsFail draft (.inconsistentAdjacency caller callee .callWithoutCaller)
  | callerWithoutCall {caller callee : NodeId} (strict : draft.lenient = false)
    (call : ListsCaller draft.nodes caller callee)
    (missing : ¬ ListsCall draft.nodes caller callee) :
    SetsFail draft (.inconsistentAdjacency caller callee .callerWithoutCall)

/-- What a draft is refused for. Each reason stands only where no earlier one does. -/
inductive FailsWith (draft : Draft) : GraphError → Prop
  | repeatedNode {before after : List Node} {node : Node}
    (split : draft.nodes = before ++ node :: after)
    (distinct : (before.map (·.id)).Nodup) (repeated : node.id ∈ before.map (·.id)) :
    FailsWith draft (.duplicateNode node.id)
  | edge {before after : List Edge} {edge : Edge} {error : GraphError}
    (distinct : draft.ids.Nodup)
    (split : draft.edges = before ++ edge :: after)
    (sound : ∀ other ∈ before, draft.IsSoundEdge other) (fault : draft.EdgeFails edge error) :
    FailsWith draft error
  | sets {error : GraphError} (distinct : draft.ids.Nodup)
    (sound : ∀ edge ∈ draft.edges, draft.IsSoundEdge edge) (fault : draft.SetsFail error) :
    FailsWith draft error
  | unknownEntry {before after : List NodeId} {id : NodeId} (distinct : draft.ids.Nodup)
    (sound : ∀ edge ∈ draft.edges, draft.IsSoundEdge edge) (agreed : draft.HasSoundSets)
    (split : draft.entryPoints = before ++ id :: after)
    (known : ∀ other ∈ before, other ∈ draft.ids) (unknown : id ∉ draft.ids) :
    FailsWith draft (.unknownEntryPoint id)

theorem placeNodes_eq_error {placed nodes : List Node} {error : GraphError}
    (h : placeNodes placed nodes = .error error) (fresh : (placed.map (·.id)).Nodup) :
    ∃ before node after, nodes = before ++ node :: after ∧
      ((placed ++ before).map (·.id)).Nodup ∧ node.id ∈ (placed ++ before).map (·.id) ∧
      error = .duplicateNode node.id := by
  induction nodes generalizing placed with
  | nil => cases h
  | cons node nodes ih =>
    unfold placeNodes at h
    split at h
    · rename_i found
      cases h
      have repeated : node.id ∈ placed.map (·.id) := by
        rw [← findNode?_isSome_iff, found]
        rfl
      exact ⟨[], node, nodes, rfl, by rwa [List.append_nil], by rwa [List.append_nil], rfl⟩
    · rename_i missing
      have placedFresh : ((placeNode node placed).map (·.id)).Nodup := by
        rw [((placeNode_perm node placed).map _).nodup_iff]
        exact List.nodup_cons.2 ⟨findNode?_eq_none_iff.1 missing, fresh⟩
      obtain ⟨before, twin, after, rfl, distinct, repeated, rfl⟩ := ih h placedFresh
      have moved : (placeNode node placed ++ before).Perm (placed ++ node :: before) :=
        ((placeNode_perm node placed).append_right before).trans List.perm_middle.symm
      exact ⟨node :: before, twin, after, rfl, (moved.map _).nodup_iff.1 distinct,
        (moved.map _).mem_iff.1 repeated, rfl⟩

theorem mergeEdges_eq_error {nodes : List Node} {merged edges : List Edge} {error : GraphError}
    (h : mergeEdges nodes merged edges = .error error) :
    ∃ before edge after, edges = before ++ edge :: after ∧
      (∀ other ∈ before, edgeFault? nodes other = none) ∧ edgeFault? nodes edge = some error := by
  induction edges generalizing merged with
  | nil => cases h
  | cons edge edges ih =>
    unfold mergeEdges at h
    split at h
    · rename_i fault
      cases h
      exact ⟨[], edge, edges, rfl, by simp, fault⟩
    · rename_i sound
      obtain ⟨before, bad, after, rfl, old, fault⟩ := ih h
      exact ⟨edge :: before, bad, after, rfl, List.forall_mem_cons.2 ⟨sound, old⟩, fault⟩

theorem resolveEntries_eq_error {nodes : List Node} {entries : List NodeId} {error : GraphError}
    (h : resolveEntries nodes entries = .error error) :
    ∃ before id after, entries = before ++ id :: after ∧
      (∀ other ∈ before, other ∈ nodes.map (·.id)) ∧ id ∉ nodes.map (·.id) ∧
      error = .unknownEntryPoint id := by
  unfold resolveEntries at h
  split at h
  · rename_i id found
    cases h
    obtain ⟨unknown, before, after, split, known⟩ := List.find?_eq_some_iff_append.1 found
    refine ⟨before, id, after, split, fun other mem => ?_, ?_, rfl⟩
    · exact findNode?_isSome_iff.1 (by simpa using known other mem)
    · rwa [← findNode?_eq_none_iff, ← Option.isNone_iff_eq_none]
  · cases h

def settleNodes (draft : Draft) (placed : List Node) (merged : List Edge) :
    Except GraphError (List Node) :=
  if draft.lenient then linkNodes placed merged else checkNodes placed merged

theorem build_eq_bind (draft : Draft) : draft.build =
    placeNodes [] draft.nodes >>= fun placed =>
    mergeEdges placed [] draft.edges >>= fun merged =>
    draft.settleNodes placed merged >>= fun nodes =>
    resolveEntries nodes draft.entryPoints >>= fun entryPoints =>
    pure (withDetected draft.detectEntryPoints
      { nodes, edges := allEdges nodes merged, entryPoints }) := by
  obtain ⟨given, edges, entries, lenient, detect⟩ := draft
  cases lenient <;> rfl

theorem build_eq_error {draft : Draft} {error : GraphError} (h : draft.build = .error error) :
    placeNodes [] draft.nodes = .error error ∨
    ∃ placed, placeNodes [] draft.nodes = .ok placed ∧
      (mergeEdges placed [] draft.edges = .error error ∨
      ∃ merged, mergeEdges placed [] draft.edges = .ok merged ∧
        (draft.settleNodes placed merged = .error error ∨
        ∃ nodes, draft.settleNodes placed merged = .ok nodes ∧
          resolveEntries nodes draft.entryPoints = .error error)) := by
  rw [build_eq_bind] at h
  rcases bind_eq_error_iff.1 h with h | ⟨placed, hplaced, h⟩
  · exact .inl h
  refine .inr ⟨placed, hplaced, ?_⟩
  rcases bind_eq_error_iff.1 h with h | ⟨merged, hmerged, h⟩
  · exact .inl h
  refine .inr ⟨merged, hmerged, ?_⟩
  rcases bind_eq_error_iff.1 h with h | ⟨nodes, hnodes, h⟩
  · exact .inl h
  refine .inr ⟨nodes, hnodes, ?_⟩
  rcases bind_eq_error_iff.1 h with h | ⟨entryPoints, -, h⟩
  · exact h
  · cases h

section
variable {nodes : List Node} {node : Node} {caller callee : NodeId} {error : GraphError}

theorem any_findNode?_iff (distinct : (nodes.map (·.id)).Nodup) {owner id : NodeId}
    (ids : Node → IdSet) : (findNode? nodes owner).any (fun node => id ∈ ids node) = true ↔
      ∃ node ∈ nodes, node.id = owner ∧ id ∈ ids node := by
  rw [Option.any_eq_true]
  constructor
  · rintro ⟨node, found, call⟩
    obtain ⟨mem, same⟩ := mem_of_findNode? found
    exact ⟨node, mem, same, of_decide_eq_true call⟩
  · rintro ⟨node, mem, rfl, call⟩
    exact ⟨node, findNode?_of_mem distinct mem, decide_eq_true call⟩

open Classical in
theorem edgeMismatch?_eq (distinct : (nodes.map (·.id)).Nodup) (edge : Edge) :
    edgeMismatch? nodes edge =
      if ¬ListsCall nodes edge.caller edge.callee then
        some (.inconsistentAdjacency edge.caller edge.callee .edgeWithoutCall)
      else if ¬ListsCaller nodes edge.caller edge.callee then
        some (.inconsistentAdjacency edge.caller edge.callee .edgeWithoutCaller)
      else none := by
  have call : _ ↔ ListsCall nodes edge.caller edge.callee :=
    any_findNode?_iff distinct (·.calls)
  have caller : _ ↔ ListsCaller nodes edge.caller edge.callee :=
    any_findNode?_iff distinct (·.calledBy)
  unfold edgeMismatch?
  simp only [← call, ← caller, Bool.not_eq_true', Bool.not_eq_true]

theorem edgeMismatch?_eq_none_iff (distinct : (nodes.map (·.id)).Nodup) {edge : Edge} :
    edgeMismatch? nodes edge = none ↔ ListsCall nodes edge.caller edge.callee ∧
      ListsCaller nodes edge.caller edge.callee := by
  rw [edgeMismatch?_eq distinct]
  split_ifs <;> simp_all

theorem edgeMismatch?_eq_some (distinct : (nodes.map (·.id)).Nodup) {edge : Edge}
    (h : edgeMismatch? nodes edge = some error) :
    (¬ ListsCall nodes edge.caller edge.callee ∧
      error = .inconsistentAdjacency edge.caller edge.callee .edgeWithoutCall) ∨
    (ListsCall nodes edge.caller edge.callee ∧ ¬ ListsCaller nodes edge.caller edge.callee ∧
      error = .inconsistentAdjacency edge.caller edge.callee .edgeWithoutCaller) := by
  rw [edgeMismatch?_eq distinct] at h
  split_ifs at h <;> simp_all

section Mirror

variable {mirror : Node → IdSet} {listed : NodeId} {unknown unmirrored : GraphError}

theorem mirrorFault?_eq_none_iff (distinct : (nodes.map (·.id)).Nodup) :
    mirrorFault? nodes mirror node listed unknown unmirrored = none ↔
      ∃ other ∈ nodes, other.id = listed ∧ node.id ∈ mirror other := by
  rw [← any_findNode?_iff distinct mirror]
  unfold mirrorFault?
  cases findNode? nodes listed with
  | none => simp
  | some other => by_cases call : node.id ∈ mirror other <;> simp [call]

theorem mirrorFault?_eq_some (distinct : (nodes.map (·.id)).Nodup)
    (h : mirrorFault? nodes mirror node listed unknown unmirrored = some error) :
    (listed ∉ nodes.map (·.id) ∧ error = unknown) ∨
      (¬∃ other ∈ nodes, other.id = listed ∧ node.id ∈ mirror other) ∧ error = unmirrored := by
  have missing : ¬∃ other ∈ nodes, other.id = listed ∧ node.id ∈ mirror other := by
    rw [← mirrorFault?_eq_none_iff distinct, h]
    exact Option.some_ne_none error
  unfold mirrorFault? at h
  split at h
  · rename_i absent
    cases h
    exact .inl ⟨findNode?_eq_none_iff.1 absent, rfl⟩
  · split at h
    · cases h
    · cases h
      exact .inr ⟨missing, rfl⟩

end Mirror

theorem callMismatch?_eq_none_iff (distinct : (nodes.map (·.id)).Nodup) :
    callMismatch? nodes node callee = none ↔ ListsCaller nodes node.id callee :=
  mirrorFault?_eq_none_iff distinct

theorem callerMismatch?_eq_none_iff (distinct : (nodes.map (·.id)).Nodup) :
    callerMismatch? nodes node caller = none ↔ ListsCall nodes caller node.id :=
  mirrorFault?_eq_none_iff distinct

/-- No node stands in the way of a strict draft when both kinds of call set tell the same. -/
theorem nodeMismatch?_eq_none_iff (distinct : (nodes.map (·.id)).Nodup) :
    (∀ node ∈ nodes, nodeMismatch? nodes node = none) ↔
      ∀ caller callee, ListsCall nodes caller callee ↔ ListsCaller nodes caller callee := by
  simp only [nodeMismatch?, Option.or_eq_none_iff, List.findSome?_eq_none_iff,
    callMismatch?_eq_none_iff distinct, callerMismatch?_eq_none_iff distinct]
  constructor
  · intro agreed caller callee
    constructor
    · rintro ⟨node, mem, rfl, call⟩
      exact (agreed node mem).1 callee call
    · rintro ⟨node, mem, rfl, call⟩
      exact (agreed node mem).2 caller call
  · intro mirrored node mem
    constructor
    · intro callee call
      exact (mirrored node.id callee).1 ⟨node, mem, rfl, call⟩
    · intro caller call
      exact (mirrored caller node.id).2 ⟨node, mem, rfl, call⟩

theorem danglingCall?_eq_none_iff :
    (∀ node ∈ nodes, danglingCall? nodes node = none) ↔ CallsKnown nodes := by
  constructor
  · intro sound node mem
    exact known_of_danglingCall? (sound node mem)
  · intro known node mem
    have callees : (node.calls.ids.find? fun id => (findNode? nodes id).isNone) = none :=
      List.find?_eq_none.2 fun id call => not_isNone_findNode?_iff.2 ((known node mem).1 id call)
    have callers : (node.calledBy.ids.find? fun id => (findNode? nodes id).isNone) = none :=
      List.find?_eq_none.2 fun id call => not_isNone_findNode?_iff.2 ((known node mem).2 id call)
    unfold danglingCall?
    rw [callees, callers]

theorem danglingCall?_eq_some (h : danglingCall? nodes node = some error) :
    (∃ callee ∈ node.calls, callee ∉ nodes.map (·.id) ∧
      error = .danglingEdge node.id callee callee) ∨
    ∃ caller ∈ node.calledBy, caller ∉ nodes.map (·.id) ∧
      error = .danglingEdge caller node.id caller := by
  have unknown {id : NodeId} (none : (findNode? nodes id).isNone = true) :
      id ∉ nodes.map (·.id) := by
    rwa [← findNode?_eq_none_iff, ← Option.isNone_iff_eq_none]
  unfold danglingCall? at h
  split at h
  · rename_i callee found
    cases h
    have missing := List.find?_some found
    exact .inl ⟨callee, List.mem_of_find?_eq_some found, unknown missing, rfl⟩
  · split at h
    · rename_i caller found
      cases h
      have missing := List.find?_some found
      exact .inr ⟨caller, List.mem_of_find?_eq_some found, unknown missing, rfl⟩
    · cases h

theorem callsKnown_iff : CallsKnown nodes ↔
    (∀ caller callee, ListsCall nodes caller callee → callee ∈ nodes.map (·.id)) ∧
      ∀ caller callee, ListsCaller nodes caller callee → caller ∈ nodes.map (·.id) := by
  constructor
  · intro known
    constructor
    · rintro caller callee ⟨node, mem, -, call⟩
      exact (known node mem).1 callee call
    · rintro caller callee ⟨node, mem, -, call⟩
      exact (known node mem).2 caller call
  · rintro ⟨callees, callers⟩ node mem
    exact ⟨fun id call => callees node.id id ⟨node, mem, rfl, call⟩,
      fun id call => callers id node.id ⟨node, mem, rfl, call⟩⟩

end

section
variable {draft : Draft} {placed : List Node} {merged : List Edge} {error : GraphError}

theorem exists_placeNodes_iff :
    (∃ placed, placeNodes [] draft.nodes = .ok placed) ↔ draft.ids.Nodup := by
  constructor
  · rintro ⟨placed, h⟩
    exact ((placeNodes_perm h).map _).nodup_iff.1 (nodup_of_sorted (placeNodes_sorted h .nil))
  · intro distinct
    exact exists_placeNodes distinct

variable (hplaced : placeNodes [] draft.nodes = .ok placed)
include hplaced

theorem nodup_placed : (placed.map (·.id)).Nodup :=
  nodup_of_sorted (placeNodes_sorted hplaced .nil)

theorem mem_placed_ids_iff {id : NodeId} : id ∈ placed.map (·.id) ↔ id ∈ draft.ids :=
  ((placeNodes_perm hplaced).map _).mem_iff

theorem exists_placed_iff (holds : Node → Prop) :
    (∃ node ∈ placed, holds node) ↔ ∃ node ∈ draft.nodes, holds node := by
  simp only [(placeNodes_perm hplaced).mem_iff, List.nil_append]

theorem edgeFault?_placed_iff {edge : Edge} :
    edgeFault? placed edge = none ↔ draft.IsSoundEdge edge := by
  rw [edgeFault?_eq_none_iff, Joined, mem_placed_ids_iff hplaced, mem_placed_ids_iff hplaced,
    IsSoundEdge, one_le_count_iff]

theorem edgeFails_of_edgeFault? {edge : Edge} (h : edgeFault? placed edge = some error) :
    draft.EdgeFails edge error := by
  have unknown {id : NodeId} (missing : (findNode? placed id).isNone = true) : id ∉ draft.ids := by
    rwa [← mem_placed_ids_iff hplaced, ← findNode?_eq_none_iff, ← Option.isNone_iff_eq_none]
  unfold edgeFault? at h
  split at h
  · rename_i zero
    cases h
    exact .uncalled zero
  · rename_i counted
    have counted := one_le_count_iff.2 counted
    split at h
    · rename_i missing
      cases h
      exact .unknownCaller counted (unknown missing)
    · rename_i found
      have known := (mem_placed_ids_iff hplaced).1 (not_isNone_findNode?_iff.1 found)
      split at h
      · rename_i missing
        cases h
        exact .unknownCallee counted known (unknown missing)
      · cases h

theorem exists_mergeEdges_placed_iff :
    (∃ merged, mergeEdges placed [] draft.edges = .ok merged) ↔
      ∀ edge ∈ draft.edges, draft.IsSoundEdge edge := by
  simp only [exists_mergeEdges_iff, edgeFault?_placed_iff hplaced]

theorem callsKnown_placed_iff : CallsKnown placed ↔
    (∀ caller callee, ListsCall draft.nodes caller callee → callee ∈ draft.ids) ∧
      ∀ caller callee, ListsCaller draft.nodes caller callee → caller ∈ draft.ids := by
  simp only [callsKnown_iff, ListsCall, ListsCaller, exists_placed_iff hplaced,
    mem_placed_ids_iff hplaced]

omit hplaced in
theorem exists_linkNodes_iff :
    (∃ nodes, linkNodes placed merged = .ok nodes) ↔ CallsKnown placed := by
  rw [← danglingCall?_eq_none_iff]
  unfold linkNodes
  cases fault : placed.findSome? (danglingCall? placed) with
  | some error =>
    obtain ⟨node, mem, fault⟩ := List.exists_of_findSome?_eq_some fault
    simp only [reduceCtorEq, exists_false, false_iff]
    intro sound
    rw [sound node mem] at fault
    cases fault
  | none => simpa using List.findSome?_eq_none_iff.1 fault

theorem setsFail_of_linkNodes (h : linkNodes placed merged = .error error) :
    draft.SetsFail error := by
  unfold linkNodes at h
  split at h
  · rename_i fault
    cases h
    obtain ⟨node, mem, fault⟩ := List.exists_of_findSome?_eq_some fault
    have given : node ∈ draft.nodes := (placeNodes_perm hplaced).mem_iff.1 mem
    rcases danglingCall?_eq_some fault with
      ⟨callee, call, unknown, rfl⟩ | ⟨caller, call, unknown, rfl⟩
    · rw [mem_placed_ids_iff hplaced] at unknown
      exact .unknownCallee ⟨node, given, rfl, call⟩ unknown
    · rw [mem_placed_ids_iff hplaced] at unknown
      exact .unknownCaller ⟨node, given, rfl, call⟩ unknown
  · cases h

omit hplaced in
theorem samePairs_merged (hmerged : mergeEdges placed [] draft.edges = .ok merged) :
    SamePairs draft.edges merged := by
  intro pair
  rw [mem_mergeEdges_iff hmerged, List.map_nil]
  simp

theorem exists_checkNodes_iff (hmerged : mergeEdges placed [] draft.edges = .ok merged) :
    (∃ nodes, checkNodes placed merged = .ok nodes) ↔
      (∀ edge ∈ draft.edges, ListsCall draft.nodes edge.caller edge.callee ∧
        ListsCaller draft.nodes edge.caller edge.callee) ∧
      ∀ caller callee,
        ListsCall draft.nodes caller callee ↔ ListsCaller draft.nodes caller callee := by
  have distinct := nodup_placed hplaced
  have same := samePairs_merged hmerged
  have given : (∃ nodes, checkNodes placed merged = .ok nodes) ↔
      ∃ nodes, checkNodes placed draft.edges = .ok nodes :=
    ⟨fun ⟨nodes, h⟩ => ⟨nodes, checkNodes_of_samePairs (fun pair => (same pair).symm) h⟩,
      fun ⟨nodes, h⟩ => ⟨nodes, checkNodes_of_samePairs same h⟩⟩
  rw [given]
  simp only [checkNodes_eq_ok_iff, exists_eq_left, nodeMismatch?_eq_none_iff distinct,
    edgeMismatch?_eq_none_iff distinct, ListsCall, ListsCaller, exists_placed_iff hplaced]

theorem setsFail_of_edgeMismatch? (strict : draft.lenient = false)
    (hmerged : mergeEdges placed [] draft.edges = .ok merged) {edge : Edge} (mem : edge ∈ merged)
    (h : edgeMismatch? placed edge = some error) : draft.SetsFail error := by
  obtain ⟨given, givenMem, caller, callee⟩ := (samePairs_merged hmerged).exists_edge mem
  have mismatch := edgeMismatch?_eq_some (nodup_placed hplaced) h
  simp only [ListsCall, ListsCaller, exists_placed_iff hplaced, ← caller, ← callee] at mismatch
  rcases mismatch with ⟨missing, rfl⟩ | ⟨call, missing, rfl⟩
  · exact .edgeWithoutCall strict givenMem missing
  · exact .edgeWithoutCaller strict givenMem call missing

/-- An id that a node lists and that is not listed in turn makes the sets fail, for whichever reason
    it is. -/
theorem setsFail_of_mirrorFault? {mirror : Node → IdSet} {node : Node} {listed : NodeId}
    {unknown unmirrored : GraphError} (absent : listed ∉ draft.ids → draft.SetsFail unknown)
    (missing : (¬∃ other ∈ draft.nodes, other.id = listed ∧ node.id ∈ mirror other) →
      draft.SetsFail unmirrored)
    (h : mirrorFault? placed mirror node listed unknown unmirrored = some error) :
    draft.SetsFail error := by
  have fault := mirrorFault?_eq_some (nodup_placed hplaced) h
  rw [mem_placed_ids_iff hplaced, exists_placed_iff hplaced] at fault
  rcases fault with ⟨isAbsent, rfl⟩ | ⟨isMissing, rfl⟩
  · exact absent isAbsent
  · exact missing isMissing

theorem setsFail_of_nodeMismatch? (strict : draft.lenient = false) {node : Node}
    (mem : node ∈ draft.nodes) (h : nodeMismatch? placed node = some error) :
    draft.SetsFail error := by
  rcases Option.or_eq_some_iff.1 h with fault | ⟨-, fault⟩
  · obtain ⟨callee, isCall, fault⟩ := List.exists_of_findSome?_eq_some fault
    have call : ListsCall draft.nodes node.id callee := ⟨node, mem, rfl, isCall⟩
    exact setsFail_of_mirrorFault? hplaced (.unknownCallee call) (.callWithoutCaller strict call)
      fault
  · obtain ⟨caller, isCall, fault⟩ := List.exists_of_findSome?_eq_some fault
    have call : ListsCaller draft.nodes caller node.id := ⟨node, mem, rfl, isCall⟩
    exact setsFail_of_mirrorFault? hplaced (.unknownCaller call) (.callerWithoutCall strict call)
      fault

theorem setsFail_of_checkNodes (strict : draft.lenient = false)
    (hmerged : mergeEdges placed [] draft.edges = .ok merged)
    (h : checkNodes placed merged = .error error) : draft.SetsFail error := by
  unfold checkNodes at h
  split at h
  · rename_i fault
    cases h
    rcases Option.or_eq_some_iff.1 fault with fault | ⟨-, fault⟩
    · obtain ⟨edge, mem, fault⟩ := List.exists_of_findSome?_eq_some fault
      exact setsFail_of_edgeMismatch? hplaced strict hmerged mem fault
    · obtain ⟨node, mem, fault⟩ := List.exists_of_findSome?_eq_some fault
      have given : node ∈ draft.nodes := (placeNodes_perm hplaced).mem_iff.1 mem
      exact setsFail_of_nodeMismatch? hplaced strict given fault
  · cases h

theorem exists_settleNodes_iff (hmerged : mergeEdges placed [] draft.edges = .ok merged) :
    (∃ nodes, draft.settleNodes placed merged = .ok nodes) ↔ draft.HasSoundSets := by
  unfold settleNodes
  cases mode : draft.lenient with
  | true =>
    rw [if_pos rfl, exists_linkNodes_iff, callsKnown_placed_iff hplaced]
    constructor
    · rintro ⟨callees, callers⟩
      exact ⟨callees, callers, by simp [mode], by simp [mode]⟩
    · intro sound
      exact ⟨sound.callees_known, sound.callers_known⟩
  | false =>
    rw [if_neg Bool.false_ne_true, exists_checkNodes_iff hplaced hmerged]
    constructor
    · rintro ⟨listed, mirrored⟩
      refine ⟨?_, ?_, fun _ => listed, fun _ => mirrored⟩
      · intro caller callee call
        obtain ⟨node, mem, rfl, -⟩ := (mirrored caller callee).1 call
        exact List.mem_map_of_mem mem
      · intro caller callee call
        obtain ⟨node, mem, rfl, -⟩ := (mirrored caller callee).2 call
        exact List.mem_map_of_mem mem
    · intro sound
      exact ⟨sound.edges_listed mode, sound.mirrored mode⟩

theorem setsFail_of_settleNodes (hmerged : mergeEdges placed [] draft.edges = .ok merged)
    (h : draft.settleNodes placed merged = .error error) : draft.SetsFail error := by
  unfold settleNodes at h
  cases mode : draft.lenient with
  | true =>
    rw [mode, if_pos rfl] at h
    exact setsFail_of_linkNodes hplaced h
  | false =>
    rw [mode, if_neg Bool.false_ne_true] at h
    exact setsFail_of_checkNodes hplaced mode hmerged h

theorem mem_settled_ids_iff {nodes : List Node} (h : draft.settleNodes placed merged = .ok nodes)
    {id : NodeId} : id ∈ nodes.map (·.id) ↔ id ∈ draft.ids := by
  rw [← mem_placed_ids_iff hplaced]
  unfold settleNodes at h
  split at h
  · rw [linkNodes_eq_ok h, linkNode_ids]
  · rw [(checkNodes_eq_ok_iff.1 h).1]

end

theorem exists_build_iff {draft : Draft} :
    (∃ g, draft.build = .ok g) ↔ draft.IsWellFormed := by
  constructor
  · rintro ⟨g, h⟩
    obtain ⟨placed, merged, nodes, entryPoints, hplaced, hmerged, hnodes, hentries, -⟩ :=
      build_eq_ok_iff.1 h
    have known := (resolveEntries_eq_ok_iff.1 hentries).2
    exact ⟨exists_placeNodes_iff.1 ⟨placed, hplaced⟩,
      (exists_mergeEdges_placed_iff hplaced).1 ⟨merged, hmerged⟩,
      (exists_settleNodes_iff hplaced hmerged).1 ⟨nodes, hnodes⟩,
      fun id mem => (mem_settled_ids_iff hplaced hnodes).1 (known id mem)⟩
  · intro sound
    obtain ⟨placed, hplaced⟩ := exists_placeNodes_iff.2 sound.ids_nodup
    obtain ⟨merged, hmerged⟩ := (exists_mergeEdges_placed_iff hplaced).2 sound.edges_sound
    obtain ⟨nodes, hnodes⟩ := (exists_settleNodes_iff hplaced hmerged).2 sound.sets_sound
    have hentries : resolveEntries nodes draft.entryPoints
        = .ok (IdSet.ofList draft.entryPoints) := resolveEntries_eq_ok_iff.2
      ⟨rfl, fun id mem => (mem_settled_ids_iff hplaced hnodes).2 (sound.entries_known id mem)⟩
    exact ⟨_, build_eq_ok_iff.2 ⟨placed, merged, nodes, _, hplaced, hmerged, hnodes, hentries, rfl⟩⟩

/-- A draft builds a graph exactly when it is well formed, and otherwise is refused for the first
    thing that is wrong with it. -/
theorem build_decides (draft : Draft) :
    ((∃ g, draft.build = .ok g) ↔ draft.IsWellFormed) ∧
      ∀ error, draft.build = .error error → draft.FailsWith error := by
  refine ⟨exists_build_iff, fun error h => ?_⟩
  rcases build_eq_error h with h | ⟨placed, hplaced, h⟩
  · obtain ⟨before, node, after, split, distinct, repeated, rfl⟩ := placeNodes_eq_error h .nil
    exact .repeatedNode split distinct repeated
  have distinct := exists_placeNodes_iff.1 ⟨placed, hplaced⟩
  rcases h with h | ⟨merged, hmerged, h⟩
  · obtain ⟨before, edge, after, split, sound, fault⟩ := mergeEdges_eq_error h
    have sound : ∀ other ∈ before, draft.IsSoundEdge other := fun other mem =>
      (edgeFault?_placed_iff hplaced).1 (sound other mem)
    exact .edge distinct split sound (edgeFails_of_edgeFault? hplaced fault)
  have sound := (exists_mergeEdges_placed_iff hplaced).1 ⟨merged, hmerged⟩
  rcases h with h | ⟨nodes, hnodes, h⟩
  · exact .sets distinct sound (setsFail_of_settleNodes hplaced hmerged h)
  have agreed := (exists_settleNodes_iff hplaced hmerged).1 ⟨nodes, hnodes⟩
  obtain ⟨before, id, after, split, known, unknown, rfl⟩ := resolveEntries_eq_error h
  simp only [mem_settled_ids_iff hplaced hnodes] at known unknown
  exact .unknownEntry distinct sound agreed split known unknown

end Draft

def faultyDraft : Draft where
  nodes := [{ id := "run", name := "run", kind := .function },
    { id := "main", name := "main", kind := .function, calls := IdSet.ofList ["run"] }]
  edges := [⟨"main", "run", 2⟩, ⟨"run", "ghost", 0⟩, ⟨"ghost", "run", 1⟩]
  entryPoints := ["nobody"]

theorem build_decides_faulty :
    faultyDraft.build = .error (.uncalledEdge "run" "ghost") ∧
    faultyDraft.FailsWith (.uncalledEdge "run" "ghost") ∧ ¬ faultyDraft.IsWellFormed ∧
    manifoldDraft.IsWellFormed := by
  have refused : faultyDraft.build = .error (.uncalledEdge "run" "ghost") := by decide +kernel
  have accepted : ∃ g, manifoldDraft.build = .ok g := ⟨_, rfl⟩
  obtain ⟨sound, fails⟩ := Draft.build_decides faultyDraft
  obtain ⟨good, -⟩ := Draft.build_decides manifoldDraft
  refine ⟨refused, fails _ refused, fun wellFormed => ?_, good.1 accepted⟩
  obtain ⟨g, ok⟩ := sound.2 wellFormed
  rw [refused] at ok
  cases ok

end CodeReading
