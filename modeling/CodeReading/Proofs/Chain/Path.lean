import CodeReading.Chain.Enumeration
import CodeReading.Proofs.Graph.Built
import Mathlib.Data.List.Chain

set_option autoImplicit false

namespace CodeReading.CallGraph

structure IsPath (g : CallGraph) (path : Path) : Prop where
  starts : ∃ entry ∈ g.entryPoints, path.head? = some entry
  calls : path.IsChain g.Calls
  simple : path.Nodup

structure IsMaximalPath (g : CallGraph) (bound : Nat) (path : Path) : Prop extends
    g.IsPath path where
  bounded : path.length ≤ bound
  finished : path.length = bound ∨
    ∀ last ∈ path.getLast?, ∀ callee, g.Calls last callee → callee ∈ path

variable {g : CallGraph} {path longer : Path} {maxLength : Nat} {id callee : NodeId}

theorem IsPath.ne_nil (h : g.IsPath path) : path ≠ [] := by
  obtain ⟨entry, -, first⟩ := h.starts
  rintro rfl
  cases first

theorem node?_isSome_iff : (g.node? id).isSome ↔ id ∈ g.ids :=
  findNode?_isSome_iff

theorem IsPath.known (closed : g.Closed) (h : g.IsPath path) : ∀ id ∈ path, id ∈ g.ids := by
  obtain ⟨entry, isEntry, first⟩ := h.starts
  cases path with
  | nil => simp
  | cons start rest =>
    cases first
    have chain := h.calls
    intro id mem
    rcases List.mem_cons.1 mem with rfl | mem
    · exact closed.entries_known id isEntry
    · obtain ⟨before, after, rfl⟩ := List.append_of_mem mem
      obtain ⟨caller, call⟩ : ∃ caller, g.Calls caller id := by
        rw [← List.cons_append] at chain
        obtain ⟨-, -, joint⟩ := List.isChain_append.1 chain
        exact ⟨_, joint _ (List.getLast?_eq_getLast_of_ne_nil (List.cons_ne_nil _ _)) _ rfl⟩
      exact closed.known_of_calls call

theorem known_ids {ids : List NodeId} (h : ∀ id ∈ ids, id ∈ g.ids) :
    (g.known ids).map (·.id) = ids := by
  induction ids with
  | nil => rfl
  | cons id ids ih =>
    rw [List.forall_mem_cons] at h
    obtain ⟨node, found⟩ := Option.isSome_iff_exists.1 (node?_isSome_iff.2 h.1)
    have rest := ih h.2
    unfold known at rest ⊢
    rw [List.filterMap_cons_some found, List.map_cons, rest, (mem_of_findNode? found).2]

theorem Closed.callees_ids (closed : g.Closed) {node : Node} (found : g.node? id = some node) :
    (g.callees id).map (·.id) = node.calls.ids := by
  unfold callees
  rw [found]
  exact known_ids (closed.calls_known node (mem_of_findNode? found).1)

theorem Closed.mem_callees_ids (closed : g.Closed) :
    callee ∈ (g.callees id).map (·.id) ↔ g.Calls id callee := by
  cases found : g.node? id with
  | none => simp [callees, Calls, found]
  | some node =>
    rw [closed.callees_ids found]
    simp [Calls, found, IdSet.mem_def]

theorem Closed.mem_extensions_iff (closed : g.Closed) :
    longer ∈ g.extensions maxLength path ↔ path.length < maxLength ∧
      ∃ last ∈ path.getLast?, ∃ callee, g.Calls last callee ∧ callee ∉ path ∧
        longer = path ++ [callee] := by
  unfold extensions
  by_cases full : maxLength ≤ path.length
  · rw [if_pos full]
    simp [Nat.not_lt.2 full]
  · rw [if_neg full]
    cases hlast : path.getLast? with
    | none => simp
    | some last =>
      simp only [List.mem_map (f := fun id => path ++ [id]), List.mem_filter,
        closed.mem_callees_ids, decide_eq_true_eq, Nat.not_le.1 full, Option.mem_some_iff,
        true_and, exists_eq_left', and_assoc]
      constructor
      · rintro ⟨callee, call, fresh, rfl⟩
        exact ⟨callee, call, fresh, rfl⟩
      · rintro ⟨callee, call, fresh, rfl⟩
        exact ⟨callee, call, fresh, rfl⟩

/-- Nothing extends a path exactly when it is as long as allowed or its last node leads back. -/
theorem Closed.extensions_eq_nil_iff (closed : g.Closed) :
    g.extensions maxLength path = [] ↔ maxLength ≤ path.length ∨
      ∀ last ∈ path.getLast?, ∀ callee, g.Calls last callee → callee ∈ path := by
  simp only [List.eq_nil_iff_forall_not_mem, closed.mem_extensions_iff]
  constructor
  · intro none
    by_cases full : maxLength ≤ path.length
    · exact Or.inl full
    · refine Or.inr fun last hlast callee call => ?_
      by_contra fresh
      exact none _ ⟨Nat.not_le.1 full, last, hlast, callee, call, fresh, rfl⟩
  · rintro done longer ⟨room, last, hlast, callee, call, fresh, rfl⟩
    rcases done with full | back
    · omega
    · exact fresh (back last hlast callee call)

theorem Closed.isPath_extension (closed : g.Closed) (h : g.IsPath path)
    (mem : longer ∈ g.extensions maxLength path) : g.IsPath longer ∧ longer.length ≤ maxLength := by
  obtain ⟨room, last, hlast, callee, call, fresh, rfl⟩ := closed.mem_extensions_iff.1 mem
  obtain ⟨entry, isEntry, first⟩ := h.starts
  refine ⟨⟨⟨entry, isEntry, ?_⟩, ?_, ?_⟩, ?_⟩
  · rw [List.head?_append, first]
    rfl
  · refine List.isChain_append.2 ⟨h.calls, List.isChain_singleton _, ?_⟩
    intro x hx y hy
    cases hlast.symm.trans hx
    cases hy
    exact call
  · refine List.nodup_append.2 ⟨h.simple, by simp, ?_⟩
    intro x hx y hy eq
    rw [List.mem_singleton.1 hy] at eq
    exact fresh (eq ▸ hx)
  · rw [List.length_append]
    exact room

theorem Closed.prefix_extension (closed : g.Closed) {rest : List NodeId}
    (h : g.IsPath (path ++ callee :: rest)) (start : path ≠ []) (room : path.length < maxLength) :
    path ++ [callee] ∈ g.extensions maxLength path := by
  have hlast : path.getLast start ∈ path.getLast? := List.getLast?_eq_some_getLast start
  refine closed.mem_extensions_iff.2 ⟨room, path.getLast start, hlast, callee, ?_, ?_, rfl⟩
  · obtain ⟨-, -, joint⟩ := List.isChain_append.1 h.calls
    exact joint _ hlast _ rfl
  · intro mem
    exact (List.nodup_append.1 h.simple).2.2 callee mem callee List.mem_cons_self rfl

end CodeReading.CallGraph
