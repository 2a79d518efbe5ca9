import CodeReading.Graph.Depth
import CodeReading.Proofs.Graph.Coherence
import Mathlib.Logic.Relation

set_option autoImplicit false

namespace CodeReading.CallGraph

/-- Whether a sequence of zero or more edges leads from one node to another. -/
def Reaches (g : CallGraph) : NodeId → NodeId → Prop :=
  Relation.ReflTransGen fun caller callee => callee ∈ g.successors caller

def Bounded (g : CallGraph) : Prop :=
  ∀ caller, ∀ callee ∈ g.successors caller, callee ∈ g.ids

variable {g : CallGraph} {visited queue sources : List NodeId} {id other source target : NodeId}

theorem Built.bounded (built : g.Built) : g.Bounded :=
  fun _ _ mem => built.closed.known_of_calls (built.mem_successors_iff.1 mem)

theorem Bounded.reaches_known (bounded : g.Bounded) (known : source ∈ g.ids)
    (path : g.Reaches source target) : target ∈ g.ids := by
  induction path with
  | refl => exact known
  | tail _ step _ => exact bounded _ _ step

theorem visited_subset_search (mem : id ∈ visited) : id ∈ g.search visited queue := by
  fun_induction search g visited queue with
  | case1 visited => exact mem
  | case2 visited next queue fresh ih => exact ih (List.mem_cons_of_mem next mem)
  | case3 visited next queue stale ih => exact ih mem

theorem queue_subset_search (mem : id ∈ queue) (known : id ∈ g.ids) :
    id ∈ g.search visited queue := by
  fun_induction search g visited queue with
  | case1 visited => cases mem
  | case2 visited next queue fresh ih =>
    rcases List.mem_cons.1 mem with rfl | mem
    · exact visited_subset_search List.mem_cons_self
    · exact ih (List.mem_append_left _ mem)
  | case3 visited next queue stale ih =>
    rcases List.mem_cons.1 mem with rfl | mem
    · have old : id ∈ visited := by
        by_contra new
        exact stale ⟨known, new⟩
      exact visited_subset_search old
    · exact ih mem

/-- A search goes on until no edge leads out of what it has visited. -/
theorem search_closed (bounded : g.Bounded)
    (pending : ∀ caller ∈ visited, ∀ callee ∈ g.successors caller,
      callee ∈ visited ∨ callee ∈ queue) :
    ∀ caller ∈ g.search visited queue, ∀ callee ∈ g.successors caller,
      callee ∈ g.search visited queue := by
  fun_induction search g visited queue with
  | case1 visited =>
    intro caller mem callee step
    exact (pending caller mem callee step).resolve_right List.not_mem_nil
  | case2 visited next queue fresh ih =>
    refine ih fun caller mem callee step => ?_
    rcases List.mem_cons.1 mem with rfl | mem
    · exact Or.inr (List.mem_append_right _ step)
    · rcases pending caller mem callee step with old | waits
      · exact Or.inl (List.mem_cons_of_mem next old)
      · rcases List.mem_cons.1 waits with rfl | waits
        · exact Or.inl List.mem_cons_self
        · exact Or.inr (List.mem_append_left _ waits)
  | case3 visited next queue stale ih =>
    refine ih fun caller mem callee step => ?_
    rcases pending caller mem callee step with old | waits
    · exact Or.inl old
    · rcases List.mem_cons.1 waits with rfl | waits
      · have known : callee ∈ g.ids := bounded caller callee step
        exact Or.inl (by_contra fun new => stale ⟨known, new⟩)
      · exact Or.inr waits

theorem search_sound (mem : id ∈ g.search visited queue) :
    id ∈ visited ∨ ∃ start ∈ queue, start ∈ g.ids ∧ g.Reaches start id := by
  fun_induction search g visited queue with
  | case1 visited => exact Or.inl mem
  | case2 visited next queue fresh ih =>
    rcases ih mem with old | ⟨start, startMem, known, path⟩
    · rcases List.mem_cons.1 old with rfl | old
      · exact Or.inr ⟨id, List.mem_cons_self, fresh.1, .refl⟩
      · exact Or.inl old
    · rcases List.mem_append.1 startMem with waits | step
      · exact Or.inr ⟨start, List.mem_cons_of_mem next waits, known, path⟩
      · exact Or.inr ⟨next, List.mem_cons_self, fresh.1, path.head step⟩
  | case3 visited next queue stale ih =>
    rcases ih mem with old | ⟨start, waits, known, path⟩
    · exact Or.inl old
    · exact Or.inr ⟨start, List.mem_cons_of_mem next waits, known, path⟩

theorem nodup_search (distinct : visited.Nodup) : (g.search visited queue).Nodup := by
  fun_induction search g visited queue with
  | case1 visited => exact distinct
  | case2 visited next queue fresh ih => exact ih (List.nodup_cons.2 ⟨fresh.2, distinct⟩)
  | case3 visited next queue stale ih => exact ih distinct

theorem nodup_reachable (g : CallGraph) (sources : List NodeId) : (g.reachable sources).Nodup :=
  nodup_search .nil

theorem Bounded.mem_reachable_iff (bounded : g.Bounded) :
    target ∈ g.reachable sources ↔
      ∃ source ∈ sources, source ∈ g.ids ∧ g.Reaches source target := by
  constructor
  · intro mem
    exact (search_sound mem).resolve_left List.not_mem_nil
  · rintro ⟨source, mem, known, path⟩
    have closed : ∀ caller ∈ g.reachable sources, ∀ callee ∈ g.successors caller,
        callee ∈ g.reachable sources := search_closed bounded (by simp)
    induction path with
    | refl => exact queue_subset_search mem known
    | tail _ step ih => exact closed _ ih _ step

theorem Bounded.isReachableFrom_iff (bounded : g.Bounded) :
    g.isReachableFrom sources target = true ↔
      ∃ source ∈ sources, source ∈ g.ids ∧ g.Reaches source target := by
  unfold isReachableFrom
  rw [decide_eq_true_eq, bounded.mem_reachable_iff]

theorem Bounded.mem_reachable_singleton_iff (bounded : g.Bounded) :
    target ∈ g.reachable [source] ↔ source ∈ g.ids ∧ g.Reaches source target := by
  simp [bounded.mem_reachable_iff]

section
variable {h : CallGraph}

theorem reaches_congr (steps : ∀ a b, b ∈ g.successors a ↔ b ∈ h.successors a) :
    g.Reaches = h.Reaches := by
  unfold Reaches
  simp only [steps]

theorem Bounded.congr (bounded : g.Bounded) (ids : g.ids = h.ids)
    (steps : ∀ a b, b ∈ g.successors a ↔ b ∈ h.successors a) : h.Bounded :=
  fun caller callee step => ids ▸ bounded caller callee ((steps caller callee).2 step)

theorem isReachableFrom_congr (bounded : g.Bounded) (ids : g.ids = h.ids)
    (steps : ∀ a b, b ∈ g.successors a ↔ b ∈ h.successors a) :
    g.isReachableFrom = h.isReachableFrom := by
  funext sources target
  rw [Bool.eq_iff_iff, bounded.isReachableFrom_iff, (bounded.congr ids steps).isReachableFrom_iff,
    ids, reaches_congr steps]

end

end CodeReading.CallGraph
