import CodeReading.Graph.CallGraph

set_option autoImplicit false

namespace CodeReading.CallGraph

def unvisited (g : CallGraph) (visited : List NodeId) : List NodeId :=
  g.ids.filter fun id => id ∉ visited

theorem length_filter_le {α : Type} {p q : α → Bool} (imp : ∀ x, p x = true → q x = true)
    (xs : List α) : (xs.filter p).length ≤ (xs.filter q).length := by
  rw [← List.countP_eq_length_filter, ← List.countP_eq_length_filter]
  exact List.countP_mono_left fun x _ => imp x

theorem length_filter_lt {α : Type} {p q : α → Bool} {xs : List α}
    (imp : ∀ x, p x = true → q x = true) {x : α} (hx : x ∈ xs) (hq : q x = true)
    (hp : p x = false) : (xs.filter p).length < (xs.filter q).length := by
  obtain ⟨before, after, rfl⟩ := List.append_of_mem hx
  have left := length_filter_le imp before
  have right := length_filter_le imp after
  rw [List.filter_append, List.filter_append, List.filter_cons_of_neg (by simp [hp]),
    List.filter_cons_of_pos hq]
  simp only [List.length_append, List.length_cons]
  omega

theorem unvisited_lt {g : CallGraph} {visited more : List NodeId} {id : NodeId}
    (sub : ∀ other ∈ visited, other ∈ more) (new : id ∈ more) (known : id ∈ g.ids)
    (fresh : id ∉ visited) : (g.unvisited more).length < (g.unvisited visited).length :=
  length_filter_lt
    (fun other h => by
      simp only [decide_eq_true_eq] at h ⊢
      exact fun mem => h (sub other mem))
    known (by simpa using fresh) (by simpa using new)

/-- What is visited in the end, when `visited` has been visited and `queue` waits. -/
def search (g : CallGraph) (visited queue : List NodeId) : List NodeId :=
  match queue with
  | [] => visited
  | id :: queue =>
    if _h : id ∈ g.ids ∧ id ∉ visited then g.search (id :: visited) (queue ++ g.successors id)
    else g.search visited queue
termination_by ((g.unvisited visited).length, queue.length)
decreasing_by
  · exact Prod.Lex.left _ _
      (unvisited_lt (fun _ => List.mem_cons_of_mem _) List.mem_cons_self _h.1 _h.2)
  · exact Prod.Lex.right _ (by simp)

/-- Nodes that can be reached from `sources`, the known sources included. -/
def reachable (g : CallGraph) (sources : List NodeId) : List NodeId :=
  g.search [] sources

def isReachableFrom (g : CallGraph) (sources : List NodeId) (target : NodeId) : Bool :=
  target ∈ g.reachable sources

end CodeReading.CallGraph
