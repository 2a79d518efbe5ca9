import CodeReading.Chain.Measure
import CodeReading.Graph.Reachability

set_option autoImplicit false

/-!
# Enumerating chains

Paths are followed from each entry point along the calls, never twice through one node and up to a
bound on their length. A path is finished when it cannot be extended. Unfinished paths wait on a
stack, their extensions pushed in the order of their ids, so finished paths come out in
lexicographic order. The search ends after a given number of them.

The search terminates because each step replaces a path by its extensions, which have fewer nodes
left to visit: `searchSteps` counts the steps that a path still costs.
-/
namespace CodeReading

abbrev Path := List NodeId

namespace CallGraph

def extensions (g : CallGraph) (maxLength : Nat) (path : Path) : List Path :=
  if maxLength ≤ path.length then []
  else
    match path.getLast? with
    | none => []
    | some last =>
      (((g.callees last).map (·.id)).filter fun id => id ∉ path).map fun id => path ++ [id]

theorem mem_extensions {g : CallGraph} {maxLength : Nat} {path longer : Path}
    (h : longer ∈ g.extensions maxLength path) :
    ∃ id, longer = path ++ [id] ∧ id ∉ path ∧ id ∈ g.ids := by
  unfold extensions at h
  split at h
  · simp at h
  · split at h
    · simp at h
    · simp only [List.mem_map, List.mem_filter, decide_eq_true_eq] at h
      obtain ⟨id, ⟨⟨node, hnode, rfl⟩, fresh⟩, rfl⟩ := h
      refine ⟨node.id, rfl, fresh, ?_⟩
      unfold callees at hnode
      split at hnode
      · simp only [known, List.mem_filterMap] at hnode
        obtain ⟨other, _, found⟩ := hnode
        exact List.mem_map_of_mem (List.mem_of_find?_eq_some found)
      · simp at hnode

theorem unvisited_extension_lt {g : CallGraph} {maxLength : Nat} {path longer : Path}
    (h : longer ∈ g.extensions maxLength path) :
    (g.unvisited longer).length < (g.unvisited path).length := by
  obtain ⟨id, rfl, fresh, known⟩ := mem_extensions h
  exact unvisited_lt (fun _ => List.mem_append_left _) (by simp) known fresh

/-- Steps that a search from one path takes: one for the path and those of its extensions. -/
def searchSteps (g : CallGraph) (maxLength : Nat) (path : Path) : Nat :=
  1 + Measure.total ((g.extensions maxLength path).attach.map fun ⟨longer, _⟩ =>
    g.searchSteps maxLength longer)
termination_by (g.unvisited path).length
decreasing_by exact unvisited_extension_lt (by assumption)

theorem searchSteps_eq (g : CallGraph) (maxLength : Nat) (path : Path) :
    g.searchSteps maxLength path
      = 1 + Measure.total ((g.extensions maxLength path).map (g.searchSteps maxLength)) := by
  rw [searchSteps]
  simp

def stackSteps (g : CallGraph) (maxLength : Nat) (stack : List Path) : Nat :=
  Measure.total (stack.map (g.searchSteps maxLength))

theorem stackSteps_cons (g : CallGraph) (maxLength : Nat) (path : Path) (stack : List Path) :
    g.stackSteps maxLength (path :: stack)
      = g.stackSteps maxLength (g.extensions maxLength path ++ stack) + 1 := by
  simp only [stackSteps, List.map_cons, Measure.total, List.map_append, Measure.total_append,
    searchSteps_eq g maxLength path]
  omega

/-- Finished paths from a stack, in the order in which the search meets them: those already `found`,
    in reverse order, and then enough to make `limit`, but at least one more. -/
def finishedPaths (g : CallGraph) (maxLength limit : Nat) (found : List Path) (stack : List Path) :
    List Path :=
  match stack with
  | [] => found.reverse
  | path :: stack =>
    match _h : g.extensions maxLength path with
    | [] =>
      if limit ≤ found.length + 1 then (path :: found).reverse
      else g.finishedPaths maxLength limit (path :: found) stack
    | longer :: others =>
      g.finishedPaths maxLength limit found (longer :: others ++ stack)
termination_by g.stackSteps maxLength stack
decreasing_by
  · rw [stackSteps_cons, _h]
    exact Nat.lt_succ_self _
  · rw [stackSteps_cons, _h]
    exact Nat.lt_succ_self _

/-- Chains from the entry points, in lexicographic order: the first `limit` finished paths, but at
    least one when there is an entry point. -/
def enumerate (g : CallGraph) (maxLength limit : Nat) : List Chain :=
  let starts := g.entryPoints.ids.map fun id => [id]
  (g.finishedPaths maxLength limit [] starts).filterMap Chain.ofList?

end CallGraph
end CodeReading
