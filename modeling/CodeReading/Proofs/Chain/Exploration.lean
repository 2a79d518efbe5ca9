import CodeReading.Proofs.Chain.Enumeration
import Mathlib.Computability.StateTransition
import Mathlib.Data.List.Permutation
import Mathlib.Data.Set.Card

set_option autoImplicit false

/-!
# Steps of the enumeration

An exploration takes the entry points one after the other, each with a stack of its own, and checks
of each finished path whether it was found before. It keeps a record of the paths that it pushes and
takes off. Every pushed path is a path of the graph, and none is pushed twice: a path can only be
pushed when the path without its last node is taken off. So there are no more iterations than paths,
the exploration ends, no check ever fails, and what is found is the enumeration.
-/
namespace CodeReading

namespace CallGraph

variable {g : CallGraph} {maxLength limit : Nat} {found stack : List Path} {path : Path}

theorem nodup_extensions (g : CallGraph) (maxLength : Nat) (path : Path) :
    (g.extensions maxLength path).Nodup := by
  unfold extensions
  split
  · exact .nil
  · split
    · exact .nil
    · rename_i last _
      have distinct : ((g.callees last).map (·.id)).Nodup :=
        (sorted_callees last).imp fun less => Std.ne_of_lt less
      refine (distinct.filter _).map fun a b same => ?_
      exact List.singleton_inj.1 (List.append_cancel_left same)

theorem finishedPaths_finished (h : g.extensions maxLength path = []) :
    g.finishedPaths maxLength limit found (path :: stack)
      = if limit ≤ found.length + 1 then (path :: found).reverse
        else g.finishedPaths maxLength limit (path :: found) stack := by
  rw [finishedPaths]
  split
  · rfl
  · rename_i longer others extended
    rw [h] at extended
    cases extended

theorem finishedPaths_extended (h : g.extensions maxLength path ≠ []) :
    g.finishedPaths maxLength limit found (path :: stack)
      = g.finishedPaths maxLength limit found (g.extensions maxLength path ++ stack) := by
  rw [finishedPaths]
  split
  · exact absurd ‹_› h
  · rename_i longer others extended
    rw [extended]

end CallGraph

structure Exploration where
  entries : List NodeId
  entry? : Option NodeId := none
  stack : List Path := []
  /-- Finished paths, the last one first. -/
  found : List Path := []
  isFull : Bool := false
  /-- All paths that were pushed on a stack. -/
  pushed : List Path := []
  /-- All paths that were taken off a stack, one in each iteration. -/
  visited : List Path := []
  deriving DecidableEq

namespace Exploration

def start (g : CallGraph) : Exploration where
  entries := g.entryPoints.ids

def enter (s : Exploration) (entry : NodeId) (entries : List NodeId) : Exploration :=
  { s with entries, entry? := some entry, stack := [[entry]], pushed := [entry] :: s.pushed }

def extend (s : Exploration) (path : Path) (stack longer : List Path) : Exploration :=
  { s with
    stack := longer ++ stack
    pushed := longer ++ s.pushed
    visited := path :: s.visited }

/-- A finished path is taken off the stack, and it is found unless it was before. -/
def finish (s : Exploration) (limit : Nat) (path : Path) (stack : List Path) : Exploration :=
  let found := if path ∈ s.found then s.found else path :: s.found
  { s with stack, found, isFull := limit ≤ found.length, visited := path :: s.visited }

/-- The next state of an exploration, unless it has ended. A path to an unknown node is dropped. -/
def step? (g : CallGraph) (maxLength limit : Nat) (s : Exploration) : Option Exploration :=
  if s.isFull then none
  else
    match s.stack, s.entries with
    | [], [] => none
    | [], entry :: entries => some (s.enter entry entries)
    | path :: stack, _ =>
      if (path.getLast?.bind g.node?).isNone then some (s.extend path stack [])
      else if g.extensions maxLength path = [] then some (s.finish limit path stack)
      else some (s.extend path stack (g.extensions maxLength path))

variable {g : CallGraph} {maxLength limit : Nat} {s next : Exploration} {path : Path}
  {stack others : List Path}

/-- What holds of an exploration between any two steps: it pushes paths of the graph from the entry
    point explored, each once and only after the path that it extends was taken off. -/
structure IsSound (g : CallGraph) (s : Exploration) : Prop where
  simple : ∀ path ∈ s.pushed, g.IsPath path
  current : ∀ path ∈ s.stack, path.head? = s.entry?
  once : s.pushed.Nodup
  recorded : s.pushed.Perm (s.visited ++ s.stack)
  reached : ∀ path ∈ s.pushed, path.length = 1 ∨ path.dropLast ∈ s.visited
  found_visited : s.found ⊆ s.visited
  coming : ∀ entry ∈ s.entries, entry ∈ g.entryPoints ∧ [entry] ∉ s.pushed
  entries_distinct : s.entries.Nodup

theorem isSound_start (g : CallGraph) : IsSound g (start g) where
  simple := List.forall_mem_nil _
  current := List.forall_mem_nil _
  once := .nil
  recorded := .nil
  reached := List.forall_mem_nil _
  found_visited := List.nil_subset _
  coming := fun _ mem => ⟨mem, List.not_mem_nil⟩
  entries_distinct := g.entryPoints.sorted.imp fun less => Std.ne_of_lt less

theorem IsSound.enter {entry : NodeId} {entries : List NodeId} (sound : IsSound g s)
    (empty : s.stack = []) (more : s.entries = entry :: entries) :
    IsSound g (s.enter entry entries) := by
  have coming := sound.coming
  have distinct := sound.entries_distinct
  rw [more, List.forall_mem_cons] at coming
  rw [more, List.nodup_cons] at distinct
  have recorded := sound.recorded
  rw [empty, List.append_nil] at recorded
  refine {
    simple := List.forall_mem_cons.2 ⟨?_, sound.simple⟩
    current := List.forall_mem_singleton.2 rfl
    once := sound.once.cons coming.1.2
    recorded := (recorded.cons [entry]).trans (List.perm_append_singleton _ _).symm
    reached := List.forall_mem_cons.2 ⟨.inl rfl, sound.reached⟩
    found_visited := sound.found_visited
    coming := fun other mem => ⟨(coming.2 other mem).1, ?_⟩
    entries_distinct := distinct.2 }
  · exact ⟨⟨entry, coming.1.1, rfl⟩, List.isChain_singleton _, List.nodup_singleton _⟩
  · refine List.not_mem_cons_of_ne_of_not_mem ?_ (coming.2 other mem).2
    intro same
    rw [List.singleton_inj.1 same] at mem
    exact distinct.1 mem

section Top

variable (sound : IsSound g s) (top : s.stack = path :: stack)

include sound top

theorem IsSound.pushed_of_top : path ∈ s.pushed := by
  refine sound.recorded.mem_iff.2 (List.mem_append_right _ ?_)
  rw [top]
  exact List.mem_cons_self

theorem IsSound.recorded_of_top : s.pushed.Perm (path :: (s.visited ++ stack)) := by
  have recorded := sound.recorded
  rw [top] at recorded
  exact recorded.trans List.perm_middle

theorem IsSound.not_visited_of_top : path ∉ s.visited := by
  have distinct := (sound.recorded_of_top top).nodup sound.once
  exact fun mem => (List.nodup_cons.1 distinct).1 (List.mem_append_left stack mem)

theorem IsSound.not_found_of_top : path ∉ s.found :=
  fun mem => sound.not_visited_of_top top (sound.found_visited mem)

theorem IsSound.extend (each : ∀ longer ∈ others, ∃ id, longer = path ++ [id] ∧ g.IsPath longer)
    (distinct : others.Nodup) : IsSound g (s.extend path stack others) := by
  have nonempty := (sound.simple path (sound.pushed_of_top top)).ne_nil
  have current := sound.current
  rw [top, List.forall_mem_cons] at current
  have long : ∀ longer ∈ others, longer.length ≠ 1 := by
    intro longer mem
    obtain ⟨id, rfl, -⟩ := each longer mem
    have some := List.length_pos_of_ne_nil nonempty
    rw [List.length_append, List.length_singleton]
    omega
  have shorter : ∀ longer ∈ others, longer.dropLast = path := by
    intro longer mem
    obtain ⟨id, rfl, -⟩ := each longer mem
    exact List.dropLast_concat
  -- A path of more than one node is pushed only after the path without its last node is taken off.
  have fresh : ∀ longer ∈ others, longer ∉ s.pushed := by
    intro longer mem pushed
    have visited := (sound.reached longer pushed).resolve_left (long longer mem)
    rw [shorter longer mem] at visited
    exact sound.not_visited_of_top top visited
  refine {
    simple := List.forall_mem_append.2 ⟨?simple, sound.simple⟩
    current := List.forall_mem_append.2 ⟨?current, current.2⟩
    once := List.Nodup.append distinct sound.once fresh
    recorded :=
      ((sound.recorded_of_top top).append_left others).trans
        (List.perm_append_comm_assoc others (path :: s.visited) stack)
    reached := List.forall_mem_append.2 ⟨?extended, ?before⟩
    found_visited := List.subset_cons_of_subset path sound.found_visited
    coming := fun entry mem => ⟨(sound.coming entry mem).1, ?coming⟩
    entries_distinct := sound.entries_distinct }
  case simple =>
    intro longer mem
    obtain ⟨id, -, isPath⟩ := each longer mem
    exact isPath
  case current =>
    intro longer mem
    obtain ⟨id, rfl, -⟩ := each longer mem
    exact (List.head?_append_of_ne_nil _ nonempty).trans current.1
  case extended =>
    intro longer mem
    rw [shorter longer mem]
    exact .inr List.mem_cons_self
  case before =>
    intro other mem
    exact (sound.reached other mem).imp_right (List.mem_cons_of_mem path)
  case coming =>
    exact List.not_mem_append (fun mem => long [entry] mem rfl) (sound.coming entry mem).2

theorem finish_eq (limit : Nat) : s.finish limit path stack =
    { s.extend path stack [] with
      found := path :: s.found, isFull := limit ≤ s.found.length + 1 } := by
  unfold finish
  rw [if_neg (sound.not_found_of_top top)]
  rfl

theorem IsSound.finish (limit : Nat) : IsSound g (s.finish limit path stack) := by
  have popped := sound.extend top (List.forall_mem_nil _) .nil
  rw [finish_eq sound top]
  exact { popped with
    found_visited := List.cons_subset_cons path sound.found_visited }

theorem IsSound.known_of_top (closed : g.Closed) : (path.getLast?.bind g.node?).isNone = false := by
  have isPath := sound.simple path (sound.pushed_of_top top)
  have known := isPath.known closed _ (List.getLast_mem isPath.ne_nil)
  rw [List.getLast?_eq_some_getLast isPath.ne_nil, Option.bind_some, Option.isNone_eq_false_iff]
  exact CallGraph.node?_isSome_iff.2 known

end Top

/-- Which step an exploration takes: it goes on to the next entry point, or takes a path off the
    stack, which is finished or extended. -/
inductive Step (g : CallGraph) (maxLength limit : Nat) (s : Exploration) : Exploration → Prop
  | enter {entry : NodeId} {entries : List NodeId} (empty : s.stack = [])
      (more : s.entries = entry :: entries) : Step g maxLength limit s (s.enter entry entries)
  | finish {path : Path} {stack : List Path} (top : s.stack = path :: stack)
      (finished : g.extensions maxLength path = []) :
      Step g maxLength limit s (s.finish limit path stack)
  | extend {path : Path} {stack : List Path} (top : s.stack = path :: stack)
      (unfinished : g.extensions maxLength path ≠ []) :
      Step g maxLength limit s (s.extend path stack (g.extensions maxLength path))

theorem IsSound.step_of_step? (sound : IsSound g s) (closed : g.Closed)
    (h : s.step? g maxLength limit = some next) :
    s.isFull = false ∧ Step g maxLength limit s next := by
  unfold step? at h
  split at h
  · cases h
  · rename_i notFull
    refine ⟨Bool.eq_false_iff.2 notFull, ?_⟩
    split at h
    · cases h
    · rename_i entry entries empty more
      cases h
      exact .enter empty more
    · rename_i path stack _ top
      rw [sound.known_of_top top closed, if_neg Bool.false_ne_true] at h
      split at h
      · cases h
        exact .finish top ‹_›
      · cases h
        exact .extend top ‹_›

theorem IsSound.of_step? (sound : IsSound g s) (closed : g.Closed)
    (h : s.step? g maxLength limit = some next) : IsSound g next := by
  cases (sound.step_of_step? closed h).2 with
  | enter empty more => exact sound.enter empty more
  | finish top _ => exact sound.finish top limit
  | extend top _ =>
    refine sound.extend top (fun longer mem => ?_) (CallGraph.nodup_extensions g maxLength _)
    obtain ⟨id, same, -, -⟩ := CallGraph.mem_extensions mem
    have isPath := sound.simple _ (sound.pushed_of_top top)
    exact ⟨id, same, (closed.isPath_extension isPath mem).1⟩

theorem isSound_of_reaches (closed : g.Closed)
    (h : StateTransition.Reaches (step? g maxLength limit) (start g) s) : IsSound g s := by
  induction h with
  | refl => exact isSound_start g
  | tail _ step ih => exact ih.of_step? closed step

theorem finite_isPath (closed : g.Closed) : {path | g.IsPath path}.Finite := by
  refine (List.finite_toSet (g.ids.sublists.flatMap List.permutations)).subset ?_
  intro path isPath
  obtain ⟨part, perm, isPart⟩ := List.subperm_of_subset isPath.simple (isPath.known closed)
  exact List.mem_flatMap.2 ⟨part, List.mem_sublists.2 isPart, List.mem_permutations.2 perm.symm⟩

theorem IsSound.length_visited_le (sound : IsSound g s) (closed : g.Closed) :
    s.visited.length ≤ {path | g.IsPath path}.ncard := by
  have pushed : ∀ path ∈ s.visited, path ∈ s.pushed :=
    fun path mem => sound.recorded.mem_iff.2 (List.mem_append_left _ mem)
  have distinct : s.visited.Nodup :=
    (List.nodup_append.1 (sound.recorded.nodup sound.once)).1
  calc
    s.visited.length = s.visited.toFinset.card := (List.toFinset_card_of_nodup distinct).symm
    _ = (s.visited.toFinset : Set Path).ncard := (Set.ncard_coe_finset _).symm
    _ ≤ {path | g.IsPath path}.ncard := by
      refine Set.ncard_le_ncard (fun path mem => ?_) (finite_isPath closed)
      exact sound.simple path (pushed path (List.mem_toFinset.1 mem))

/-- How many steps an exploration still has at most. -/
noncomputable def remaining (g : CallGraph) (s : Exploration) : Nat :=
  {path | g.IsPath path}.ncard - s.visited.length + s.entries.length

theorem Step.counts (step : Step g maxLength limit s next) :
    next.visited.length = s.visited.length ∧ next.entries.length + 1 = s.entries.length ∨
      next.visited.length = s.visited.length + 1 ∧ next.entries.length = s.entries.length := by
  cases step with
  | enter empty more => exact .inl ⟨rfl, by rw [more]; rfl⟩
  | finish top _ => exact .inr ⟨rfl, rfl⟩
  | extend top _ => exact .inr ⟨rfl, rfl⟩

theorem IsSound.remaining_lt (sound : IsSound g s) (closed : g.Closed)
    (h : s.step? g maxLength limit = some next) : next.remaining g < s.remaining g := by
  have bound := (sound.of_step? closed h).length_visited_le closed
  have counts := (sound.step_of_step? closed h).2.counts
  unfold remaining
  omega

theorem IsSound.exists_last (sound : IsSound g s) (closed : g.Closed) (maxLength limit : Nat) :
    ∃ last, StateTransition.Reaches (step? g maxLength limit) s last ∧
      last.step? g maxLength limit = none := by
  induction size : s.remaining g using Nat.strong_induction_on generalizing s with
  | _ n ih =>
    cases h : s.step? g maxLength limit with
    | none => exact ⟨s, .refl, h⟩
    | some next =>
      obtain ⟨last, reaches, ended⟩ :=
        ih _ (size ▸ sound.remaining_lt closed h) (sound.of_step? closed h) rfl
      exact ⟨last, .head h reaches, ended⟩

def outcome (g : CallGraph) (maxLength limit : Nat) (s : Exploration) : List Path :=
  if s.isFull then s.found.reverse
  else g.finishedPaths maxLength limit s.found (s.stack ++ s.entries.map fun entry => [entry])

theorem IsSound.outcome_eq (sound : IsSound g s) (closed : g.Closed)
    (h : s.step? g maxLength limit = some next) :
    next.outcome g maxLength limit = s.outcome g maxLength limit := by
  obtain ⟨notFull, step⟩ := sound.step_of_step? closed h
  unfold outcome
  rw [notFull, if_neg Bool.false_ne_true]
  cases step with
  | enter empty more =>
    rw [empty, more]
    exact if_neg (ne_true_of_eq_false notFull)
  | finish top finished =>
    rw [top, List.cons_append, CallGraph.finishedPaths_finished finished, finish_eq sound top]
    simp only [decide_eq_true_eq]
    rfl
  | extend top unfinished =>
    rw [top, List.cons_append, CallGraph.finishedPaths_extended unfinished, ← List.append_assoc]
    exact if_neg (ne_true_of_eq_false notFull)

theorem outcome_eq_found (h : s.step? g maxLength limit = none) :
    s.outcome g maxLength limit = s.found.reverse := by
  unfold outcome
  split
  · rfl
  · rename_i notFull
    unfold step? at h
    rw [if_neg notFull] at h
    split at h
    · rename_i empty none
      rw [empty, none]
      unfold CallGraph.finishedPaths
      rfl
    · cases h
    · split at h
      · cases h
      · split at h <;> cases h

/-- Between two states of an exploration the outcome does not change. -/
theorem outcome_of_reaches (closed : g.Closed)
    (h : StateTransition.Reaches (step? g maxLength limit) (start g) s) :
    s.outcome g maxLength limit = (start g).outcome g maxLength limit := by
  induction h with
  | refl => rfl
  | tail before step ih =>
    exact ((isSound_of_reaches closed before).outcome_eq closed step).trans ih

theorem IsSound.isPath_of_mem_found (sound : IsSound g s) (mem : path ∈ s.found) : g.IsPath path :=
  sound.simple path
    (sound.recorded.mem_iff.2 (List.mem_append_left s.stack (sound.found_visited mem)))

/-- What an exploration has found at its end is the enumeration, none of it refused. -/
theorem enumerate_ids_of_reaches (closed : g.Closed)
    (h : StateTransition.Reaches (step? g maxLength limit) (start g) s)
    (ended : s.step? g maxLength limit = none) :
    (g.enumerate maxLength limit).map (·.ids) = s.found.reverse := by
  have found : s.found.reverse
      = g.finishedPaths maxLength limit [] (g.entryPoints.ids.map fun id => [id]) :=
    (outcome_eq_found ended).symm.trans (outcome_of_reaches closed h)
  simp only [CallGraph.enumerate, ← found]
  refine CallGraph.filterMap_ofList?_ids fun path mem => ?_
  have isPath := (isSound_of_reaches closed h).isPath_of_mem_found (List.mem_reverse.1 mem)
  exact ⟨isPath.ne_nil, isPath.simple⟩

/-- Between any two steps an exploration has pushed paths of the graph from the entry points, each
    of them once, and has taken off no more of them than there are; a finished path on the top was
    not found before, and it is a chain. The exploration ends, with the enumeration found. -/
theorem start_terminates (built : g.Built) (maxLength limit : Nat) :
    {path | g.IsPath path}.Finite ∧
    (∀ s, StateTransition.Reaches (step? g maxLength limit) (start g) s →
      IsSound g s ∧ s.visited.length ≤ {path | g.IsPath path}.ncard ∧
      ∀ path ∈ s.stack.head?, g.extensions maxLength path = [] →
        path ∉ s.found ∧ (Chain.ofList? path).isSome) ∧
    ∃ last ∈ StateTransition.eval (step? g maxLength limit) (start g),
      (g.enumerate maxLength limit).map (·.ids) = last.found.reverse := by
  have closed := built.closed
  refine ⟨finite_isPath closed, fun s reaches => ?_, ?_⟩
  · have sound := isSound_of_reaches closed reaches
    refine ⟨sound, sound.length_visited_le closed, fun path head _ => ?_⟩
    obtain ⟨stack, top⟩ := List.head?_eq_some_iff.1 head
    have isPath := sound.simple path (sound.pushed_of_top top)
    refine ⟨sound.not_found_of_top top, Option.isSome_iff_exists.2 ?_⟩
    exact ⟨⟨path, isPath.ne_nil, isPath.simple⟩, Chain.ofList?_eq_some_iff.2 rfl⟩
  · obtain ⟨last, reaches, ended⟩ := (isSound_start g).exists_last closed maxLength limit
    exact ⟨last, StateTransition.mem_eval.2 ⟨reaches, ended⟩,
      enumerate_ids_of_reaches closed reaches ended⟩

theorem start_terminates_circular : CallGraph.circularGraph.Built ∧
    ∃ last ∈ StateTransition.eval (step? CallGraph.circularGraph (2 ^ 64 - 1) 100)
        (start CallGraph.circularGraph),
      last.found.reverse
        = [["emit", "main", "parse"], ["main", "emit"], ["main", "parse", "emit"]] ∧
      IsSound CallGraph.circularGraph last ∧
      last.visited.length ≤ {path | CallGraph.circularGraph.IsPath path}.ncard := by
  obtain ⟨-, between, last, ended, enumerated⟩ :=
    start_terminates CallGraph.circularGraph_built (2 ^ 64 - 1) 100
  have paths : (CallGraph.circularGraph.enumerate (2 ^ 64 - 1) 100).map (·.ids)
      = [["emit", "main", "parse"], ["main", "emit"], ["main", "parse", "emit"]] := by
    decide +kernel
  obtain ⟨sound, few, -⟩ := between last (StateTransition.mem_eval.1 ended).1
  exact ⟨CallGraph.circularGraph_built, last, ended, enumerated.symm.trans paths, sound, few⟩

end Exploration
end CodeReading
