import CodeReading.Proofs.Files.Path
import CodeReading.Proofs.Files.Sources
import CodeReading.Proofs.Files.Walk

set_option autoImplicit false

namespace CodeReading.Files

namespace Tree

variable {tree left right : Tree} {root path : String} {base place : ResolvedPath}

theorem spelledSize_append (place below : ResolvedPath) :
    spelledSize (place ++ below) = spelledSize place + spelledSize below := by
  induction place with
  | nil => exact (Nat.zero_add _).symm
  | cons name place ih =>
    rw [List.cons_append, spelledSize, ih, spelledSize]
    exact (Nat.add_assoc _ _ _).symm

theorem spelledSize_replicate (count : Nat) (name : String) :
    spelledSize (List.replicate count name) = count * (1 + name.utf8ByteSize) := by
  induction count with
  | zero => exact (Nat.zero_mul _).symm
  | succ count ih =>
    rw [List.replicate_succ, spelledSize, ih, Nat.succ_mul, Nat.add_comm]

/-- Whether every place of a tree can be spelled. -/
def IsNameable (tree : Tree) : Prop :=
  ∀ place, (tree.entryAt? place).isSome → spelledSize place ≤ pathLimit

theorem IsNameable.alike (nameable : tree.IsNameable) : Alike tree.nameable tree := by
  refine ⟨rfl, fun place => ?_⟩
  rw [entryAt?_nameable]
  split
  · rfl
  · rename_i long
    cases found : tree.entryAt? place with
    | none => rfl
    | some entry => exact absurd (nameable place (by rw [found]; rfl)) long

theorem IsNameable.resolve_eq (nameable : tree.IsNameable) (path : String) :
    tree.resolve path = (tree.locate false path).toOption := by
  unfold Tree.resolve
  rw [nameable.alike.locate]

theorem exists_locate_root (below : root ≠ "") (nonempty : path ≠ "")
    (h : tree.locate false (join root path) = .ok place) :
    ∃ base, tree.locate false root = .ok base := by
  have joined : join root path ≠ "" := join_ne_empty below path
  unfold locate at h ⊢
  rw [if_neg joined] at h
  split at h
  · cases h
  rename_i short
  have rootShort : ¬pathLimit < root.utf8ByteSize := by
    have := size_le_join root path
    omega
  rw [if_neg below, if_neg rootShort]
  rw [components_join below nonempty, isAbsolute_join below] at h
  obtain ⟨error, fails⟩ | ⟨base, links, goes⟩ := walk_append (names root)
  · rw [fails] at h
    cases h
  · rw [goes] at h
    obtain ⟨name, names, split⟩ := List.exists_cons_of_ne_nil (components_ne_nil nonempty)
    rw [split] at h
    have directory := directory_of_walk h
    refine ⟨base, ?_⟩
    rw [components, goes]
    split
    · exact walk_slash directory
    · exact walk_nil

/-- A source text was read at or below the resolved root. -/
theorem confined_of_sourceText? (nameable : tree.IsNameable) (below : root ≠ "") {text : String}
    (h : tree.sourceText? root path = some text) :
    ∃ base place, tree.locate false root = .ok base ∧
      tree.locate false (join root path) = .ok place ∧ base <+: place ∧
      tree.textAt place = .ok text := by
  unfold sourceText? at h
  split at h
  · cases h
  rename_i accepted
  have nonempty : path ≠ "" := fun empty => accepted (.inl empty)
  split at h
  · cases h
  rename_i inside
  unfold readText at h
  cases located : tree.locate false (join root path) with
  | error error =>
    rw [located] at h
    cases h
  | ok place =>
    obtain ⟨base, rooted⟩ := exists_locate_root below nonempty located
    rw [nameable.resolve_eq, nameable.resolve_eq, rooted, located] at inside
    have within : base <+: place := by simpa [liesOutside, Except.toOption] using inside
    rw [located] at h
    change (tree.textAt place).toOption = some text at h
    refine ⟨base, place, rooted, rfl, within, ?_⟩
    cases read : tree.textAt place with
    | error error =>
      rw [read] at h
      cases h
    | ok contents =>
      rw [read] at h
      rw [Option.some.inj h]

/-- A path that cannot be resolved is read all the same. -/
theorem sourceText?_of_unresolved (nonempty : path ≠ "") (confined : isConfined path = true)
    (unresolved : tree.resolve (join root path) = none) :
    tree.sourceText? root path = (tree.readText (join root path)).toOption := by
  have accepted : ¬(path = "" ∨ (!isConfined path) = true) := by simp [nonempty, confined]
  have unseen : liesOutside (tree.resolve root) none = false := by
    unfold liesOutside
    split <;> simp_all
  rw [sourceText?, if_neg accepted, unresolved, unseen]
  rfl

theorem isNameable_of_entries (short : ∀ entry ∈ tree.entries, spelledSize entry.1 ≤ pathLimit) :
    tree.IsNameable := by
  intro place found
  unfold entryAt? at found
  split at found
  · rename_i root
    rw [root]
    exact Nat.zero_le _
  · obtain ⟨entry, mem, same⟩ := List.lookup_isSome_iff.1 found
    rw [eq_of_beq same]
    exact short entry mem

/-- Whether two trees differ at most in what is in files outside a resolved root, other than those
    at some paths. -/
structure AgreeBelow (left right : Tree) (root : String) (paths : List String) : Prop
    extends Alike left right where
  below : ∀ base place, left.locate false root = .ok base → base <+: place →
    left.entryAt? place = right.entryAt? place
  along : ∀ path ∈ paths, ∀ place, left.locate false path = .ok place →
    left.entryAt? place = right.entryAt? place

variable {paths : List String} {g : CallGraph}

theorem agreeBelow_put {old new : ByteArray} (file : tree.entryAt? place = some (.file old))
    (outside : ∀ base, tree.locate false root = .ok base → ¬base <+: place)
    (apart : ∀ path ∈ paths, tree.locate false path ≠ .ok place) :
    AgreeBelow tree (tree.put place (.file new)) root paths := by
  have below : place ≠ [] := by
    rintro rfl
    cases file
  refine ⟨⟨rfl, fun other => ?_⟩, ?_, ?_⟩
  · by_cases here : other = place
    · rw [here, entryAt?_put_self below, file]
      rfl
    · rw [entryAt?_put_of_ne here]
  · intro base other rooted within
    refine (entryAt?_put_of_ne ?_).symm
    rintro rfl
    exact outside base rooted within
  · intro path mem other located
    refine (entryAt?_put_of_ne ?_).symm
    rintro rfl
    exact apart path mem located

theorem Alike.isNameable (alike : Alike left right) (nameable : left.IsNameable) :
    right.IsNameable := by
  intro place found
  apply nameable
  have same := congrArg Option.isSome (alike.shape place)
  rw [Option.isSome_map, Option.isSome_map] at same
  rw [same]
  exact found

theorem textAt_congr (h : left.entryAt? place = right.entryAt? place) :
    left.textAt place = right.textAt place := by
  unfold textAt
  rw [h]

theorem AgreeBelow.readText (agree : AgreeBelow left right root paths) (mem : path ∈ paths) :
    left.readText path = right.readText path := by
  unfold Tree.readText
  rw [← agree.locate]
  cases located : left.locate false path with
  | error error => rfl
  | ok place => exact textAt_congr (agree.along path mem place located)

theorem AgreeBelow.sourceText? (agree : AgreeBelow left right root paths)
    (nameable : left.IsNameable) (below : root ≠ "") (path : String) :
    left.sourceText? root path = right.sourceText? root path := by
  have resolved : ∀ path, right.resolve path = left.resolve path := by
    intro path
    rw [nameable.resolve_eq, (agree.isNameable nameable).resolve_eq, agree.locate]
  unfold Tree.sourceText?
  rw [resolved, resolved]
  split
  · rfl
  rename_i accepted
  have nonempty : path ≠ "" := fun empty => accepted (.inl empty)
  split
  · rfl
  rename_i inside
  unfold Tree.readText
  rw [← agree.locate]
  cases located : left.locate false (join root path) with
  | error error => rfl
  | ok place =>
    obtain ⟨base, rooted⟩ := exists_locate_root below nonempty located
    rw [nameable.resolve_eq, nameable.resolve_eq, rooted, located] at inside
    have within : base <+: place := by simpa [liesOutside, Except.toOption] using inside
    exact congrArg Except.toOption (textAt_congr (agree.below base place rooted within))

theorem AgreeBelow.source (agree : AgreeBelow left right root paths)
    (nameable : left.IsNameable) (below : root ≠ "") :
    left.source root g = right.source root g := by
  simp only [Tree.source, agree.sourceText? nameable below]

end Tree
end CodeReading.Files
