import CodeReading.Files.Tree
import CodeReading.Proofs.Outcome

set_option autoImplicit false

namespace CodeReading.Files

theorem lookup_filter_key {α β : Type} [BEq α] [LawfulBEq α] (keep : α → Bool)
    (entries : List (α × β)) (key : α) :
    (entries.filter fun entry => keep entry.1).lookup key
      = if keep key then entries.lookup key else none := by
  induction entries with
  | nil => simp
  | cons entry entries ih =>
    obtain ⟨first, value⟩ := entry
    rw [List.filter_cons, List.lookup_cons]
    by_cases same : key = first
    · subst same
      by_cases kept : keep key = true
      · simp [kept]
      · simpa [kept] using ih
    · have different : (key == first) = false := beq_false_of_ne same
      by_cases kept : keep first = true
      · simpa [kept, List.lookup_cons, different] using ih
      · simpa [kept, different] using ih

/-- The entry without the contents of a file. -/
def Entry.shape : Entry → Entry
  | .file _ => .file .empty
  | .directory => .directory
  | .link target => .link target

namespace Tree

variable {tree left right : Tree} {create : Bool} {links : Nat} {here place other : ResolvedPath}
  {path : List String} {entry : Entry}

theorem entryAt?_put_self (below : place ≠ []) :
    (tree.put place entry).entryAt? place = some entry := by
  simp [entryAt?, put, below]

theorem entryAt?_put_of_ne (apart : other ≠ place) :
    (tree.put place entry).entryAt? other = tree.entryAt? other := by
  have different : (other == place) = false := beq_false_of_ne apart
  unfold entryAt?
  split
  · rfl
  · change List.lookup other ((place, entry) :: _) = _
    rw [List.lookup_cons, different]
    change List.lookup other (tree.entries.filter fun entry => entry.1 != place) = _
    rw [lookup_filter_key (· != place), if_pos (bne_iff_ne.2 apart)]

theorem entryAt?_of_mem (below : place ≠ [])
    (mem : (place, entry) ∈ tree.entries)
    (only : ∀ other, (place, other) ∈ tree.entries → other = entry) :
    tree.entryAt? place = some entry := by
  unfold entryAt?
  rw [if_neg below]
  cases found : tree.entries.lookup place with
  | none =>
    have absent := List.lookup_eq_none_iff.1 found _ mem
    simp at absent
  | some other =>
    obtain ⟨before, after, split, -⟩ := List.lookup_eq_some_iff.1 found
    rw [only other (by simp [split])]

theorem entryAt?_nameable (place : ResolvedPath) :
    tree.nameable.entryAt? place
      = if spelledSize place ≤ pathLimit then tree.entryAt? place else none := by
  unfold entryAt? nameable
  by_cases root : place = []
  · subst root
    rfl
  · rw [if_neg root, if_neg root]
    change List.lookup place (tree.entries.filter fun entry =>
      decide (spelledSize entry.1 ≤ pathLimit)) = _
    rw [lookup_filter_key fun place => decide (spelledSize place ≤ pathLimit)]
    simp

/-- One step of a walk, from a place past a name that others follow: the links that are left, the
    place reached, and the names of a link, which come before the others. -/
def pass (create : Bool) (links : Nat) (here : ResolvedPath) (name : String) (names : List String)
    (atHere found : Option Entry) : Except FileError (Nat × ResolvedPath × List String) :=
  match atHere with
  | some .directory =>
    if name = "" ∨ name = "." then .ok (links, here, [])
    else if name = ".." then .ok (links, here.dropLast, [])
    else if create ∧ names = [""] then .error .isADirectory
    else if nameLimit < name.utf8ByteSize then .error .nameTooLong
    else
      match found with
      | some (.link target) =>
        match links with
        | 0 => .error .tooManyLinks
        | links + 1 => .ok (links, if isAbsolute target then [] else here, components target)
      | some _ => .ok (links, here ++ [name], [])
      | none => if create ∧ names = [] then .ok (links, here ++ [name], []) else .error .notFound
  | some _ => .error .notADirectory
  | none => .error .notFound

def step (tree : Tree) (create : Bool) (links : Nat) (here : ResolvedPath) (name : String)
    (names : List String) : Except FileError (Nat × ResolvedPath × List String) :=
  pass create links here name names (tree.entryAt? here) (tree.entryAt? (here ++ [name]))

variable {name : String} {names : List String} {next : Nat × ResolvedPath × List String}

theorem walk_nil : tree.walk create links here [] = .ok here := by
  rw [walk]

theorem walk_cons :
    tree.walk create links here (name :: names) = (tree.step create links here name names).bind
      fun next => tree.walk create next.1 next.2.1 (next.2.2 ++ names) := by
  rw [walk, step]
  generalize tree.entryAt? here = atHere
  generalize tree.entryAt? (here ++ [name]) = found
  rcases atHere with _ | bytes | _ | target
  case none | some.file | some.link => rfl
  simp only [pass]
  by_cases stays : name = "" ∨ name = "."
  · rw [if_pos stays, if_pos stays]
    rfl
  rw [if_neg stays, if_neg stays]
  by_cases rises : name = ".."
  · rw [if_pos rises, if_pos rises]
    rfl
  rw [if_neg rises, if_neg rises]
  by_cases asks : create ∧ names = [""]
  · rw [if_pos asks, if_pos asks]
    rfl
  rw [if_neg asks, if_neg asks]
  by_cases long : nameLimit < name.utf8ByteSize
  · rw [if_pos long, if_pos long]
    rfl
  rw [if_neg long, if_neg long]
  rcases found with _ | bytes | _ | target
  case some.file | some.directory => rfl
  case some.link => cases links <;> rfl
  by_cases new : create ∧ names = []
  · dsimp only
    rw [if_pos new, if_pos new, new.2]
    exact walk_nil.symm
  · dsimp only
    rw [if_neg new, if_neg new]
    rfl

/-- A step follows a link or leaves the names as they are. -/
theorem lt_of_step (h : tree.step create links here name names = .ok next) :
    next.1 < links ∨ next.1 = links ∧ next.2.2 = [] := by
  unfold step pass at h
  repeat' split at h
  all_goals cases h
  all_goals simp

theorem pass_eq_ok_directory {atHere found : Option Entry}
    (h : pass create links here name names atHere found = .ok next) :
    atHere = some .directory := by
  rcases atHere with _ | _ | _ | _
  case some.directory => rfl
  all_goals cases h

theorem walk_induct (tree : Tree) (create : Bool)
    {motive : Nat → ResolvedPath → List String → Prop}
    (nil : ∀ links here, motive links here [])
    (fail : ∀ links here name names error,
      tree.step create links here name names = .error error → motive links here (name :: names))
    (move : ∀ links here name names next, tree.step create links here name names = .ok next →
      motive next.1 next.2.1 (next.2.2 ++ names) → motive links here (name :: names))
    (links : Nat) (here : ResolvedPath) (path : List String) : motive links here path := by
  induction links using Nat.strongRecOn generalizing here path with
  | ind links fewer =>
    induction path generalizing here with
    | nil => exact nil links here
    | cons name names ih =>
      cases stepped : tree.step create links here name names with
      | error error => exact fail links here name names error stepped
      | ok next =>
        refine move links here name names next stepped ?_
        obtain followed | ⟨same, plain⟩ := lt_of_step stepped
        · exact fewer _ followed _ _
        · rw [same, plain]
          exact ih _

/-- Whether two trees have the same directories, links and files, whatever is in the files. -/
structure Alike (left right : Tree) : Prop where
  workingDirectory : left.workingDirectory = right.workingDirectory
  shape : ∀ place, (left.entryAt? place).map Entry.shape = (right.entryAt? place).map Entry.shape

theorem map_shape_eq_directory {entry : Option Entry} :
    entry.map Entry.shape = some .directory ↔ entry = some .directory := by
  rcases entry with _ | _ | _ | _ <;> simp [Entry.shape]

theorem Alike.directory_iff (alike : Alike left right) :
    left.entryAt? place = some .directory ↔ right.entryAt? place = some .directory := by
  rw [← map_shape_eq_directory, alike.shape, map_shape_eq_directory]

theorem pass_shape (atHere found : Option Entry) :
    pass create links here name names (atHere.map Entry.shape) (found.map Entry.shape)
      = pass create links here name names atHere found := by
  rcases atHere with _ | _ | _ | _ <;> rcases found with _ | _ | _ | _ <;> rfl

theorem Alike.step (alike : Alike left right) :
    left.step create links here name names = right.step create links here name names := by
  unfold Tree.step
  rw [← pass_shape, alike.shape, alike.shape, pass_shape]

theorem Alike.walk (alike : Alike left right) :
    left.walk create links here path = right.walk create links here path := by
  induction links, here, path using walk_induct left create with
  | nil links here => rw [walk_nil, walk_nil]
  | fail links here name names error stepped =>
    rw [walk_cons, walk_cons, ← alike.step, stepped]
    rfl
  | move links here name names next stepped ih =>
    rw [walk_cons, walk_cons, ← alike.step, stepped]
    exact ih

theorem Alike.locate (alike : Alike left right) (path : String) :
    left.locate create path = right.locate create path := by
  unfold Tree.locate
  rw [alike.workingDirectory, alike.walk]

theorem step_false (names others : List String) :
    tree.step false links here name names = tree.step false links here name others := by
  simp [step, pass]

/-- A walk along the first part of a path fails, whatever comes after it, or goes on from the end of
    that part. -/
theorem walk_append (first : List String) :
    (∃ error, ∀ second, tree.walk false links here (first ++ second) = .error error) ∨
    ∃ base rest, ∀ second,
      tree.walk false links here (first ++ second) = tree.walk false rest base second := by
  induction links, here, first using walk_induct tree false with
  | nil links here => exact .inr ⟨here, links, fun _ => rfl⟩
  | fail links here name names error stepped =>
    refine .inl ⟨error, fun second => ?_⟩
    rw [List.cons_append, walk_cons, step_false _ names, stepped]
    rfl
  | move links here name names next stepped ih =>
    have onward : ∀ second, tree.walk false links here (name :: names ++ second)
        = tree.walk false next.1 next.2.1 (next.2.2 ++ names ++ second) := by
      intro second
      rw [List.cons_append, walk_cons, step_false _ names, stepped, List.append_assoc]
      rfl
    simpa only [onward] using ih

structure IsPlain (name : String) : Prop where
  named : name ∉ ["", ".", ".."]
  short : name.utf8ByteSize ≤ nameLimit

theorem isPlain_of_long (long : 2 < name.utf8ByteSize) (short : name.utf8ByteSize ≤ nameLimit) :
    IsPlain name where
  named := by
    have sizes : ∀ special ∈ ["", ".", ".."], special.utf8ByteSize ≤ 2 := by decide
    exact fun mem => absurd (sizes name mem) (Nat.not_le.2 long)
  short := short

theorem IsPlain.ne_empty (plain : IsPlain name) : name ≠ "" := fun empty =>
  plain.named (by simp [empty])

theorem step_of_isPlain (plain : IsPlain name) (atHere : tree.entryAt? here = some .directory) :
    tree.step false links here name names = match tree.entryAt? (here ++ [name]) with
      | some (.link target) =>
        match links with
        | 0 => .error .tooManyLinks
        | links + 1 => .ok (links, if isAbsolute target then [] else here, components target)
      | some _ => .ok (links, here ++ [name], [])
      | none => .error .notFound := by
  have named := plain.named
  simp only [List.mem_cons, List.not_mem_nil, or_false, not_or] at named
  have stays : ¬(name = "" ∨ name = ".") := not_or.2 ⟨named.1, named.2.1⟩
  have short : ¬nameLimit < name.utf8ByteSize := Nat.not_lt.2 plain.short
  simp only [step, pass, atHere, if_neg stays, if_neg named.2.2, if_neg short]
  simp

theorem walk_entry (plain : IsPlain name) (atHere : tree.entryAt? here = some .directory)
    (found : tree.entryAt? (here ++ [name]) = some entry)
    (noLink : ∀ target, entry ≠ .link target) :
    tree.walk false links here (name :: names) = tree.walk false links (here ++ [name]) names := by
  rw [walk_cons, step_of_isPlain plain atHere, found]
  cases entry with
  | file bytes => rfl
  | directory => rfl
  | link target => exact absurd rfl (noLink target)

theorem walk_link {target : String} (plain : IsPlain name)
    (atHere : tree.entryAt? here = some .directory)
    (found : tree.entryAt? (here ++ [name]) = some (.link target)) :
    tree.walk false (links + 1) here (name :: names)
      = tree.walk false links (if isAbsolute target then [] else here)
        (components target ++ names) := by
  rw [walk_cons, step_of_isPlain plain atHere, found]
  rfl

theorem walk_missing (plain : IsPlain name) (atHere : tree.entryAt? here = some .directory)
    (missing : tree.entryAt? (here ++ [name]) = none) :
    tree.walk false links here (name :: names) = .error .notFound := by
  rw [walk_cons, step_of_isPlain plain atHere, missing]
  rfl

theorem walk_replicate (plain : IsPlain name) (count : Nat) (atHere : ∀ i ≤ count,
      tree.entryAt? (here ++ List.replicate i name) = some .directory) :
    tree.walk false links here (List.replicate count name ++ path)
      = tree.walk false links (here ++ List.replicate count name) path := by
  induction count generalizing path with
  | zero => simp
  | succ count ih =>
    have inner := atHere (count + 1) (Nat.le_refl _)
    rw [List.replicate_succ', ← List.append_assoc] at inner
    rw [List.replicate_succ', List.append_assoc, List.singleton_append,
      ih fun i le => atHere i (Nat.le_succ_of_le le),
      walk_entry plain (atHere count (Nat.le_succ _)) inner nofun, List.append_assoc]

theorem locate_relative {whole : String} {parts : List String} (nonempty : whole ≠ "")
    (short : whole.utf8ByteSize ≤ pathLimit) (relative : isAbsolute whole = false)
    (split : components whole = parts) :
    tree.locate create whole = tree.walk create linkLimit tree.workingDirectory parts := by
  unfold Tree.locate
  rw [if_neg nonempty, if_neg (Nat.not_lt.2 short), relative, split]
  rfl

theorem directory_of_walk (h : tree.walk create links here (name :: names) = .ok place) :
    tree.entryAt? here = some .directory := by
  rw [walk_cons] at h
  obtain ⟨next, stepped, -⟩ := bind_eq_ok_iff.1 h
  exact pass_eq_ok_directory stepped

theorem walk_slash (atHere : tree.entryAt? here = some .directory) :
    tree.walk create links here [""] = .ok here := by
  rw [walk_cons, step, atHere]
  exact walk_nil

theorem writeText_error {path text : String} {error : FileError}
    (located : tree.locate true path = .error error) :
    tree.writeText path text = .error error := by
  unfold Tree.writeText
  rw [located]

theorem writeText_directory {path text : String} (located : tree.locate true path = .ok place)
    (directory : tree.entryAt? place = some .directory) :
    tree.writeText path text = .error .isADirectory := by
  unfold Tree.writeText
  rw [located]
  simp only [directory]

theorem writeText_put {path text : String} (located : tree.locate true path = .ok place)
    (noDirectory : tree.entryAt? place ≠ some .directory) :
    tree.writeText path text = .ok (tree.put place (.file text.toUTF8)) := by
  unfold Tree.writeText
  rw [located]
  rcases found : tree.entryAt? place with _ | _ | _ | _
  case some.directory => exact absurd found noDirectory
  all_goals simp only [found]

/-- Whether a path leads to a file, old or new. -/
structure IsWritable (tree : Tree) (path : String) (place : ResolvedPath) : Prop where
  located : tree.locate true path = .ok place
  file : ∀ entry, tree.entryAt? place = some entry → ∃ bytes, entry = .file bytes

theorem IsWritable.below {path : String} (h : tree.IsWritable path place) : place ≠ [] := by
  rintro rfl
  obtain ⟨bytes, eq⟩ := h.file .directory rfl
  cases eq

theorem pass_of_create {atHere found : Option Entry}
    (h : pass true links here name names atHere found = .ok next) :
    pass false links here name names atHere found = .ok next ∨
      names = [] ∧ next = (links, here ++ [name], []) := by
  cases pass_eq_ok_directory h
  rcases found with _ | bytes | _ | target
  case none =>
    simp only [pass] at h ⊢
    grind
  all_goals
    simp only [pass] at h ⊢
    grind

theorem pass_file {atHere found : Option Entry} {bytes : ByteArray}
    (h : pass true links here name names atHere found = .ok next)
    (file : ∀ entry, found = some entry → ∃ bytes, entry = .file bytes) :
    pass false links here name names atHere (some (.file bytes)) = .ok next := by
  cases pass_eq_ok_directory h
  rcases found with _ | old | _ | target
  case none =>
    simp only [pass] at h ⊢
    grind
  case some.file =>
    simp only [pass] at h ⊢
    grind
  case some.directory =>
    obtain ⟨_, eq⟩ := file _ rfl
    cases eq
  case some.link =>
    obtain ⟨_, eq⟩ := file _ rfl
    cases eq

theorem walk_put {bytes : ByteArray} (below : place ≠ [])
    (file : ∀ entry, tree.entryAt? place = some entry → ∃ bytes, entry = .file bytes)
    (h : tree.walk true links here path = .ok place) :
    (tree.put place (.file bytes)).walk false links here path = .ok place := by
  induction links, here, path using walk_induct tree true with
  | nil links here =>
    rw [walk_nil] at h ⊢
    exact h
  | fail links here name names error stepped =>
    rw [walk_cons, stepped] at h
    cases h
  | move links here name names next stepped ih =>
    rw [walk_cons, stepped] at h
    have atHere := pass_eq_ok_directory stepped
    -- The walk is in a directory, so it meets the new file only where it arrives.
    have away : here ≠ place := by
      rintro rfl
      obtain ⟨bytes, eq⟩ := file _ atHere
      cases eq
    have again : (tree.put place (.file bytes)).step false links here name names = .ok next := by
      unfold step
      rw [entryAt?_put_of_ne away]
      by_cases arrives : here ++ [name] = place
      · subst arrives
        rw [entryAt?_put_self below]
        exact pass_file stepped file
      · rw [entryAt?_put_of_ne arrives]
        obtain reached | ⟨rfl, rfl⟩ := pass_of_create stepped
        · exact reached
        · change tree.walk true links (here ++ [name]) [] = .ok place at h
          rw [walk_nil] at h
          exact absurd (Except.ok.inj h) arrives
    rw [walk_cons, again]
    exact ih h

theorem IsWritable.writeText {path : String} (h : tree.IsWritable path place) (text : String) :
    tree.writeText path text = .ok (tree.put place (.file text.toUTF8)) := by
  refine writeText_put h.located fun directory => ?_
  obtain ⟨bytes, eq⟩ := h.file .directory directory
  cases eq

theorem fromUTF8?_toUTF8 (text : String) : String.fromUTF8? text.toUTF8 = some text :=
  dif_pos text.isValidUTF8

theorem IsWritable.readText_put {path : String} (h : tree.IsWritable path place) (text : String) :
    (tree.put place (.file text.toUTF8)).readText path = .ok text := by
  have located : (tree.put place (.file text.toUTF8)).locate false path = .ok place := by
    have created := h.located
    unfold locate at created ⊢
    split at created
    · cases created
    · rename_i nonempty
      rw [if_neg nonempty]
      split at created
      · cases created
      · rename_i short
        rw [if_neg short]
        exact walk_put h.below h.file created
  unfold readText
  rw [located]
  change textAt _ place = _
  unfold textAt
  rw [entryAt?_put_self h.below]
  simp only [fromUTF8?_toUTF8]

end Tree
end CodeReading.Files
