import CodeReading.Files.Path

set_option autoImplicit false

namespace CodeReading.Files

variable {directory path : String}

theorem splitSlashesFrom_append (piece first second : List Char) :
    splitSlashesFrom piece (first ++ '/' :: second)
      = splitSlashesFrom piece first ++ splitSlashesFrom [] second := by
  induction first generalizing piece with
  | nil => simp [splitSlashesFrom]
  | cons c first ih =>
    by_cases slash : c = '/'
    · simp [splitSlashesFrom, slash, ih]
    · simp [splitSlashesFrom, slash, ih]

theorem splitSlashes_append (first second : String) :
    splitSlashes (first ++ "/" ++ second) = splitSlashes first ++ splitSlashes second := by
  have chars : (first ++ "/" ++ second).toList = first.toList ++ '/' :: second.toList := by simp
  unfold splitSlashes
  rw [chars, splitSlashesFrom_append]

theorem names_append (first second : String) :
    names (first ++ "/" ++ second) = names first ++ names second := by
  unfold names
  rw [splitSlashes_append, List.filter_append]

theorem eq_slash_of_no_names {piece text : List Char}
    (h : (splitSlashesFrom piece text).filter (· != "") = []) :
    piece = [] ∧ ∀ c ∈ text, c = '/' := by
  induction text generalizing piece with
  | nil =>
    simp [splitSlashesFrom] at h
    exact ⟨h, nofun⟩
  | cons c text ih =>
    by_cases slash : c = '/'
    · rw [splitSlashesFrom, if_pos slash, ← List.singleton_append, List.filter_append,
        List.append_eq_nil_iff] at h
      obtain ⟨-, rest⟩ := ih h.2
      refine ⟨by simpa using h.1, ?_⟩
      rintro d (_ | ⟨_, later⟩)
      · exact slash
      · exact rest d later
    · rw [splitSlashesFrom, if_neg slash] at h
      cases (ih h).1

theorem components_ne_nil (nonempty : path ≠ "") : components path ≠ [] := by
  intro none
  obtain ⟨noNames, noSlash⟩ := List.append_eq_nil_iff.1 none
  obtain ⟨-, slashes⟩ := eq_slash_of_no_names noNames
  cases last : path.toList.getLast? with
  | none => exact nonempty (by simpa using last)
  | some c =>
    rw [last, slashes c (List.mem_of_getLast? last)] at noSlash
    cases noSlash

theorem join_eq (below : directory ≠ "") (path : String) :
    ∃ start, join directory path = start ++ "/" ++ path ∧
      (directory = start ∨ directory = start ++ "/") := by
  unfold join
  by_cases slash : directory.toList.getLast? = some '/'
  · obtain ⟨start, split⟩ := List.getLast?_eq_some_iff.1 slash
    have eq : directory = String.ofList start ++ "/" := by
      rw [← String.toList_inj, split]
      simp
    rw [if_pos (.inr slash)]
    exact ⟨String.ofList start, by rw [← eq], .inr eq⟩
  · have apart : ¬(directory = "" ∨ directory.toList.getLast? = some '/') := by
      simp [below, slash]
    rw [if_neg apart]
    exact ⟨directory, rfl, .inl rfl⟩

theorem names_join (below : directory ≠ "") (path : String) :
    names (join directory path) = names directory ++ names path := by
  obtain ⟨start, eq, rfl | rfl⟩ := join_eq below path
  · rw [eq, names_append]
  · have again := names_append start ""
    rw [String.append_empty] at again
    rw [eq, names_append, again]
    simp [names, splitSlashes, splitSlashesFrom]

theorem components_join (below : directory ≠ "") (nonempty : path ≠ "") :
    components (join directory path) = names directory ++ components path := by
  obtain ⟨start, eq, -⟩ := join_eq below path
  have last : (join directory path).toList.getLast? = path.toList.getLast? := by
    cases split : path.toList.getLast? with
    | none => exact absurd (by simpa using split) nonempty
    | some c => simp [eq, List.getLast?_append, List.getLast?_cons, split]
  rw [components, names_join below, last, List.append_assoc]
  rfl

theorem isAbsolute_join (below : directory ≠ "") (path : String) :
    isAbsolute (join directory path) = isAbsolute directory := by
  have starts : directory.toList ≠ [] := by simpa using below
  obtain ⟨c, chars, split⟩ := List.exists_cons_of_ne_nil starts
  unfold isAbsolute join
  split <;> simp [split]

theorem size_le_join (directory path : String) :
    directory.utf8ByteSize ≤ (join directory path).utf8ByteSize := by
  unfold join
  split
  · rw [String.utf8ByteSize_append]
    exact Nat.le_add_right _ _
  · rw [String.utf8ByteSize_append, String.utf8ByteSize_append]
    omega

theorem size_join_le (directory path : String) :
    (join directory path).utf8ByteSize ≤ directory.utf8ByteSize + 1 + path.utf8ByteSize := by
  have slash : "/".utf8ByteSize = 1 := by decide
  unfold join
  split
  · rw [String.utf8ByteSize_append]
    omega
  · have size : (directory ++ "/" ++ path).utf8ByteSize
        = directory.utf8ByteSize + 1 + path.utf8ByteSize := by
      rw [String.utf8ByteSize_append, String.utf8ByteSize_append, slash]
    exact Nat.le_of_eq size

theorem join_ne_empty (below : directory ≠ "") (path : String) : join directory path ≠ "" := by
  intro empty
  have size := size_le_join directory path
  rw [empty] at size
  exact below (String.utf8ByteSize_eq_zero_iff.1 (Nat.le_zero.1 size))

theorem splitSlashesFrom_of_no_slash {piece text : List Char} (plain : '/' ∉ text) :
    splitSlashesFrom piece text = [String.ofList (piece.reverse ++ text)] := by
  induction text generalizing piece with
  | nil => simp [splitSlashesFrom]
  | cons c text ih =>
    rw [List.mem_cons, not_or] at plain
    rw [splitSlashesFrom, if_neg (Ne.symm plain.1), ih plain.2]
    simp

theorem splitSlashes_of_no_slash {name : String} (plain : '/' ∉ name.toList) :
    splitSlashes name = [name] := by
  unfold splitSlashes
  rw [splitSlashesFrom_of_no_slash plain]
  simp

theorem names_of_no_slash {name : String} (plain : '/' ∉ name.toList) (nonempty : name ≠ "") :
    names name = [name] := by
  unfold names
  rw [splitSlashes_of_no_slash plain]
  simp [nonempty]

theorem components_of_no_slash {name : String} (plain : '/' ∉ name.toList)
    (nonempty : name ≠ "") : components name = [name] := by
  have noSlash : name.toList.getLast? ≠ some '/' := fun last =>
    plain (List.mem_of_getLast? last)
  rw [components, names_of_no_slash plain nonempty, if_neg noSlash]
  rfl

end CodeReading.Files
