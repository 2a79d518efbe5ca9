set_option autoImplicit false

namespace CodeReading

abbrev NodeId := String

/-- Members are kept in strictly increasing order, so equal sets are equal lists. -/
structure IdSet where
  ids : List NodeId
  sorted : ids.Pairwise (· < ·)

namespace IdSet

def empty : IdSet := ⟨[], .nil⟩

instance : EmptyCollection IdSet := ⟨empty⟩

instance : Inhabited IdSet := ⟨empty⟩

instance : DecidableEq IdSet := fun s t =>
  if h : s.ids = t.ids then isTrue (by cases s; cases t; cases h; rfl)
  else isFalse fun eq => h (eq ▸ rfl)

instance : Repr IdSet := ⟨fun s n => reprPrec s.ids n⟩

instance : Membership NodeId IdSet := ⟨fun s id => id ∈ s.ids⟩

theorem mem_def {s : IdSet} {id : NodeId} : id ∈ s ↔ id ∈ s.ids := Iff.rfl

instance (id : NodeId) (s : IdSet) : Decidable (id ∈ s) :=
  inferInstanceAs (Decidable (id ∈ s.ids))

def isEmpty (s : IdSet) : Bool := s.ids.isEmpty

theorem isEmpty_iff {s : IdSet} : s.isEmpty = true ↔ s = ∅ := by
  cases s with
  | mk ids sorted =>
    cases ids with
    | nil => exact iff_of_true rfl rfl
    | cons id ids =>
      refine iff_of_false Bool.false_ne_true fun eq => ?_
      cases eq

theorem not_mem_empty (id : NodeId) : id ∉ (∅ : IdSet) := by
  rintro ⟨⟩

theorem ne_empty_of_mem {s : IdSet} {id : NodeId} (mem : id ∈ s) : s ≠ ∅ := by
  rintro rfl
  cases mem

def size (s : IdSet) : Nat := s.ids.length

def place (id : NodeId) : List NodeId → List NodeId
  | [] => [id]
  | other :: ids =>
    if id < other then id :: other :: ids
    else if id = other then other :: ids
    else other :: place id ids

theorem mem_place {id other : NodeId} {ids : List NodeId} :
    other ∈ place id ids ↔ other = id ∨ other ∈ ids := by
  induction ids with
  | nil => simp [place]
  | cons first ids ih =>
    simp only [place]
    split
    · simp
    · split
      · simp_all
      · simp [ih, or_left_comm]

theorem sorted_place {id : NodeId} {ids : List NodeId} (h : ids.Pairwise (· < ·)) :
    (place id ids).Pairwise (· < ·) := by
  induction ids with
  | nil => simp [place]
  | cons first ids ih =>
    rw [List.pairwise_cons] at h
    simp only [place]
    split
    · rename_i lt
      refine List.pairwise_cons.2 ⟨?_, List.pairwise_cons.2 h⟩
      intro other mem
      rcases List.mem_cons.1 mem with rfl | mem
      · exact lt
      · exact String.lt_trans lt (h.1 other mem)
    · split
      · exact List.pairwise_cons.2 h
      · rename_i nlt ne
        refine List.pairwise_cons.2 ⟨?_, ih h.2⟩
        intro other mem
        rcases mem_place.1 mem with rfl | mem
        · exact Std.lt_of_le_of_ne (Std.not_lt.1 nlt) fun eq => ne eq.symm
        · exact h.1 other mem

def insert (id : NodeId) (s : IdSet) : IdSet :=
  ⟨place id s.ids, sorted_place s.sorted⟩

def ofList (ids : List NodeId) : IdSet :=
  ids.foldl (fun s id => s.insert id) ∅

theorem mem_insert {id other : NodeId} {s : IdSet} :
    other ∈ s.insert id ↔ other = id ∨ other ∈ s :=
  mem_place

theorem mem_foldl_insert {ids : List NodeId} {s : IdSet} {id : NodeId} :
    id ∈ ids.foldl (fun s id => s.insert id) s ↔ id ∈ s ∨ id ∈ ids := by
  induction ids generalizing s with
  | nil => simp
  | cons first ids ih => simp only [List.foldl_cons, ih, mem_insert, List.mem_cons]; grind

theorem mem_ofList {ids : List NodeId} {id : NodeId} : id ∈ ofList ids ↔ id ∈ ids := by
  simp only [ofList, mem_foldl_insert]
  exact ⟨fun h => h.resolve_left (by simp [mem_def, EmptyCollection.emptyCollection, empty]), .inr⟩

def insertAll (ids : List NodeId) (s : IdSet) : IdSet :=
  ids.foldl (fun s id => s.insert id) s

theorem mem_insertAll {ids : List NodeId} {s : IdSet} {id : NodeId} :
    id ∈ s.insertAll ids ↔ id ∈ s ∨ id ∈ ids :=
  mem_foldl_insert

theorem eq_of_sorted {a b : List NodeId} (ha : a.Pairwise (· < ·)) (hb : b.Pairwise (· < ·))
    (h : ∀ id, id ∈ a ↔ id ∈ b) : a = b := by
  induction a generalizing b with
  | nil =>
    cases b with
    | nil => rfl
    | cons y b => exact absurd ((h y).2 (by simp)) (by simp)
  | cons x a ih =>
    cases b with
    | nil => exact absurd ((h x).1 (by simp)) (by simp)
    | cons y b =>
      rw [List.pairwise_cons] at ha hb
      have hxy : x = y := by
        rcases List.mem_cons.1 ((h x).1 (by simp)) with eq | hx
        · exact eq
        · rcases List.mem_cons.1 ((h y).2 (by simp)) with eq | hy
          · exact eq.symm
          · exact absurd (String.lt_trans (hb.1 x hx) (ha.1 y hy)) (String.lt_irrefl y)
      subst hxy
      congr 1
      refine ih ha.2 hb.2 fun id => ?_
      constructor
      · intro hid
        rcases List.mem_cons.1 ((h id).1 (List.mem_cons_of_mem _ hid)) with rfl | hid'
        · exact absurd (ha.1 id hid) (String.lt_irrefl id)
        · exact hid'
      · intro hid
        rcases List.mem_cons.1 ((h id).2 (List.mem_cons_of_mem _ hid)) with rfl | hid'
        · exact absurd (hb.1 id hid) (String.lt_irrefl id)
        · exact hid'

@[ext]
theorem ext {s t : IdSet} (h : ∀ id, id ∈ s ↔ id ∈ t) : s = t := by
  cases s with
  | mk a ha =>
    cases t with
    | mk b hb =>
      have : a = b := eq_of_sorted ha hb h
      subst this
      rfl

theorem ofList_ids (s : IdSet) : ofList s.ids = s :=
  ext fun _ => mem_ofList

end IdSet
end CodeReading
