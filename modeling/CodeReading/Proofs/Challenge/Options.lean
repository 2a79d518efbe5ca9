import CodeReading.Challenge.Options
import CodeReading.Proofs.Text.Lowercase
import Mathlib.Data.List.Perm.Subperm

set_option autoImplicit false

namespace CodeReading

namespace Text

theorem shuffle_perm {α : Type} (salt : String) (key : α → String) (items : List α) :
    (shuffle salt key items).Perm items := by
  unfold shuffle
  refine ((List.mergeSort_perm _ _).map _).trans (List.Perm.of_eq ?_)
  rw [List.map_map]
  exact List.map_id items

theorem mem_shuffle {α : Type} {salt : String} {key : α → String} {items : List α} {item : α} :
    item ∈ shuffle salt key items ↔ item ∈ items :=
  (shuffle_perm salt key items).mem_iff

end Text

namespace Options

/-- What has to differ between two options. -/
def folded (text : String) : List Char :=
  Text.lowercase text.toList

theorem length_folded (text : String) :
    (folded text).length = text.toList.length + text.toList.count '\u0130' :=
  Text.length_lowercase text.toList

/-- Texts that can all be wrong options at once, next to those seen. -/
structure Fresh (seen : List (List Char)) (texts : List String) : Prop where
  distinct : (texts.map folded).Nodup
  unseen : ∀ text ∈ texts, folded text ∉ seen
  shown : ∀ text ∈ texts, Text.allBlank text.toList = false

theorem pick_cons (seen : List (List Char)) (count : Nat) (candidate : String)
    (candidates : List String) : pick seen (count + 1) (candidate :: candidates) =
      if Text.allBlank candidate.toList ∨ folded candidate ∈ seen then
        pick seen (count + 1) candidates
      else candidate :: pick (folded candidate :: seen) count candidates :=
  rfl

theorem length_pick_le (seen : List (List Char)) (count : Nat) (candidates : List String) :
    (pick seen count candidates).length ≤ count := by
  induction candidates generalizing seen count with
  | nil => cases count <;> exact Nat.zero_le _
  | cons candidate candidates ih =>
    cases count with
    | zero => exact Nat.zero_le _
    | succ count =>
      rw [pick_cons]
      split
      · exact ih seen (count + 1)
      · exact Nat.succ_le_succ (ih _ count)

theorem pick_subset (seen : List (List Char)) (count : Nat) (candidates : List String) :
    pick seen count candidates ⊆ candidates := by
  induction candidates generalizing seen count with
  | nil => cases count <;> exact List.Subset.refl _
  | cons candidate candidates ih =>
    cases count with
    | zero => exact List.nil_subset _
    | succ count =>
      rw [pick_cons]
      split
      · exact List.subset_cons_of_subset _ (ih _ _)
      · exact List.cons_subset_cons _ (ih _ _)

theorem fresh_pick (seen : List (List Char)) (count : Nat) (candidates : List String) :
    Fresh seen (pick seen count candidates) := by
  induction candidates generalizing seen count with
  | nil => cases count <;> exact ⟨List.nodup_nil, nofun, nofun⟩
  | cons candidate candidates ih =>
    cases count with
    | zero => exact ⟨List.nodup_nil, nofun, nofun⟩
    | succ count =>
      rw [pick_cons]
      split
      · exact ih _ _
      · rename_i kept
        rw [not_or, Bool.not_eq_true] at kept
        have later := ih (folded candidate :: seen) count
        refine ⟨?_, ?_, ?_⟩
        · rw [List.map_cons, List.nodup_cons]
          refine ⟨?_, later.distinct⟩
          intro image
          obtain ⟨text, mem, same⟩ := List.mem_map.1 image
          exact later.unseen text mem (same ▸ List.mem_cons_self)
        · rw [List.forall_mem_cons]
          exact ⟨kept.2, fun text mem old => later.unseen text mem (List.mem_cons_of_mem _ old)⟩
        · rw [List.forall_mem_cons]
          exact ⟨kept.1, later.shown⟩

/-- When too few are picked, nothing that can be shown was passed over. -/
theorem folded_mem_of_length_pick_lt {seen : List (List Char)} {count : Nat}
    {candidates : List String} (few : (pick seen count candidates).length < count) {text : String}
    (mem : text ∈ candidates) (shown : Text.allBlank text.toList = false) :
    folded text ∈ seen ∨ folded text ∈ (pick seen count candidates).map folded := by
  induction candidates generalizing seen count with
  | nil => cases mem
  | cons candidate candidates ih =>
    cases count with
    | zero => exact absurd few (Nat.not_lt_zero _)
    | succ count =>
      rw [pick_cons] at few ⊢
      by_cases skipped : Text.allBlank candidate.toList ∨ folded candidate ∈ seen
      · rw [if_pos skipped] at few ⊢
        rcases List.mem_cons.1 mem with rfl | mem
        · exact Or.inl (skipped.resolve_left (by simp [shown]))
        · exact ih few mem
      · rw [if_neg skipped] at few ⊢
        rw [List.map_cons, List.mem_cons]
        rcases List.mem_cons.1 mem with rfl | mem
        · exact Or.inr (Or.inl rfl)
        · rcases ih (Nat.lt_of_succ_lt_succ few) mem with old | picked
          · rcases List.mem_cons.1 old with same | old
            · exact Or.inr (Or.inl same)
            · exact Or.inl old
          · exact Or.inr (Or.inr picked)

theorem length_pick_of_fresh {seen : List (List Char)} {count : Nat}
    {fresh candidates : List String} (h : Fresh seen fresh) (sub : fresh ⊆ candidates)
    (enough : count ≤ fresh.length) :
    (pick seen count candidates).length = count := by
  refine Nat.le_antisymm (length_pick_le _ _ _) (Nat.le_of_not_lt fun few => ?_)
  have covered : fresh.map folded ⊆ (pick seen count candidates).map folded := by
    intro fold image
    obtain ⟨text, mem, rfl⟩ := List.mem_map.1 image
    exact (folded_mem_of_length_pick_lt few (sub mem) (h.shown text mem)).resolve_left
      (h.unseen text mem)
  have bound := (List.subperm_of_subset h.distinct covered).length_le
  rw [List.length_map, List.length_map] at bound
  omega

theorem distractors?_isSome {correct : String} {fresh candidates : List String}
    (h : Fresh [folded correct] fresh) (sub : fresh ⊆ candidates) (enough : 3 ≤ fresh.length) :
    (distractors? correct candidates).isSome := by
  have three := length_pick_of_fresh h sub enough
  unfold distractors?
  unfold folded at three
  rw [if_pos three]
  rfl

/-- Four different texts to fall back on are enough, since only one of them can be the right
    option. -/
theorem distractors?_isSome_of_pool (pool : List String) (distinct : (pool.map folded).Nodup)
    (shown : ∀ text ∈ pool, Text.allBlank text.toList = false) (enough : 4 ≤ pool.length)
    (correct : String) (others : List String) :
    (distractors? correct (others ++ pool)).isSome := by
  have fresh : Fresh [folded correct] (pool.filter fun text => folded text != folded correct) :=
    { distinct := List.Nodup.sublist (List.filter_sublist.map _) distinct
      unseen := fun text mem => by simpa using (List.mem_filter.1 mem).2
      shown := fun text mem => shown text (List.mem_filter.1 mem).1 }
  refine distractors?_isSome fresh
    (List.Subset.trans (List.filter_subset_self _) (List.subset_append_right _ _)) ?_
  have kept : (pool.filter fun text => folded text != folded correct).length
      = ((pool.map folded).erase (folded correct)).length := by
    rw [distinct.erase_eq_filter, List.filter_map, List.length_map]
    rfl
  have least : (pool.map folded).length - 1 ≤ ((pool.map folded).erase (folded correct)).length :=
    List.le_length_erase
  rw [List.length_map] at least
  omega

theorem of_distractors? {correct : String} {candidates wrong : List String}
    (h : distractors? correct candidates = some wrong) :
    wrong.length = 3 ∧ Fresh [folded correct] wrong ∧ wrong ⊆ candidates := by
  unfold distractors? at h
  dsimp only at h
  split at h
  · rename_i three
    cases h
    exact ⟨three, fresh_pick _ _ _, pick_subset _ _ _⟩
  · cases h

theorem mem_shuffled {salt text : String} {texts : List String} :
    text ∈ shuffled salt texts ↔ text ∈ texts :=
  Text.mem_shuffle.trans IdSet.mem_ofList

/-- Whether four options are the right one under its key, and under the other keys the wrong ones in
    their order. -/
structure IsArranged (correct : String) (wrong : List String) (options : List ChoiceOption)
    (answerKey : String) : Prop where
  keys : options.map (·.key) = keys
  texts : ∃ front back, wrong = front ++ back ∧ options.map (·.text) = front ++ correct :: back
  answered : ⟨answerKey, correct⟩ ∈ options
  right : ∀ option ∈ options, option.key = answerKey → option.text = correct
  wrong : ∀ option ∈ options, option.key ≠ answerKey → option.text ∈ wrong

theorem isArranged_arrange (correct : String) {wrong : List String} (three : wrong.length = 3)
    (seed : UInt64) :
    IsArranged correct wrong (arrange correct wrong seed).1 (arrange correct wrong seed).2 := by
  obtain ⟨first, second, third, rfl⟩ := List.length_eq_three.1 three
  unfold arrange
  dsimp only
  -- The right option stands before, between or behind the wrong ones.
  have places : min (seed % 4).toNat [first, second, third].length ≤ 3 := Nat.min_le_right _ _
  generalize min (seed % 4).toNat [first, second, third].length = place at places
  have cases : place = 0 ∨ place = 1 ∨ place = 2 ∨ place = 3 := by omega
  exact {
    keys := by rcases cases with rfl | rfl | rfl | rfl <;> rfl
    texts := ⟨[first, second, third].take place, [first, second, third].drop place,
      (List.take_append_drop _ _).symm, by rcases cases with rfl | rfl | rfl | rfl <;> rfl⟩
    answered := by rcases cases with rfl | rfl | rfl | rfl <;> simp [Options.keys]
    right := by rcases cases with rfl | rfl | rfl | rfl <;> simp [Options.keys]
    wrong := by rcases cases with rfl | rfl | rfl | rfl <;> simp [Options.keys] }

theorem IsArranged.texts_perm {correct : String} {wrong : List String}
    {options : List ChoiceOption} {answerKey : String}
    (arranged : IsArranged correct wrong options answerKey) :
    (options.map (·.text)).Perm (correct :: wrong) := by
  obtain ⟨front, back, rfl, texts⟩ := arranged.texts
  rw [texts]
  exact List.perm_middle

theorem IsArranged.nodup_folded {correct : String} {wrong : List String}
    {options : List ChoiceOption} {answerKey : String}
    (arranged : IsArranged correct wrong options answerKey) (fresh : Fresh [folded correct] wrong) :
    (options.map fun option => folded option.text).Nodup := by
  have folds := (arranged.texts_perm.map folded).nodup_iff
  rw [List.map_map, List.map_cons, List.nodup_cons] at folds
  refine folds.2 ⟨?_, fresh.distinct⟩
  intro image
  obtain ⟨text, mem, same⟩ := List.mem_map.1 image
  exact fresh.unseen text mem (same ▸ List.mem_cons_self)

end Options
end CodeReading
