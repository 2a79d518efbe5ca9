import CodeReading.Text.Search
import Mathlib.Data.List.Infix

set_option autoImplicit false

namespace CodeReading.Text

variable {pattern front text after back replacement : List Char} {c : Char} {position : Nat}

/-- How often a pattern stands in a text, overlaps included. -/
def countOf (pattern text : List Char) : Nat :=
  text.tails.countP fun rest => pattern.isPrefixOf rest

theorem countOf_nil (nonempty : pattern ≠ []) : countOf pattern [] = 0 := by
  cases pattern with
  | nil => exact absurd rfl nonempty
  | cons c pattern => rfl

theorem countOf_cons_of_prefix (h : pattern <+: c :: text) :
    countOf pattern (c :: text) = countOf pattern text + 1 := by
  unfold countOf
  rw [List.tails_cons, List.countP_cons_of_pos (List.isPrefixOf_iff_prefix.2 h)]

theorem countOf_cons_of_not_prefix (h : ¬pattern <+: c :: text) :
    countOf pattern (c :: text) = countOf pattern text := by
  unfold countOf
  rw [List.tails_cons, List.countP_cons_of_neg (mt List.isPrefixOf_iff_prefix.1 h)]

theorem countOf_eq_zero_iff : countOf pattern text = 0 ↔ ¬pattern <:+: text := by
  unfold countOf
  rw [List.countP_eq_zero, List.infix_iff_prefix_suffix]
  simp only [List.mem_tails, List.isPrefixOf_iff_prefix, not_exists, not_and]
  exact forall_congr' fun rest => imp_not_comm

/-- Whether no pattern that starts in the first of two texts reaches into the second. -/
def IsSeam (pattern front after : List Char) : Prop :=
  ∀ rest, rest ≠ [] → rest <:+ front → pattern <+: rest ++ after → pattern <+: rest

theorem isSeam_nil (pattern front : List Char) : IsSeam pattern front [] := by
  intro rest _ _ h
  rwa [List.append_nil] at h

theorem IsSeam.tail (seam : IsSeam pattern (c :: front) after) : IsSeam pattern front after :=
  fun rest nonempty isSuffix => seam rest nonempty (isSuffix.trans (List.suffix_cons c front))

theorem countOf_append (nonempty : pattern ≠ []) (seam : IsSeam pattern front after) :
    countOf pattern (front ++ after) = countOf pattern front + countOf pattern after := by
  induction front with
  | nil => rw [countOf_nil nonempty, Nat.zero_add, List.nil_append]
  | cons c front ih =>
    have rest := ih seam.tail
    by_cases starts : pattern <+: c :: front
    · have still : pattern <+: c :: (front ++ after) := starts.trans (List.prefix_append _ after)
      rw [List.cons_append, countOf_cons_of_prefix still, countOf_cons_of_prefix starts, rest]
      omega
    · have neither : ¬pattern <+: c :: (front ++ after) :=
        mt (seam (c :: front) (List.cons_ne_nil c front) (List.suffix_refl _)) starts
      rw [List.cons_append, countOf_cons_of_not_prefix neither, countOf_cons_of_not_prefix starts,
        rest]

theorem countOf_append_of_not_mem {d : Char} (absent : d ∉ front) :
    countOf (d :: pattern) (front ++ after) = countOf (d :: pattern) after := by
  induction front with
  | nil => rfl
  | cons c front ih =>
    rw [List.mem_cons, not_or] at absent
    have noStart : ¬d :: pattern <+: c :: (front ++ after) :=
      fun h => absent.1 (List.cons_prefix_cons.1 h).1
    rw [List.cons_append, countOf_cons_of_not_prefix noStart, ih absent.2]

theorem exists_split_of_mem_occurrencesFrom {start skip : Nat}
    (h : position ∈ occurrencesFrom pattern start skip text) :
    ∃ front back, text = front ++ (pattern ++ back) ∧ position = start + front.length := by
  induction text generalizing start skip with
  | nil =>
    rw [occurrencesFrom] at h
    split at h
    · rename_i empty
      rw [List.mem_singleton.1 h, empty.2]
      exact ⟨[], [], rfl, rfl⟩
    · cases h
  | cons c text ih =>
    have later : ∀ {start skip}, position ∈ occurrencesFrom pattern (start + 1) skip text →
        ∃ front back, c :: text = front ++ (pattern ++ back) ∧ position = start + front.length := by
      intro start skip h
      obtain ⟨front, back, rfl, place⟩ := ih h
      refine ⟨c :: front, back, rfl, ?_⟩
      rw [place, List.length_cons]
      omega
    cases skip with
    | succ skip => exact later h
    | zero =>
      rw [occurrencesFrom] at h
      split at h
      · rename_i starts
        rcases List.mem_cons.1 h with rfl | h
        · obtain ⟨back, split⟩ := List.isPrefixOf_iff_prefix.1 starts
          exact ⟨[], back, split.symm, rfl⟩
        · exact later h
      · exact later h

theorem exists_split_of_mem_occurrences (h : position ∈ occurrences pattern text) :
    ∃ front back, text = front ++ (pattern ++ back) ∧ position = front.length := by
  obtain ⟨front, back, split, place⟩ := exists_split_of_mem_occurrencesFrom h
  exact ⟨front, back, split, place.trans (Nat.zero_add _)⟩

/-- Where a pattern stands it occurs, unless a search has not resumed there: the place is behind the
    start of an occurrence and before its end. -/
theorem mem_occurrencesFrom_or_within (pattern front back : List Char) (start skip : Nat) :
    front.length < skip ∨
      start + front.length ∈ occurrencesFrom pattern start skip (front ++ (pattern ++ back)) ∨
      ∃ earlier ∈ occurrencesFrom pattern start skip (front ++ (pattern ++ back)),
        earlier < start + front.length ∧ start + front.length < earlier + pattern.length := by
  induction front generalizing start skip with
  | nil =>
    cases skip with
    | succ skip => exact .inl (Nat.succ_pos skip)
    | zero =>
      right; left
      cases whole : pattern ++ back with
      | nil => simp [occurrencesFrom, (List.append_eq_nil_iff.1 whole).1]
      | cons c text =>
        have starts : pattern.isPrefixOf (c :: text) = true :=
          List.isPrefixOf_iff_prefix.2 (whole ▸ List.prefix_append pattern back)
        rw [List.nil_append, occurrencesFrom, if_pos starts]
        exact List.mem_cons_self
  | cons c front ih =>
    have next : start + (c :: front).length = start + 1 + front.length := by
      rw [List.length_cons]
      omega
    rw [List.cons_append, next]
    cases skip with
    | succ skip =>
      rw [List.length_cons]
      exact (ih (start + 1) skip).imp_left Nat.succ_lt_succ
    | zero =>
      right
      rw [occurrencesFrom]
      split
      · -- The pattern occurs here: its other characters are those that the search skips.
        rcases ih (start + 1) (pattern.length - 1) with within | found | ⟨earlier, mem, less⟩
        · exact .inr ⟨start, List.mem_cons_self, by omega, by omega⟩
        · exact .inl (List.mem_cons_of_mem _ found)
        · exact .inr ⟨earlier, List.mem_cons_of_mem _ mem, less⟩
      · exact (ih (start + 1) 0).resolve_left (Nat.not_lt_zero _)

theorem mem_occurrences_or_within (pattern front back : List Char) :
    front.length ∈ occurrences pattern (front ++ (pattern ++ back)) ∨
      ∃ earlier ∈ occurrences pattern (front ++ (pattern ++ back)),
        earlier < front.length ∧ front.length < earlier + pattern.length := by
  have found := mem_occurrencesFrom_or_within pattern front back 0 0
  rw [Nat.zero_add] at found
  exact found.resolve_left (Nat.not_lt_zero _)

theorem occurrences_eq_nil_iff : occurrences pattern text = [] ↔ ¬pattern <:+: text := by
  constructor
  · rintro none ⟨front, back, rfl⟩
    rw [List.append_assoc] at none
    rcases mem_occurrences_or_within pattern front back with found | ⟨earlier, mem, -⟩
    · exact List.ne_nil_of_mem found none
    · exact List.ne_nil_of_mem mem none
  · intro absent
    rw [List.eq_nil_iff_forall_not_mem]
    intro position mem
    obtain ⟨front, back, rfl, -⟩ := exists_split_of_mem_occurrences mem
    exact absent ⟨front, back, List.append_assoc _ _ _⟩

theorem le_of_mem_occurrencesFrom {start skip : Nat}
    (h : position ∈ occurrencesFrom pattern start skip text) : start + skip ≤ position := by
  induction text generalizing start skip with
  | nil =>
    rw [occurrencesFrom] at h
    split at h
    · rename_i empty
      rw [List.mem_singleton.1 h, empty.1, Nat.add_zero]
    · cases h
  | cons c text ih =>
    cases skip with
    | succ skip =>
      have later := ih h
      omega
    | zero =>
      rw [occurrencesFrom] at h
      split at h
      · rcases List.mem_cons.1 h with rfl | h
        · exact Nat.le_refl _
        · have later := ih h
          omega
      · have later := ih h
        omega

theorem pairwise_occurrencesFrom (pattern : List Char) (start skip : Nat) (text : List Char) :
    (occurrencesFrom pattern start skip text).Pairwise fun left right =>
      left < right ∧ left + pattern.length ≤ right := by
  induction text generalizing start skip with
  | nil =>
    rw [occurrencesFrom]
    split
    · exact List.pairwise_singleton _ _
    · exact .nil
  | cons c text ih =>
    cases skip with
    | succ skip => exact ih (start + 1) skip
    | zero =>
      rw [occurrencesFrom]
      split
      · refine List.pairwise_cons.2 ⟨fun position mem => ?_, ih _ _⟩
        have later := le_of_mem_occurrencesFrom mem
        omega
      · exact ih (start + 1) 0

theorem pairwise_occurrences (pattern text : List Char) :
    (occurrences pattern text).Pairwise fun left right =>
      left < right ∧ left + pattern.length ≤ right :=
  pairwise_occurrencesFrom pattern 0 0 text

theorem not_within_of_mem_occurrences {earlier later : Nat}
    (first : earlier ∈ occurrences pattern text) (second : later ∈ occurrences pattern text) :
    ¬(earlier < later ∧ later < earlier + pattern.length) := by
  have apart := pairwise_occurrences pattern text
  refine List.Pairwise.forall_of_forall_of_flip
    (R := fun left right => ¬(left < right ∧ right < left + pattern.length))
    (fun _ _ => by omega) (apart.imp ?_) (apart.imp ?_) first second
  · omega
  · unfold flip
    omega

/-- Where a pattern stands again before its own end, it starts with what follows the step from one
    place to the other. -/
theorem exists_border {front' back' : List Char}
    (split : front ++ (pattern ++ back) = front' ++ (pattern ++ back'))
    (before : front.length < front'.length)
    (within : front'.length < front.length + pattern.length) :
    ∃ step rest, pattern = step ++ rest ∧ step ≠ [] ∧ rest ≠ [] ∧ rest <+: pattern ∧
      front' = front ++ step := by
  rcases List.append_eq_append_iff.1 split with ⟨step, rfl, again⟩ | ⟨more, rfl, -⟩
  · rw [List.length_append] at before within
    rcases List.append_eq_append_iff.1 again with ⟨more, rfl, -⟩ | ⟨rest, whole, tail⟩
    · rw [List.length_append] at within
      omega
    · have lengths := congrArg List.length whole
      rw [List.length_append] at lengths
      have isPrefix : rest <+: pattern ++ back' := tail ▸ List.prefix_append rest back
      refine ⟨step, rest, whole, List.ne_nil_of_length_pos (by omega),
        List.ne_nil_of_length_pos (by omega), ?_, rfl⟩
      exact List.prefix_of_prefix_length_le isPrefix (List.prefix_append pattern back') (by omega)
  · rw [List.length_append] at before
    omega

/-- What it means that a pattern is matched at a place, from left to right: it stands there, and no
    match further left reaches over the place. -/
def IsMatchAt (pattern text : List Char) (place : Nat) : Prop :=
  (∃ front back, text = front ++ (pattern ++ back) ∧ front.length = place) ∧
    ∀ earlier, (_ : earlier < place) → IsMatchAt pattern text earlier →
      earlier + pattern.length ≤ place
termination_by place

theorem mem_occurrences_iff : position ∈ occurrences pattern text ↔
    IsMatchAt pattern text position := by
  induction position using Nat.strongRecOn with
  | ind place ih =>
    rw [IsMatchAt]
    constructor
    · intro mem
      obtain ⟨front, back, split, here⟩ := exists_split_of_mem_occurrences mem
      refine ⟨⟨front, back, split, here.symm⟩, fun earlier before isMatch => ?_⟩
      have apart := not_within_of_mem_occurrences ((ih earlier before).2 isMatch) mem
      omega
    · rintro ⟨⟨front, back, rfl, rfl⟩, free⟩
      refine (mem_occurrences_or_within pattern front back).resolve_right ?_
      rintro ⟨earlier, mem, before, beyond⟩
      exact Nat.not_le.2 beyond (free earlier before ((ih earlier before).1 mem))

def IsUnbordered (pattern : List Char) : Prop :=
  ∀ count < pattern.length, 0 < count → ¬pattern.drop count <+: pattern

theorem mem_occurrences_of_isUnbordered (unbordered : IsUnbordered pattern)
    (front back : List Char) :
    front.length ∈ occurrences pattern (front ++ (pattern ++ back)) := by
  refine (mem_occurrences_or_within pattern front back).resolve_right ?_
  rintro ⟨earlier, mem, before, within⟩
  obtain ⟨front', back', split, rfl⟩ := exists_split_of_mem_occurrences mem
  obtain ⟨step, rest, rfl, some, more, isPrefix, -⟩ := exists_border split.symm before within
  refine unbordered step.length ?_ (List.length_pos_of_ne_nil some) ?_
  · rw [List.length_append]
    exact Nat.lt_add_of_pos_right (List.length_pos_of_ne_nil more)
  · rwa [List.drop_left]

theorem replaceAt_append (front pattern replacement back : List Char) :
    replaceAt front.length pattern.length replacement (front ++ (pattern ++ back))
      = front ++ (replacement ++ back) := by
  have rest : (front ++ (pattern ++ back)).drop (front.length + pattern.length) = back := by
    rw [← List.append_assoc, ← List.length_append, List.drop_left]
  rw [replaceAt, List.take_left, rest, List.append_assoc]

theorem of_replaceFirst? {result : List Char}
    (h : replaceFirst? pattern replacement text = some result) :
    ∃ front back, text = front ++ (pattern ++ back) ∧ result = front ++ (replacement ++ back) := by
  obtain ⟨position, first, same⟩ := Option.map_eq_some_iff.1 h
  obtain ⟨front, back, rfl, rfl⟩ := exists_split_of_mem_occurrences (List.mem_of_head? first)
  rw [replaceAt_append] at same
  exact ⟨front, back, rfl, same.symm⟩

theorem replaceFirst?_isSome_iff :
    (replaceFirst? pattern replacement text).isSome ↔ pattern <:+: text := by
  unfold replaceFirst?
  rw [Option.isSome_map, List.isSome_head?, ← not_iff_not, ← occurrences_eq_nil_iff]
  simp

theorem append_ne_append (front back : List Char) (h : pattern ≠ replacement) :
    front ++ (pattern ++ back) ≠ front ++ (replacement ++ back) := by
  intro same
  exact h (List.append_cancel_right (List.append_cancel_left same))

end CodeReading.Text
