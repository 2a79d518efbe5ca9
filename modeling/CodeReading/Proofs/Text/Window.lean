import CodeReading.Proofs.Text.Lines

set_option autoImplicit false

namespace CodeReading.Text

variable {text slice front back : String} {first middle last : UInt64}

def linesBetween (text : String) (first last : Nat) : List String :=
  (((lines text).zipIdx 1).filter fun line => first ≤ line.2 ∧ line.2 ≤ last).map (·.1)

/-- What it means that a text consists of the lines of another in a range, and that one of them is
    not blank. -/
structure IsSlice (text : String) (first last : Nat) (slice : String) : Prop where
  positive : 1 ≤ first
  ordered : first ≤ last
  shown : ∃ line ∈ linesBetween text first last, isBlankLine line = false
  joined : slice = "\n".intercalate (linesBetween text first last)

/-- What it means that a window is computed from its line numbers as from unbounded ones: neither
    difference falls below zero, and the count of lines does not wrap. -/
structure IsExactWindow (first last : UInt64) : Prop where
  before : (first - 1).toNat + 1 = first.toNat
  distance : (last - first).toNat + first.toNat = last.toNat
  count : (last - first + 1).toNat = (last - first).toNat + 1

theorem isExactWindow (positive : 1 ≤ first) (ordered : first ≤ last) :
    IsExactWindow first last := by
  have before := UInt64.toNat_sub_of_le first 1 positive
  have distance := UInt64.toNat_sub_of_le last first ordered
  have bound := last.toNat_lt
  rw [UInt64.le_iff_toNat_le, UInt64.toNat_one] at positive
  rw [UInt64.le_iff_toNat_le] at ordered
  rw [UInt64.toNat_one] at before
  refine ⟨by omega, by omega, ?_⟩
  -- The distance leaves out at least the line before the first one, so there is room for one more.
  rw [UInt64.toNat_add, UInt64.toNat_one, Nat.mod_eq_of_lt (by omega)]

theorem map_filter_zipIdx (lines : List String) (number first last : Nat) :
    ((lines.zipIdx number).filter fun line => first ≤ line.2 ∧ line.2 ≤ last).map (·.1)
      = (lines.take (last + 1 - number)).drop (first - number) := by
  induction lines generalizing number with
  | nil => simp
  | cons line lines ih =>
    rw [List.zipIdx_cons, List.filter_cons]
    by_cases behind : last < number
    · have none : last + 1 - number = 0 ∧ last + 1 - (number + 1) = 0 := by omega
      rw [if_neg (by simp only [decide_eq_true_eq]; omega), ih, none.1, none.2, List.take_zero,
        List.take_zero, List.drop_nil, List.drop_nil]
    · have one : last + 1 - number = last + 1 - (number + 1) + 1 := by omega
      rw [one, List.take_succ_cons]
      by_cases early : number < first
      · have skipped : first - number = first - (number + 1) + 1 := by omega
        rw [if_neg (by simp only [decide_eq_true_eq]; omega), ih, skipped, List.drop_succ_cons]
      · have here : first - number = 0 ∧ first - (number + 1) = 0 := by omega
        rw [if_pos (by simp only [decide_eq_true_eq]; omega), List.map_cons, ih, here.1, here.2,
          List.drop_zero, List.drop_zero]

theorem linesBetween_eq (text : String) {first last : Nat} (positive : 1 ≤ first)
    (ordered : first ≤ last) :
    linesBetween text first last
      = ((lines text).drop (first - 1)).take (last - first + 1) := by
  have count : last - first + 1 = last - (first - 1) := by omega
  rw [linesBetween, map_filter_zipIdx, Nat.add_sub_cancel, List.drop_take, count]

theorem linesBetween_append (text : String) {first middle last : Nat} (positive : 1 ≤ first)
    (ordered : first ≤ middle) (behind : middle + 1 ≤ last) :
    linesBetween text first last
      = linesBetween text first middle ++ linesBetween text (middle + 1) last := by
  have counts : last - first + 1 = middle - first + 1 + (last - (middle + 1) + 1) := by omega
  have start : first - 1 + (middle - first + 1) = middle + 1 - 1 := by omega
  rw [linesBetween_eq text positive (by omega), counts, List.take_add, List.drop_drop, start,
    linesBetween_eq text positive ordered, linesBetween_eq text (Nat.succ_pos middle) behind]

theorem sliceLines_eq_none (outside : ¬(1 ≤ first ∧ first ≤ last)) :
    sliceLines text first last = none := by
  have guard : first = 0 ∨ last < first := by
    by_cases zero : first = 0
    · exact Or.inl zero
    · refine Or.inr (UInt64.not_le.1 fun ordered => outside ⟨?_, ordered⟩)
      refine UInt64.le_iff_toNat_le.2 (Nat.pos_of_ne_zero fun none => zero ?_)
      exact UInt64.toNat_inj.1 none
  rw [sliceLines, if_pos guard]

theorem sliceLines_eq (text : String) (positive : 1 ≤ first) (ordered : first ≤ last) :
    sliceLines text first last
      = if (linesBetween text first.toNat last.toNat).all isBlankLine then none
        else some ("\n".intercalate (linesBetween text first.toNat last.toNat)) := by
  have exact := isExactWindow positive ordered
  have guard : ¬(first = 0 ∨ last < first) := by
    rintro (rfl | less)
    · exact absurd positive (by decide)
    · exact UInt64.not_lt.2 ordered less
  have before : (first - 1).toNat = first.toNat - 1 := by
    have := exact.before
    omega
  have count : (last - first + 1).toNat = last.toNat - first.toNat + 1 := by
    have := exact.distance
    rw [exact.count]
    omega
  rw [sliceLines, if_neg guard, before, count,
    ← linesBetween_eq text (UInt64.le_iff_toNat_le.1 positive) (UInt64.le_iff_toNat_le.1 ordered)]

theorem sliceLines_eq_some_iff :
    sliceLines text first last = some slice ↔ IsSlice text first.toNat last.toNat slice := by
  by_cases inside : 1 ≤ first ∧ first ≤ last
  · obtain ⟨positive, ordered⟩ := inside
    rw [sliceLines_eq text positive ordered]
    split
    · rename_i blank
      refine iff_of_false nofun fun isSlice => ?_
      obtain ⟨line, mem, shown⟩ := isSlice.shown
      rw [List.all_eq_true.1 blank line mem] at shown
      cases shown
    · rename_i notBlank
      rw [Option.some.injEq, eq_comm]
      refine ⟨fun joined => ⟨?_, ?_, ?_, joined⟩, IsSlice.joined⟩
      · exact UInt64.le_iff_toNat_le.1 positive
      · exact UInt64.le_iff_toNat_le.1 ordered
      · simpa using notBlank
  · rw [sliceLines_eq_none inside]
    refine iff_of_false nofun fun isSlice => inside ?_
    exact ⟨UInt64.le_iff_toNat_le.2 isSlice.positive, UInt64.le_iff_toNat_le.2 isSlice.ordered⟩

/-- The slices of two adjacent windows, joined by a line feed, are the slice of both. -/
theorem sliceLines_append (upper : sliceLines text first middle = some front)
    (lower : sliceLines text (middle + 1) last = some back) :
    sliceLines text first last = some (front ++ "\n" ++ back) := by
  rw [sliceLines_eq_some_iff] at upper lower ⊢
  have next : (middle + 1).toNat = middle.toNat + 1 := by
    have bound := middle.toNat_lt
    have positive := lower.positive
    rw [UInt64.toNat_add, UInt64.toNat_one] at positive ⊢
    omega
  rw [next] at lower
  obtain ⟨positive, ordered, ⟨shown, mem, notBlank⟩, rfl⟩ := upper
  obtain ⟨-, behind, ⟨other, mem', -⟩, rfl⟩ := lower
  have lines := linesBetween_append text positive ordered behind
  refine ⟨positive, by omega, ⟨shown, ?_, notBlank⟩, ?_⟩
  · rw [lines]
    exact List.mem_append_left _ mem
  · rw [lines, intercalate_append (List.ne_nil_of_mem mem) (List.ne_nil_of_mem mem')]

theorem allBlank_slice (h : sliceLines text first last = some slice) :
    allBlank slice.toList = false := by
  obtain ⟨-, -, ⟨line, mem, shown⟩, rfl⟩ := sliceLines_eq_some_iff.1 h
  exact allBlank_intercalate mem shown

end CodeReading.Text
