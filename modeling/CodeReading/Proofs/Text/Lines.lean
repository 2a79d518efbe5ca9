import CodeReading.Text.Lines

set_option autoImplicit false

/-!
# Lines and the text that they join to

No line has a line feed in it. Joined by line feeds, lines are the text of one of them between the
lines before it, each with the line feed behind it, and those after it, each behind a line feed. Cut
again, such a text gives the same lines where it has no carriage return in front of a line feed.
-/
namespace CodeReading.Text

theorem newline_not_mem_endLine {read : List Char} (h : '\n' ∉ read) : '\n' ∉ endLine read := by
  unfold endLine
  split
  · rw [List.mem_reverse]
    exact fun mem => h (List.mem_cons_of_mem _ mem)
  · rwa [List.mem_reverse]

theorem newline_not_mem_linesFrom {read rest : List Char} (h : '\n' ∉ read) :
    ∀ line ∈ linesFrom read rest, '\n' ∉ line := by
  induction rest generalizing read with
  | nil =>
    rw [linesFrom]
    split
    · nofun
    · rw [List.forall_mem_singleton, List.mem_reverse]
      exact h
  | cons c rest ih =>
    rw [linesFrom]
    split
    · rw [List.forall_mem_cons]
      exact ⟨newline_not_mem_endLine h, ih List.not_mem_nil⟩
    · rename_i other
      refine ih ?_
      rw [List.mem_cons, not_or]
      exact ⟨fun same => other same.symm, h⟩

theorem newline_not_mem_lines {text line : String} (h : line ∈ lines text) :
    '\n' ∉ line.toList := by
  obtain ⟨chars, mem, rfl⟩ := List.mem_map.1 h
  rw [String.toList_ofList]
  exact newline_not_mem_linesFrom List.not_mem_nil chars mem

def linesBefore (lines : List String) : List Char :=
  lines.flatMap fun line => line.toList ++ ['\n']

def linesAfter (lines : List String) : List Char :=
  lines.flatMap fun line => '\n' :: line.toList

theorem toList_intercalate_cons (line : String) (back : List String) :
    ("\n".intercalate (line :: back)).toList = line.toList ++ linesAfter back := by
  induction back generalizing line with
  | nil => simp [linesAfter]
  | cons other back ih =>
    rw [String.intercalate_cons_cons, String.toList_append, ih]
    simp [linesAfter]

theorem toList_intercalate_append (front : List String) (line : String) (back : List String) :
    ("\n".intercalate (front ++ line :: back)).toList
      = linesBefore front ++ (line.toList ++ linesAfter back) := by
  induction front with
  | nil => exact toList_intercalate_cons line back
  | cons first front ih =>
    obtain ⟨second, rest, more⟩ : ∃ second rest, front ++ line :: back = second :: rest := by
      cases front <;> exact ⟨_, _, rfl⟩
    rw [more] at ih
    rw [List.cons_append, more, String.intercalate_cons_cons, String.toList_append, ih]
    simp [linesBefore]

theorem intercalate_append {upper lower : List String} (some : upper ≠ []) (more : lower ≠ []) :
    "\n".intercalate (upper ++ lower)
      = "\n".intercalate upper ++ "\n" ++ "\n".intercalate lower := by
  obtain ⟨line, lower, rfl⟩ := List.exists_cons_of_ne_nil more
  induction upper with
  | nil => exact absurd rfl some
  | cons first upper ih =>
    cases upper with
    | nil => exact String.intercalate_cons_cons
    | cons second upper =>
      rw [List.cons_append, List.cons_append, String.intercalate_cons_cons, ← List.cons_append,
        ih (List.cons_ne_nil second upper), String.intercalate_cons_cons]
      simp only [String.append_assoc]

theorem allBlank_eq_false {text : List Char} {c : Char} (mem : c ∈ text) (h : isBlank c = false) :
    allBlank text = false := by
  refine Bool.eq_false_iff.2 fun blank => ?_
  rw [List.all_eq_true.1 blank c mem] at h
  cases h

theorem allBlank_intercalate {lines : List String} {line : String} (mem : line ∈ lines)
    (shown : isBlankLine line = false) : allBlank ("\n".intercalate lines).toList = false := by
  obtain ⟨front, back, rfl⟩ := List.append_of_mem mem
  obtain ⟨c, inLine, notBlank⟩ := List.all_eq_false.1 shown
  rw [toList_intercalate_append]
  refine allBlank_eq_false ?_ (Bool.eq_false_iff.2 notBlank)
  exact List.mem_append_right _ (List.mem_append_left _ inLine)

theorem count_newline_linesBefore {front : List String} (h : ∀ line ∈ front, '\n' ∉ line.toList) :
    (linesBefore front).count '\n' = front.length := by
  induction front with
  | nil => rfl
  | cons line front ih =>
    rw [List.forall_mem_cons] at h
    have rest := ih h.2
    unfold linesBefore at rest ⊢
    rw [List.flatMap_cons, List.count_append, List.count_append, rest, List.count_eq_zero.2 h.1,
      List.length_cons]
    simp [Nat.add_comm]

theorem linesBefore_cases (front : List String) :
    linesBefore front = [] ∨ (linesBefore front).getLast? = some '\n' := by
  rcases List.eq_nil_or_concat front with rfl | ⟨front, line, rfl⟩
  · exact Or.inl rfl
  · right
    simp [linesBefore]

theorem linesAfter_cases (back : List String) :
    linesAfter back = [] ∨ (linesAfter back).head? = some '\n' := by
  cases back with
  | nil => exact Or.inl rfl
  | cons line back => exact Or.inr rfl

theorem linesFrom_append_newline (read before rest : List Char) :
    linesFrom read (before ++ '\n' :: rest)
      = linesFrom read (before ++ ['\n']) ++ linesFrom [] rest := by
  induction before generalizing read with
  | nil => rfl
  | cons c before ih =>
    rw [List.cons_append, List.cons_append, linesFrom, linesFrom]
    split
    · rw [ih, List.cons_append]
    · exact ih _

/-- Lines are cut on their own when they are followed by others. -/
theorem linesFrom_linesBefore (front : List String) (rest : List Char) :
    linesFrom [] (linesBefore front ++ rest)
      = linesFrom [] (linesBefore front) ++ linesFrom [] rest := by
  rcases linesBefore_cases front with none | last
  · rw [none]
    rfl
  · obtain ⟨before, split⟩ := List.getLast?_eq_some_iff.1 last
    rw [split, List.append_assoc, List.singleton_append, linesFrom_append_newline]

theorem linesFrom_of_newline_not_mem {line : List Char} (h : '\n' ∉ line) (read rest : List Char) :
    linesFrom read (line ++ '\n' :: rest) = endLine (line.reverse ++ read) :: linesFrom [] rest := by
  induction line generalizing read with
  | nil => rfl
  | cons c line ih =>
    rw [List.mem_cons, not_or] at h
    rw [List.cons_append, linesFrom, if_neg (Ne.symm h.1), ih h.2, List.reverse_cons,
      List.append_assoc, List.singleton_append]

theorem length_linesFrom (read text : List Char) :
    (linesFrom read (text ++ ['\n'])).length = text.count '\n' + 1 := by
  induction text generalizing read with
  | nil => rfl
  | cons c text ih =>
    rw [List.cons_append, linesFrom, List.count_cons]
    split
    · rename_i newline
      rw [List.length_cons, ih, if_pos (beq_iff_eq.2 newline)]
    · rename_i other
      rw [ih, if_neg (mt beq_iff_eq.1 other)]

/-- A carriage return in front of a line feed, which is lost when a text is cut. -/
def crlf : List Char := ['\r', '\n']

theorem crlf_infix_append_iff {line : List Char} (h : '\n' ∉ line) (rest : List Char) :
    crlf <:+: line ++ '\n' :: rest ↔ line.getLast? = some '\r' ∨ crlf <:+: rest := by
  induction line with
  | nil =>
    rw [List.nil_append, List.infix_cons_iff]
    simp [crlf]
  | cons c line ih =>
    rw [List.mem_cons, not_or] at h
    rw [List.cons_append, List.infix_cons_iff, ih h.2]
    cases line with
    | nil => simp [crlf, eq_comm]
    | cons d line =>
      rw [List.mem_cons, not_or] at h
      have apart : ¬crlf <+: c :: (d :: line ++ '\n' :: rest) := by
        intro isPrefix
        rw [crlf, List.cons_append, List.cons_prefix_cons, List.cons_prefix_cons] at isPrefix
        exact h.2.1 isPrefix.2.1
      rw [or_iff_right apart, List.getLast?_cons_cons]

theorem endLine_append_newline_eq_iff {read tail rest : List Char} :
    endLine read ++ '\n' :: tail = read.reverse ++ '\n' :: rest ↔
      read.head? ≠ some '\r' ∧ tail = rest := by
  unfold endLine
  split
  · simp
  · rename_i other
    have plain : read.head? ≠ some '\r' := by
      intro first
      obtain ⟨rest, rfl⟩ := List.head?_eq_some_iff.1 first
      exact other rest rfl
    simp [plain]

/-- Cut and joined again, a text is the same exactly when no carriage return is lost. -/
theorem flatMap_linesFrom_eq_iff {read : List Char} (h : '\n' ∉ read) (text : List Char) :
    (linesFrom read (text ++ ['\n'])).flatMap (· ++ ['\n']) = read.reverse ++ (text ++ ['\n']) ↔
      ¬crlf <:+: read.reverse ++ (text ++ ['\n']) := by
  have plain : '\n' ∉ read.reverse := mt List.mem_reverse.1 h
  induction text generalizing read with
  | nil =>
    rw [List.nil_append, crlf_infix_append_iff plain, List.getLast?_reverse]
    change (endLine read ++ ['\n']) ++ [] = _ ↔ _
    rw [List.append_nil, endLine_append_newline_eq_iff]
    simp [crlf]
  | cons c text ih =>
    rw [List.cons_append, linesFrom]
    split
    · rename_i newline
      rw [newline, crlf_infix_append_iff plain, List.getLast?_reverse, List.flatMap_cons,
        List.append_assoc, List.singleton_append, endLine_append_newline_eq_iff, not_or]
      exact and_congr_right fun _ => ih List.not_mem_nil List.not_mem_nil
    · rename_i other
      have longer : '\n' ∉ c :: read := by
        rw [List.mem_cons, not_or]
        exact ⟨Ne.symm other, h⟩
      have step := ih longer (mt List.mem_reverse.1 longer)
      rwa [List.reverse_cons, List.append_assoc, List.singleton_append] at step

/-- A line that was cut out, up to the carriage return that it may have lost. -/
def IsCutFrom (line full : List Char) : Prop :=
  line = full ∨ line ++ ['\r'] = full

theorem isCutFrom_endLine (read : List Char) : IsCutFrom (endLine read) read.reverse := by
  unfold endLine
  split
  · right
    rw [List.reverse_cons]
  · exact Or.inl rfl

theorem prefix_iff_of_isCutFrom {start line full : List Char} (h : IsCutFrom line full)
    (plain : '\r' ∉ start) : start <+: line ↔ start <+: full := by
  rcases h with rfl | rfl
  · rfl
  · rw [List.prefix_concat_iff]
    refine (or_iff_right ?_).symm
    rintro rfl
    simp at plain

theorem linesFrom_eq_cons {read text : List Char} (h : read ≠ [] ∨ text ≠ []) :
    ∃ line others, linesFrom read text = line :: others ∧
      IsCutFrom line (read.reverse ++ text.takeWhile (· != '\n')) := by
  induction text generalizing read with
  | nil =>
    refine ⟨read.reverse, [], ?_, Or.inl (by simp)⟩
    rw [linesFrom, if_neg (by simpa using h)]
  | cons c text ih =>
    rw [linesFrom]
    split
    · rename_i newline
      refine ⟨endLine read, linesFrom [] text, rfl, ?_⟩
      rw [List.takeWhile_cons_of_neg (by simp [newline]), List.append_nil]
      exact isCutFrom_endLine read
    · rename_i other
      obtain ⟨line, others, cut, isCut⟩ := ih (Or.inl (List.cons_ne_nil c read))
      refine ⟨line, others, cut, ?_⟩
      rwa [List.takeWhile_cons_of_pos (by simpa using other), ← List.singleton_append,
        ← List.append_assoc, ← List.reverse_cons]

theorem prefix_append_newline_iff {start before rest : List Char} (newline : '\n' ∉ start) :
    start <+: before ++ '\n' :: rest ↔ start <+: before := by
  constructor
  · intro isPrefix
    rcases List.prefix_or_prefix_of_prefix isPrefix (List.prefix_append before _) with short | long
    · exact short
    · obtain ⟨tail, rfl⟩ := long
      rw [List.prefix_append_right_inj] at isPrefix
      cases tail with
      | nil => simp
      | cons c tail =>
        rw [List.cons_prefix_cons] at isPrefix
        rw [isPrefix.1] at newline
        simp at newline
  · intro isPrefix
    exact isPrefix.trans (List.prefix_append before _)

theorem exists_prefix_linesFrom_iff {start : List Char} (some : start ≠ [])
    (newline : '\n' ∉ start) (plain : '\r' ∉ start) (read text : List Char) :
    (∃ line ∈ linesFrom read text, start <+: line) ↔
      start <+: read.reverse ++ text ∨ '\n' :: start <:+: text := by
  induction text generalizing read with
  | nil =>
    rw [linesFrom]
    cases read <;> simp [some]
  | cons c text ih =>
    rw [linesFrom, List.infix_cons_iff, List.cons_prefix_cons]
    split
    · rename_i isNewline
      simp only [List.mem_cons, exists_eq_or_imp]
      rw [ih, isNewline, prefix_append_newline_iff newline,
        prefix_iff_of_isCutFrom (isCutFrom_endLine read) plain, eq_self, true_and]
      rfl
    · rename_i other
      rw [ih, List.reverse_cons, List.append_assoc, List.singleton_append, eq_comm (b := c)]
      simp only [other, false_and, false_or]

/-- The lines that a line is, should it have line feeds in it. -/
def cut (line : String) : List String :=
  lines (line ++ "\n")

theorem cut_eq (line : String) :
    cut line = (linesFrom [] (line.toList ++ ['\n'])).map String.ofList := by
  rw [cut, lines, String.toList_append]
  rfl

theorem lines_linesBefore (front : List String) :
    lines (String.ofList (linesBefore front)) = front.flatMap cut := by
  unfold lines
  rw [String.toList_ofList]
  induction front with
  | nil => rfl
  | cons line front ih =>
    have split := linesFrom_append_newline [] line.toList (linesBefore front)
    rw [List.flatMap_cons, ← ih, cut_eq, ← List.map_append, ← split]
    unfold linesBefore
    rw [List.flatMap_cons, List.append_assoc, List.singleton_append]

theorem cut_ne_nil (line : String) : cut line ≠ [] := by
  have length := length_linesFrom [] line.toList
  rw [cut_eq, Ne, List.map_eq_nil_iff]
  exact List.ne_nil_of_length_eq_add_one length

theorem cut_of_newline_not_mem {line : String} (h : '\n' ∉ line.toList) :
    ∃ only, cut line = [only] ∧ IsCutFrom only.toList line.toList := by
  have ends := isCutFrom_endLine line.toList.reverse
  rw [List.reverse_reverse] at ends
  refine ⟨String.ofList (endLine line.toList.reverse), ?_, by rwa [String.toList_ofList]⟩
  rw [cut_eq, linesFrom_of_newline_not_mem h, List.append_nil]
  rfl

theorem cut_eq_cons {line : String} {first rest : List Char}
    (split : line.toList = first ++ '\n' :: rest) (h : '\n' ∉ first) :
    ∃ start, cut line = start :: cut (String.ofList rest) := by
  refine ⟨String.ofList (endLine first.reverse), ?_⟩
  rw [cut_eq, split, List.append_assoc, List.cons_append, linesFrom_of_newline_not_mem h,
    List.append_nil, List.map_cons, cut_eq, String.toList_ofList]

theorem lines_eq_cons {text : String} (h : text.toList ≠ []) :
    ∃ line others, lines text = line :: others ∧
      IsCutFrom line.toList (text.toList.takeWhile (· != '\n')) := by
  obtain ⟨line, others, cut, isCut⟩ := linesFrom_eq_cons (Or.inr h)
  exact ⟨String.ofList line, others.map String.ofList, by rw [lines, cut, List.map_cons],
    by rwa [String.toList_ofList]⟩

theorem exists_prefix_cut_iff {start : List Char} (some : start ≠ []) (newline : '\n' ∉ start)
    (plain : '\r' ∉ start) (line : String) :
    (∃ piece ∈ cut line, start <+: piece.toList) ↔
      start <+: line.toList ∨ '\n' :: start <:+: line.toList := by
  have notLast : ¬('\n' :: start <:+ line.toList ++ ['\n']) := by
    rintro ⟨before, split⟩
    obtain ⟨front, c, rfl⟩ := (List.eq_nil_or_concat start).resolve_left some
    rw [List.concat_eq_append, ← List.cons_append, ← List.append_assoc] at split
    have last := List.append_inj_right' split rfl
    rw [List.singleton_inj.1 last] at newline
    simp at newline
  have cuts := exists_prefix_linesFrom_iff some newline plain [] (line.toList ++ ['\n'])
  rw [List.reverse_nil, List.nil_append, prefix_append_newline_iff newline, List.infix_concat_iff,
    or_iff_right notLast] at cuts
  rw [← cuts, cut_eq]
  constructor
  · rintro ⟨piece, mem, starts⟩
    obtain ⟨chars, isCut, rfl⟩ := List.mem_map.1 mem
    rw [String.toList_ofList] at starts
    exact ⟨chars, isCut, starts⟩
  · rintro ⟨chars, mem, starts⟩
    exact ⟨String.ofList chars, List.mem_map_of_mem mem, by rwa [String.toList_ofList]⟩

end CodeReading.Text
