import CodeReading.Graph.Source
import CodeReading.Proofs.Text.Lines

set_option autoImplicit false

namespace CodeReading

namespace Text

theorem trimEnd_of_getLast? {text : List Char} {c : Char} (last : text.getLast? = some c)
    (shown : isBlank c = false) : trimEnd text = text := by
  obtain ⟨front, rfl⟩ := List.getLast?_eq_some_iff.1 last
  simp [trimEnd, shown]

theorem mem_of_mem_trim {text : List Char} {c : Char} (mem : c ∈ trim text) : c ∈ text := by
  rw [trim, trimEnd, List.mem_reverse] at mem
  have inner := List.mem_reverse.1 ((List.dropWhile_sublist _).subset mem)
  exact (List.dropWhile_sublist _).subset inner

end Text

namespace Node

variable {g : CallGraph} {node : Node}

def upperLines (node : Node) : List String :=
  node.decoratorLines ++ node.header :: node.docLines

theorem bodyLines_ne_nil (g : CallGraph) (node : Node) : node.bodyLines g ≠ [] := by
  intro none
  obtain ⟨uncalled, closed⟩ := List.append_eq_nil_iff.1 none
  have isEmpty : node.calls.isEmpty = true := by
    unfold IdSet.isEmpty
    rw [List.map_eq_nil_iff.1 uncalled]
    rfl
  unfold closingLines at closed
  rw [isEmpty] at closed
  split at closed
  · exact List.cons_ne_nil _ _ closed
  · split at closed <;> exact List.cons_ne_nil _ _ closed

theorem getLast?_of_mem_bodyLines {line : String} (mem : line ∈ node.bodyLines g) :
    ∃ c, line.toList.getLast? = some c ∧ Text.isBlank c = false := by
  rcases List.mem_append.1 mem with call | closing
  · obtain ⟨callee, -, rfl⟩ := List.mem_map.1 call
    refine ⟨')', ?_, by decide⟩
    rw [callLine, String.toList_append, List.getLast?_append]
    rfl
  · refine ⟨'.', ?_, by decide⟩
    unfold closingLines at closing
    split at closing
    · rw [List.mem_singleton.1 closing]
      rfl
    · split at closing
      · rw [List.mem_singleton.1 closing]
        rfl
      · split at closing
        · rw [List.mem_singleton.1 closing]
          rfl
        · exact absurd closing List.not_mem_nil

theorem skeleton_eq (g : CallGraph) (node : Node) :
    node.skeleton g = "\n".intercalate (node.skeletonLines g) := by
  obtain ⟨front, last, body⟩ := (List.eq_nil_or_concat _).resolve_left (bodyLines_ne_nil g node)
  rw [List.concat_eq_append] at body
  have mem : last ∈ node.bodyLines g := by simp [body]
  obtain ⟨c, ends, shown⟩ := getLast?_of_mem_bodyLines mem
  have text : ("\n".intercalate (node.skeletonLines g)).toList
      = Text.linesBefore (node.upperLines ++ front) ++ last.toList := by
    change ("\n".intercalate (node.upperLines ++ node.bodyLines g)).toList = _
    rw [body, ← List.append_assoc, Text.toList_intercalate_append, Text.linesAfter,
      List.flatMap_nil, List.append_nil]
  have final : ("\n".intercalate (node.skeletonLines g)).toList.getLast? = some c := by
    rw [text, List.getLast?_append, ends, Option.some_or]
  rw [skeleton, Text.trimEnd_of_getLast? final shown, String.ofList_toList]

def upperText (node : Node) : String :=
  String.ofList (Text.linesBefore node.upperLines)

def bodyText (g : CallGraph) (node : Node) : String :=
  "\n".intercalate (node.bodyLines g)

theorem toList_upperText (node : Node) :
    node.upperText.toList = Text.linesBefore node.upperLines :=
  String.toList_ofList

theorem toList_skeleton (g : CallGraph) (node : Node) :
    (node.skeleton g).toList = Text.linesBefore node.upperLines ++ (node.bodyText g).toList := by
  obtain ⟨first, rest, body⟩ := List.exists_cons_of_ne_nil (bodyLines_ne_nil g node)
  rw [skeleton_eq, bodyText, body, Text.toList_intercalate_cons]
  change ("\n".intercalate (node.upperLines ++ node.bodyLines g)).toList = _
  rw [body, Text.toList_intercalate_append]

theorem lines_skeleton (g : CallGraph) (node : Node) :
    Text.lines (node.skeleton g) = Text.lines node.upperText ++ Text.lines (node.bodyText g) := by
  unfold Text.lines
  rw [toList_skeleton, Text.linesFrom_linesBefore, List.map_append, toList_upperText]

theorem exists_upperText_eq (node : Node) : ∃ text, node.upperText.toList = text ++ ['\n'] := by
  rw [toList_upperText]
  rcases Text.linesBefore_cases node.upperLines with none | last
  · exact absurd none (by simp [Text.linesBefore, upperLines])
  · exact List.getLast?_eq_some_iff.1 last

theorem linesBefore_lines_upperText_iff :
    Text.linesBefore (Text.lines node.upperText) = Text.linesBefore node.upperLines ↔
      ¬Text.crlf <:+: node.upperText.toList := by
  obtain ⟨text, split⟩ := exists_upperText_eq node
  have cut : Text.linesBefore (Text.lines node.upperText)
      = (Text.linesFrom [] node.upperText.toList).flatMap (· ++ ['\n']) := by
    simp [Text.linesBefore, Text.lines, List.flatMap_map]
  rw [cut, ← toList_upperText, split]
  exact Text.flatMap_linesFrom_eq_iff List.not_mem_nil text

theorem count_newline_upperLines (node : Node) :
    (Text.linesBefore node.upperLines).count '\n' = (Text.lines node.upperText).length := by
  obtain ⟨text, split⟩ := exists_upperText_eq node
  rw [← toList_upperText, Text.lines, List.length_map, split, Text.length_linesFrom,
    List.count_append]
  rfl

theorem newline_not_mem_docSummary {summary : String} (h : node.docSummary = some summary) :
    '\n' ∉ summary.toList := by
  unfold docSummary at h
  split at h
  · dsimp only at h
    split at h
    · cases h
    · rw [← Option.some.inj h, String.toList_ofList]
      intro mem
      have kept := List.all_eq_true.1 List.all_takeWhile _ (Text.mem_of_mem_trim mem)
      simp at kept
  · cases h

/-- The first line of the body, of which a callee's name may have several. -/
def firstBodyLine (g : CallGraph) (node : Node) : String :=
  String.ofList ((node.bodyText g).toList.takeWhile (· != '\n'))

end Node
end CodeReading
