import CodeReading.Challenge.CodeCompletion
import CodeReading.Proofs.Challenge.Made
import CodeReading.Proofs.Graph.Built
import CodeReading.Proofs.Graph.Skeleton
import Mathlib.Data.List.Nodup

set_option autoImplicit false

/-!
# What is shown of a function to be completed

All that stands above the body is to be shown, and none of the body. The lines are found again in
the text of the skeleton, up to the first one that starts like a header, so a line feed in what is
known of the function can end them early or let a line of the body through. They are found as they
are exactly when no decorator has such a line, the header is one line and none of the body is taken
for a docstring, or the header itself is.
-/
namespace CodeReading

namespace CodeCompletion

variable {g : CallGraph} {node : Node}

/-- All that stands above the body of a function, and a placeholder for the body. -/
def headText (node : Node) : String :=
  "\n".intercalate (node.upperLines ++ [placeholder])

theorem toList_join_placeholder (front : List String) :
    ("\n".intercalate (front ++ [placeholder])).toList
      = Text.linesBefore front ++ placeholder.toList := by
  rw [Text.toList_intercalate_append, Text.linesAfter, List.flatMap_nil, List.append_nil]

theorem startsHeader_iff {line : String} :
    startsHeader line = true ↔ ∃ start ∈ headerStarts, start.toList <+: line.toList := by
  simp [startsHeader]

theorem startsDocstring_eq_false_of_startsHeader {line : String} (h : startsHeader line = true) :
    startsDocstring line = false := by
  obtain ⟨start, mem, rest, split⟩ := startsHeader_iff.1 h
  simp only [headerStarts, List.mem_cons, List.not_mem_nil, or_false] at mem
  unfold startsDocstring
  rw [← split]
  rcases mem with rfl | rfl | rfl <;> rfl

theorem headLines_prefix (lines : List String) : headLines lines <+: lines := by
  induction lines with
  | nil => exact List.prefix_refl []
  | cons line lines ih =>
    rw [headLines]
    split
    · rw [List.cons_prefix_cons]
      refine ⟨rfl, ?_⟩
      cases lines with
      | nil => exact List.prefix_refl []
      | cons next lines =>
        cases docstring : startsDocstring next <;> simp [docstring]
    · rw [List.cons_prefix_cons]
      exact ⟨rfl, ih⟩

theorem headLines_eq_append_iff {front rest shown : List String} {line : String}
    (h : startsHeader line = true) :
    headLines (front ++ line :: rest) = front ++ line :: shown ↔
      (∀ other ∈ front, startsHeader other = false) ∧
        (rest.take 1).filter startsDocstring = shown := by
  induction front with
  | nil => simp [headLines, h]
  | cons first front ih =>
    rw [List.cons_append, headLines, List.forall_mem_cons]
    split
    · rename_i early
      refine iff_of_false (fun same => ?_) (fun all => by simp [early] at all)
      -- The line could only be shown as a docstring then.
      rw [List.cons_append, List.cons_inj_right] at same
      have mem : line ∈ ((front ++ line :: rest).take 1).filter startsDocstring := by simp [same]
      have docstring := (List.mem_filter.1 mem).2
      rw [startsDocstring_eq_false_of_startsHeader h] at docstring
      cases docstring
    · rename_i other
      rw [Bool.not_eq_true] at other
      rw [List.cons_append, List.cons_inj_right, ih]
      simp [other]

/-- What is shown is all that stands above the body when the same lines are found again, and none
    of them loses a carriage return. -/
theorem stub_eq_headText_iff :
    stub g node = headText node ↔
      headLines (Text.lines (node.skeleton g)) = Text.lines node.upperText ∧
        ¬Text.crlf <:+: node.upperText.toList := by
  have joined : stub g node = headText node ↔
      Text.linesBefore (headLines (Text.lines (node.skeleton g)))
        = Text.linesBefore node.upperLines := by
    rw [stub, headText, ← String.toList_inj, toList_join_placeholder, toList_join_placeholder,
      List.append_left_inj]
  rw [joined]
  constructor
  · intro same
    -- The lines shown come first in the skeleton, and line feeds count them.
    have shown := headLines_prefix (Text.lines (node.skeleton g))
    have count := Text.count_newline_linesBefore fun line mem =>
      Text.newline_not_mem_lines (shown.subset mem)
    rw [same, Node.count_newline_upperLines] at count
    rw [Node.lines_skeleton] at shown count same ⊢
    have isPrefix := List.prefix_of_prefix_length_le shown (List.prefix_append _ _)
      (Nat.le_of_eq count.symm)
    have found := isPrefix.eq_of_length count.symm
    refine ⟨found, Node.linesBefore_lines_upperText_iff.1 ?_⟩
    rw [← found, same]
  · rintro ⟨found, kept⟩
    rw [found]
    exact Node.linesBefore_lines_upperText_iff.2 kept

theorem startsDocstring_of_isCutFrom {line full : String}
    (h : Text.IsCutFrom line.toList full.toList) : startsDocstring line = startsDocstring full := by
  unfold startsDocstring Text.trimStart
  rcases h with same | longer
  · rw [same]
  · rw [← longer, List.dropWhile_append, Bool.eq_iff_iff, List.isPrefixOf_iff_prefix,
      List.isPrefixOf_iff_prefix]
    split
    · rename_i blank
      rw [List.isEmpty_iff.1 blank]
      exact iff_of_false (by decide) (by decide)
    · have plain : '\r' ∉ ['"', '"', '"'] := by decide
      exact Text.prefix_iff_of_isCutFrom (Or.inr rfl) plain

theorem plain_of_mem_headerStarts {start : String} (mem : start ∈ headerStarts) :
    start.toList ≠ [] ∧ '\n' ∉ start.toList ∧ '\r' ∉ start.toList ∧
      start.toList.head? ≠ some '@' := by
  have plain : ∀ start ∈ headerStarts, start.toList ≠ [] ∧ '\n' ∉ start.toList ∧
      '\r' ∉ start.toList ∧ start.toList.head? ≠ some '@' := by decide
  exact plain start mem

theorem startsHeader_cut_decorator_iff {line : String} (h : line ∈ node.decoratorLines) :
    (∃ piece ∈ Text.cut line, startsHeader piece = true) ↔
      ∃ start ∈ headerStarts, '\n' :: start.toList <:+: line.toList := by
  have inside : ∀ start ∈ headerStarts, ((∃ piece ∈ Text.cut line, start.toList <+: piece.toList) ↔
      '\n' :: start.toList <:+: line.toList) := by
    intro start mem
    obtain ⟨some, newline, plain, unsigned⟩ := plain_of_mem_headerStarts mem
    have notFirst : ¬start.toList <+: line.toList := by
      obtain ⟨decorator, -, rfl⟩ := List.mem_map.1 h
      rintro ⟨rest, split⟩
      obtain ⟨c, text, chars⟩ := List.exists_cons_of_ne_nil some
      rw [chars, List.cons_append, String.toList_append] at split
      have sign : c = '@' := (List.cons.inj split).1
      rw [chars, sign] at unsigned
      exact unsigned rfl
    rw [Text.exists_prefix_cut_iff some newline plain, or_iff_right notFirst]
  constructor
  · rintro ⟨piece, mem, like⟩
    obtain ⟨start, isStart, found⟩ := startsHeader_iff.1 like
    exact ⟨start, isStart, (inside start isStart).1 ⟨piece, mem, found⟩⟩
  · rintro ⟨start, isStart, found⟩
    obtain ⟨piece, mem, starts⟩ := (inside start isStart).2 found
    exact ⟨piece, mem, startsHeader_iff.2 ⟨start, isStart, starts⟩⟩

theorem keyword_mem (node : Node) : node.keyword ++ " " ∈ headerStarts := by
  unfold Node.keyword
  split
  · decide
  · split <;> decide

theorem exists_cut_header (node : Node) :
    ∃ first more, Text.cut node.header = first :: more ∧ startsHeader first = true := by
  obtain ⟨rest, header⟩ : (node.keyword ++ " ").toList <+: (node.header ++ "\n").toList := by
    simp only [Node.header, String.toList_append, List.append_assoc, List.prefix_append_right_inj]
    exact List.prefix_append _ _
  obtain ⟨-, newline, plain, -⟩ := plain_of_mem_headerStarts (keyword_mem node)
  have some : (node.header ++ "\n").toList ≠ [] := by simp
  obtain ⟨first, more, cut, isCut⟩ := Text.lines_eq_cons some
  refine ⟨first, more, cut, startsHeader_iff.2 ⟨_, keyword_mem node, ?_⟩⟩
  rw [Text.prefix_iff_of_isCutFrom isCut plain, ← header, List.takeWhile_append_of_pos]
  · exact List.prefix_append _ _
  · intro c mem
    refine bne_iff_ne.2 ?_
    rintro rfl
    exact newline mem

theorem cut_docLines_of_none (h : node.docSummary = none) : node.docLines.flatMap Text.cut = [] := by
  rw [Node.docLines, h]
  rfl

theorem cut_docLines_of_some (h : node.docSummary.isSome) :
    ∃ doc, node.docLines.flatMap Text.cut = [doc] ∧ startsDocstring doc = true := by
  obtain ⟨summary, documented⟩ := Option.isSome_iff_exists.1 h
  have plain := Node.newline_not_mem_docSummary documented
  have oneLine : '\n' ∉ ("    \"\"\"" ++ summary ++ ".\"\"\"").toList := by simp [plain]
  obtain ⟨only, cut, isCut⟩ := Text.cut_of_newline_not_mem oneLine
  refine ⟨only, ?_, ?_⟩
  · rw [Node.docLines, documented]
    simp [cut]
  · rw [startsDocstring_of_isCutFrom isCut]
    unfold startsDocstring
    rw [String.append_assoc, String.toList_append]
    rfl

theorem cut_docLines_eq_nil_iff : node.docLines.flatMap Text.cut = [] ↔ node.docSummary = none := by
  refine ⟨fun none => ?_, cut_docLines_of_none⟩
  rw [← Option.not_isSome_iff_eq_none]
  intro documented
  obtain ⟨doc, some, -⟩ := cut_docLines_of_some documented
  rw [some] at none
  cases none

theorem exists_lines_bodyText (g : CallGraph) (node : Node) :
    ∃ first rest, Text.lines (node.bodyText g) = first :: rest ∧
      startsDocstring first = startsDocstring (node.firstBodyLine g) := by
  obtain ⟨line, lines, body⟩ := List.exists_cons_of_ne_nil (Node.bodyLines_ne_nil g node)
  have mem : line ∈ node.bodyLines g := by simp [body]
  obtain ⟨c, last, -⟩ := Node.getLast?_of_mem_bodyLines mem
  have some : (node.bodyText g).toList ≠ [] := by
    rw [Node.bodyText, body, Text.toList_intercalate_cons]
    intro none
    rw [(List.append_eq_nil_iff.1 none).1] at last
    cases last
  obtain ⟨first, rest, cut, isCut⟩ := Text.lines_eq_cons some
  refine ⟨first, rest, cut, startsDocstring_of_isCutFrom ?_⟩
  rwa [Node.firstBodyLine, String.toList_ofList]

/-- Whether what is found from the header on stops where the body starts. The line below the header
    is taken for a docstring when it starts like one, be it a line of the body or of the header. -/
inductive StopsAtBody (g : CallGraph) (node : Node) : Prop
  | documented (oneLine : '\n' ∉ node.header.toList) (documented : node.docSummary.isSome)
  | undocumented (oneLine : '\n' ∉ node.header.toList) (undocumented : node.docSummary = none)
      (plain : startsDocstring (node.firstBodyLine g) = false)
  | quoted {first second : List Char} (twoLines : node.header.toList = first ++ '\n' :: second)
      (oneFirst : '\n' ∉ first) (oneSecond : '\n' ∉ second)
      (undocumented : node.docSummary = none)
      (quoted : startsDocstring (String.ofList second) = true)

theorem stopsAtBody_iff_of_oneLine (h : '\n' ∉ node.header.toList) :
    StopsAtBody g node ↔
      (node.docSummary = none → startsDocstring (node.firstBodyLine g) = false) := by
  constructor
  · intro stops undocumented
    cases stops with
    | documented _ documented =>
      rw [undocumented] at documented
      cases documented
    | undocumented _ _ plain => exact plain
    | quoted twoLines => simp [twoLines] at h
  · intro plain
    cases documented : node.docSummary with
    | none => exact .undocumented h documented (plain documented)
    | some summary => exact .documented h (by rw [documented]; rfl)

theorem stopsAtBody_iff_of_newline {front back : List Char}
    (split : node.header.toList = front ++ '\n' :: back) (h : '\n' ∉ front) :
    StopsAtBody g node ↔
      node.docSummary = none ∧ '\n' ∉ back ∧ startsDocstring (String.ofList back) = true := by
  have newline : '\n' ∈ node.header.toList := by simp [split]
  constructor
  · intro stops
    cases stops with
    | documented oneLine => exact absurd newline oneLine
    | undocumented oneLine => exact absurd newline oneLine
    | quoted twoLines oneFirst oneSecond undocumented quoted =>
      obtain ⟨-, -, rfl⟩ := (List.append_cons_inj_of_notMem oneFirst oneSecond).1
        (twoLines.symm.trans split)
      exact ⟨undocumented, oneSecond, quoted⟩
  · rintro ⟨undocumented, oneSecond, quoted⟩
    exact .quoted split h oneSecond undocumented quoted

theorem filter_take_one_eq_iff {shown : String → Bool} {line : String} {more rest : List String} :
    ((line :: more ++ rest).take 1).filter shown = line :: more ↔ shown line = true ∧ more = [] := by
  cases isShown : shown line <;> simp [isShown, eq_comm]

theorem stopsAtBody_iff {first : String} {more : List String}
    (cut : Text.cut node.header = first :: more) :
    ((more ++ node.docLines.flatMap Text.cut ++ Text.lines (node.bodyText g)).take 1).filter
        startsDocstring = more ++ node.docLines.flatMap Text.cut ↔ StopsAtBody g node := by
  -- At most one line is shown below, so a header of three lines is never shown whole.
  by_cases newline : '\n' ∈ node.header.toList
  · obtain ⟨front, back, split, oneFront⟩ := List.eq_append_cons_of_mem newline
    obtain ⟨start, cuts⟩ := Text.cut_eq_cons split oneFront
    obtain ⟨-, rfl⟩ := List.cons.inj (cuts.symm.trans cut)
    rw [stopsAtBody_iff_of_newline split oneFront]
    by_cases third : '\n' ∈ back
    · obtain ⟨middle, rest, splitBack, oneMiddle⟩ := List.eq_append_cons_of_mem third
      rw [← String.toList_ofList (l := back)] at splitBack
      obtain ⟨second, cutBack⟩ := Text.cut_eq_cons splitBack oneMiddle
      rw [cutBack, List.cons_append, filter_take_one_eq_iff, List.append_eq_nil_iff]
      refine iff_of_false ?_ ?_
      · rintro ⟨-, last, -⟩
        exact Text.cut_ne_nil _ last
      · rintro ⟨-, last, -⟩
        exact last third
    · have oneBack : '\n' ∉ (String.ofList back).toList := by rwa [String.toList_ofList]
      obtain ⟨second, cutBack, isCut⟩ := Text.cut_of_newline_not_mem oneBack
      rw [cutBack, List.singleton_append, filter_take_one_eq_iff,
        startsDocstring_of_isCutFrom isCut, cut_docLines_eq_nil_iff, and_comm]
      simp [third]
  · obtain ⟨only, cuts, -⟩ := Text.cut_of_newline_not_mem newline
    obtain ⟨-, rfl⟩ := List.cons.inj (cuts.symm.trans cut)
    rw [List.nil_append, stopsAtBody_iff_of_oneLine newline]
    cases documented : node.docSummary with
    | none =>
      obtain ⟨below, rest, body, sameStart⟩ := exists_lines_bodyText g node
      rw [cut_docLines_of_none documented, List.nil_append, body, ← sameStart]
      simp
    | some summary =>
      obtain ⟨doc, docs, quoted⟩ := cut_docLines_of_some (by rw [documented]; rfl)
      rw [docs]
      exact iff_of_true (filter_take_one_eq_iff.2 ⟨quoted, rfl⟩) nofun

/-- The lines above the body are found again when the header is the first line that starts like one,
    and what is found from it on stops where the body starts. -/
theorem headLines_skeleton_eq_iff :
    headLines (Text.lines (node.skeleton g)) = Text.lines node.upperText ↔
      (∀ line ∈ node.decoratorLines, ∀ start ∈ headerStarts,
        ¬('\n' :: start.toList <:+: line.toList)) ∧ StopsAtBody g node := by
  obtain ⟨first, more, cut, isHeader⟩ := exists_cut_header node
  have upper : Text.lines node.upperText = node.decoratorLines.flatMap Text.cut
      ++ first :: (more ++ node.docLines.flatMap Text.cut) := by
    rw [Node.upperText, Text.lines_linesBefore, Node.upperLines, List.flatMap_append,
      List.flatMap_cons, cut, List.cons_append]
  have decorators : (∀ line ∈ node.decoratorLines.flatMap Text.cut, startsHeader line = false) ↔
      ∀ line ∈ node.decoratorLines, ∀ start ∈ headerStarts,
        ¬('\n' :: start.toList <:+: line.toList) := by
    rw [List.forall_mem_flatMap]
    refine forall₂_congr fun line mem => ?_
    have inside := not_congr (startsHeader_cut_decorator_iff mem)
    simpa using inside
  rw [Node.lines_skeleton, upper, List.append_assoc, List.cons_append,
    headLines_eq_append_iff isHeader, decorators, stopsAtBody_iff cut]

/-- Whether the lines above the body can be found again as they are. -/
structure IsLegible (g : CallGraph) (node : Node) : Prop where
  returns : ¬Text.crlf <:+: node.upperText.toList
  decorators : ∀ line ∈ node.decoratorLines, ∀ start ∈ headerStarts,
    ¬('\n' :: start.toList <:+: line.toList)
  below : StopsAtBody g node

theorem stub_eq_headText_iff_isLegible : stub g node = headText node ↔ IsLegible g node := by
  rw [stub_eq_headText_iff, headLines_skeleton_eq_iff]
  constructor
  · rintro ⟨⟨decorators, below⟩, returns⟩
    exact ⟨returns, decorators, below⟩
  · rintro ⟨returns, decorators, below⟩
    exact ⟨⟨decorators, below⟩, returns⟩

variable {m : Material} {chain : Chain} {challenge : Challenge}

theorem code_spec (m : Material) (node : Node) : (spec m node).code = stub m.graph node := by
  unfold spec
  dsimp only

/-- A question shows lines from the start of the skeleton and a placeholder. They are all that
    stands above the body, and none of it, exactly when those lines can be found again. -/
theorem generate_showsHead (h : generate m chain = .ok challenge) :
    ∃ node spec, target? (m.nodes chain) = some node ∧ challenge.spec = .codeCompletion spec ∧
      (∃ shown, shown <+: Text.lines (node.skeleton m.graph) ∧
        spec.code = "\n".intercalate (shown ++ [placeholder])) ∧
      (spec.code = headText node ↔ IsLegible m.graph node) := by
  unfold generate at h
  obtain ⟨node, found, h⟩ := bind_eq_ok_iff.1 h
  rw [orGap_eq_ok_iff] at found
  cases h
  have shown := headLines_prefix (Text.lines (node.skeleton m.graph))
  refine ⟨node, spec m node, found, rfl, ⟨_, shown, ?_⟩, ?_⟩
  · rw [code_spec, stub]
  · rw [code_spec]
    exact stub_eq_headText_iff_isLegible

def handler : Node :=
  { id := "handle", name := "handle", kind := .function,
    parameters := [{ name := "request", typeHint := some "Request" }],
    returnType := some "Response", decorators := ["login_required"],
    docstring := some "Handle a request. Details follow." }

def handlerDraft : Draft where
  nodes := [handler, { id := "render", name := "render", kind := .function }]
  edges := [⟨"handle", "render", 1⟩]
  lenient := true

def retryNode : Node :=
  { id := "fetch", name := "fetch", kind := .function,
    parameters := [{ name := "options", defaultValue := some "\x7b\n    'retries': 3,\n\x7d" }],
    returnType := some "int" }

def retryDraft : Draft where
  nodes := [retryNode]
  lenient := true

def draftMaterial (draft : Draft) : Material :=
  ⟨draft.build.toOption.getD ⟨[], [], ∅⟩, SourceLookup.none, {}⟩

def handlerNode : Node := { handler with calls := ⟨["render"], by decide⟩ }

def handlerChain : Chain := ⟨["handle", "render"], by decide, by decide⟩

def retryChain : Chain := ⟨["fetch"], by decide, by decide⟩

theorem target?_handler :
    target? ((draftMaterial handlerDraft).nodes handlerChain) = some handlerNode := by
  decide +kernel

theorem target?_retry :
    target? ((draftMaterial retryDraft).nodes retryChain) = some retryNode := by
  decide +kernel

theorem isLegible_handler : IsLegible (draftMaterial handlerDraft).graph handlerNode where
  returns := by decide +kernel
  decorators := by decide +kernel
  below := .documented (by decide +kernel) (by decide +kernel)

theorem generate_showsHead_handler :
    ∃ challenge spec, generate (draftMaterial handlerDraft) handlerChain = .ok challenge ∧
      challenge.spec = .codeCompletion spec ∧ spec.code = "@login_required\n"
        ++ "def handle(request: Request) -> Response:\n"
        ++ "    \"\"\"Handle a request.\"\"\"\n" ++ "    ...  # complete the body" := by
  have head : headText handlerNode = "@login_required\n"
      ++ "def handle(request: Request) -> Response:\n"
      ++ "    \"\"\"Handle a request.\"\"\"\n" ++ "    ...  # complete the body" := by
    decide +kernel
  obtain ⟨challenge, succeeds⟩ : ∃ challenge,
      generate (draftMaterial handlerDraft) handlerChain = .ok challenge :=
    ⟨_, bind_eq_ok_iff.2 ⟨handlerNode, orGap_eq_ok_iff.2 target?_handler, rfl⟩⟩
  obtain ⟨node, spec, found, asked, -, shows⟩ := generate_showsHead succeeds
  cases Option.some.inj (target?_handler.symm.trans found)
  exact ⟨challenge, spec, succeeds, asked, (shows.2 isLegible_handler).trans head⟩

/-- A header of several lines is cut off behind its first line. -/
theorem generate_cutsHead_retry :
    (draftMaterial retryDraft).graph.Built ∧ ∃ challenge spec node,
      generate (draftMaterial retryDraft) retryChain = .ok challenge ∧
        challenge.spec = .codeCompletion spec ∧
        target? ((draftMaterial retryDraft).nodes retryChain) = some node ∧
        headText node = "def fetch(options = \x7b\n" ++ "    'retries': 3,\n"
          ++ "\x7d) -> int:\n" ++ "    ...  # complete the body" ∧
        spec.code = "def fetch(options = \x7b\n" ++ "    ...  # complete the body" := by
  have head : headText retryNode = "def fetch(options = \x7b\n" ++ "    'retries': 3,\n"
      ++ "\x7d) -> int:\n" ++ "    ...  # complete the body" := by
    decide +kernel
  have code : stub (draftMaterial retryDraft).graph retryNode
      = "def fetch(options = \x7b\n" ++ "    ...  # complete the body" := by
    decide +kernel
  exact ⟨⟨retryDraft, rfl⟩, _, _, retryNode,
    bind_eq_ok_iff.2 ⟨retryNode, orGap_eq_ok_iff.2 target?_retry, rfl⟩, rfl, target?_retry, head,
    (code_spec _ _).trans code⟩

end CodeCompletion
end CodeReading
