import CodeReading.Curriculum.Record
import CodeReading.Proofs.Challenge.Candidates

set_option autoImplicit false

namespace CodeReading.FillBlank

variable {places : List Nat} {spans : List Span} {tail : List Char} {callees : List (List Char)}
  {m : Material} {node : Node}

structure Piece where
  shown : List Char
  blank : Blank

def Piece.text (piece : Piece) : List Char :=
  piece.shown ++ piece.blank.text.toList

def Piece.code (piece : Piece) : List Char :=
  piece.shown ++ (placeholder piece.blank.index).toList

/-- Segments after some shown text as pieces, and what is shown behind the last one. -/
def piecesFrom (shown : List Char) (index : Nat) : List Segment → List Piece × List Char
  | [] => ([], shown)
  | .shown text :: rest => piecesFrom (shown ++ text) index rest
  | .hidden kind text :: rest =>
    (⟨shown, ⟨index, String.ofList text, kind⟩⟩ :: (piecesFrom [] (index + 1) rest).1,
      (piecesFrom [] (index + 1) rest).2)

theorem flatMap_text_piecesFrom (shown : List Char) (index : Nat) (segments : List Segment) :
    (piecesFrom shown index segments).1.flatMap Piece.text ++ (piecesFrom shown index segments).2
      = shown ++ segments.flatMap Segment.text := by
  fun_induction piecesFrom shown index segments with
  | case1 shown index => exact (List.append_nil shown).symm
  | case2 shown index text rest ih =>
    rw [ih, List.flatMap_cons, List.append_assoc]
    rfl
  | case3 shown index kind text rest ih =>
    rw [List.flatMap_cons, List.append_assoc, ih]
    simp [Piece.text, Segment.text]

theorem flatMap_code_piecesFrom (shown : List Char) (index : Nat) (segments : List Segment) :
    (piecesFrom shown index segments).1.flatMap Piece.code ++ (piecesFrom shown index segments).2
      = shown ++ codeFrom index segments := by
  fun_induction piecesFrom shown index segments with
  | case1 shown index => exact (List.append_nil shown).symm
  | case2 shown index text rest ih =>
    rw [ih, codeFrom, List.append_assoc]
  | case3 shown index kind text rest ih =>
    rw [List.flatMap_cons, List.append_assoc, ih]
    simp [Piece.code, codeFrom]

theorem map_blank_piecesFrom (shown : List Char) (index : Nat) (segments : List Segment) :
    (piecesFrom shown index segments).1.map Piece.blank = blanksFrom index segments := by
  fun_induction piecesFrom shown index segments with
  | case1 shown index => rfl
  | case2 shown index text rest ih => exact ih
  | case3 shown index kind text rest ih => rw [List.map_cons, ih, blanksFrom]

theorem map_index_blanksFrom (index : Nat) (segments : List Segment) :
    (blanksFrom index segments).map Blank.index
      = List.range' index (blanksFrom index segments).length := by
  fun_induction blanksFrom index segments with
  | case1 index => rfl
  | case2 index text rest ih => exact ih
  | case3 index kind text rest ih => rw [List.map_cons, ih, List.length_cons, List.range'_succ]

/-- A piece ends with a hidden segment; all of the text before and after it is in the other
    pieces. -/
theorem exists_hidden_of_piecesFrom {shown : List Char} {index : Nat} {segments : List Segment}
    {front back : List Piece} {piece : Piece}
    (split : (piecesFrom shown index segments).1 = front ++ piece :: back) :
    ∃ before after, segments = before ++ .hidden piece.blank.kind piece.blank.text.toList :: after ∧
      front.flatMap Piece.text ++ piece.shown = shown ++ before.flatMap Segment.text ∧
      back.flatMap Piece.text ++ (piecesFrom shown index segments).2
        = after.flatMap Segment.text := by
  fun_induction piecesFrom shown index segments generalizing front with
  | case1 shown index => simp at split
  | case2 shown index text rest ih =>
    obtain ⟨before, after, rfl, shownBefore, shownAfter⟩ := ih split
    refine ⟨.shown text :: before, after, rfl, ?_, shownAfter⟩
    rw [shownBefore, List.flatMap_cons, List.append_assoc]
    rfl
  | case3 shown index kind text rest ih =>
    cases front with
    | nil =>
      cases split
      refine ⟨[], rest, ?_, (List.append_nil shown).symm, flatMap_text_piecesFrom _ _ _⟩
      rw [String.toList_ofList]
      rfl
    | cons first front =>
      rw [List.cons_append, List.cons.injEq] at split
      obtain ⟨rfl, split⟩ := split
      obtain ⟨before, after, rfl, shownBefore, shownAfter⟩ := ih split
      refine ⟨.hidden kind text :: before, after, rfl, ?_, shownAfter⟩
      rw [List.flatMap_cons, List.append_assoc, shownBefore]
      simp [Piece.text, Segment.text]

theorem cut_cases (places : List Nat) (span : Span) (place : Nat) :
    cut places span place = [.shown (span.gap ++ span.text)] ∨
      ∃ kind, span.kind = some kind ∧
        cut places span place = [.shown span.gap, .hidden kind span.text] := by
  unfold cut
  cases span.kind with
  | none => exact Or.inl rfl
  | some kind =>
    by_cases hidden : place ∈ places
    · exact Or.inr ⟨kind, rfl, if_pos hidden⟩
    · exact Or.inl (if_neg hidden)

/-- Whether a hidden text is that of a span, and the segments around it are written of the spans
    around that one. -/
structure IsSpanAt (tail : List Char) (before : List Span) (span : Span) (after : List Span)
    (front : List Segment) (kind : BlankKind) (text : List Char) (back : List Segment) : Prop where
  kind : span.kind = some kind
  text : span.text = text
  front : front.flatMap Segment.text = spelledSpans before ++ span.gap
  back : back.flatMap Segment.text = spelledSpans after ++ tail

theorem IsSpanAt.cons {before after : List Span} {span : Span} {front back : List Segment}
    {kind : BlankKind} {text : List Char}
    (isSpan : IsSpanAt tail before span after front kind text back) (places : List Nat)
    (first : Span) (place : Nat) :
    IsSpanAt tail (first :: before) span after (cut places first place ++ front) kind text back :=
  { isSpan with
    front := by
      rw [List.flatMap_append, flatMap_cut, isSpan.front, spelledSpans_cons, ← List.append_assoc] }

theorem exists_span_of_segments {start : Nat} {front back : List Segment} {kind : BlankKind}
    {text : List Char}
    (split : ((spans.zipIdx start).flatMap fun (span, place) => cut places span place)
        ++ [.shown tail] = front ++ .hidden kind text :: back) :
    ∃ before span after, spans = before ++ span :: after ∧
      IsSpanAt tail before span after front kind text back := by
  induction spans generalizing start front with
  | nil =>
    have mem : Segment.hidden kind text ∈ [Segment.shown tail] := by
      rw [show [Segment.shown tail] = _ from split]
      exact List.mem_append_right _ List.mem_cons_self
    cases List.mem_singleton.1 mem
  | cons span spans ih =>
    rw [List.zipIdx_cons, List.flatMap_cons, List.append_assoc] at split
    change cut places span start ++ _ = _ at split
    have shownRest : (((spans.zipIdx (start + 1)).flatMap fun (span, place) =>
        cut places span place) ++ [Segment.shown tail]).flatMap Segment.text
        = spelledSpans spans ++ tail := by
      rw [List.flatMap_append, flatMap_cuts, List.flatMap_singleton]
      rfl
    -- The segment is cut off this span, or off a later one.
    rcases cut_cases places span start with plain | ⟨own, isKind, hidden⟩
    · rw [plain] at split
      cases front with
      | nil => cases split
      | cons first front =>
        obtain ⟨rfl, rest⟩ := List.cons.inj split
        obtain ⟨before, other, after, rfl, isSpan⟩ := ih rest
        have whole := isSpan.cons places span start
        rw [plain] at whole
        exact ⟨span :: before, other, after, rfl, whole⟩
    · rw [hidden] at split
      rcases front with _ | ⟨first, _ | ⟨second, front⟩⟩
      · cases split
      · cases split
        exact ⟨[], span, spans, rfl, isKind, rfl, List.append_nil _, shownRest⟩
      · obtain ⟨rfl, inner⟩ := List.cons.inj split
        obtain ⟨rfl, rest⟩ := List.cons.inj inner
        obtain ⟨before, other, after, rfl, isSpan⟩ := ih rest
        have whole := isSpan.cons places span start
        rw [hidden] at whole
        exact ⟨span :: before, other, after, rfl, whole⟩

theorem candidates_eq_nil_iff : candidates spans = [] ↔ ∀ span ∈ spans, span.kind = none := by
  unfold candidates
  rw [List.filterMap_eq_nil_iff]
  constructor
  · intro none span mem
    obtain ⟨place, found⟩ := List.getElem?_of_mem mem
    have listed : (span, place) ∈ spans.zipIdx := List.mem_zipIdx_iff_getElem?.2 found
    exact Option.map_eq_none_iff.1 (none _ listed)
  · rintro none ⟨span, place⟩ listed
    exact Option.map_eq_none_iff.2 (none span (List.fst_mem_of_mem_zipIdx listed))

theorem blanks_ne_nil {budget : Nat} (room : 0 < budget) (some : candidates spans ≠ []) :
    (segments (chosen budget spans) spans tail).filterMap Segment.blank? ≠ [] := by
  have many : 0 < (chosen budget spans).length := by
    have listed := List.length_pos_of_ne_nil some
    unfold chosen
    rw [List.length_map, List.length_take, List.length_mergeSort]
    exact Nat.lt_min.2 ⟨room, listed⟩
  obtain ⟨place, isChosen⟩ := List.exists_mem_of_length_pos many
  obtain ⟨⟨kind, place⟩, taken, rfl⟩ := List.mem_map.1 isChosen
  have candidate : (kind, place) ∈ candidates spans :=
    List.mem_mergeSort.1 (List.mem_of_mem_take taken)
  obtain ⟨⟨span, place⟩, listed, paired⟩ := List.mem_filterMap.1 candidate
  obtain ⟨kind, isKind, same⟩ := Option.map_eq_some_iff.1 paired
  cases same
  have hidden : (kind, span.text) ∈ (cut (chosen budget spans) span place).filterMap
      Segment.blank? := by
    rw [blanks_cut, if_pos isChosen, isKind]
    exact List.mem_singleton_self _
  unfold segments
  rw [List.filterMap_append, List.filterMap_flatMap]
  exact List.ne_nil_of_mem
    (List.mem_append_left _ (List.mem_flatMap.2 ⟨(span, place), listed, hidden⟩))

def calleeTexts (m : Material) (node : Node) : List (List Char) :=
  (m.calleeNames node).map String.toList

/-- Whether the text of a node has room for a blank and a word that may be one. -/
structure CanBlank (m : Material) (node : Node) : Prop where
  room : 0 < budget m.config (wordCount (m.text node).toList)
  candidate : ∃ before word after kind, (m.text node).toList = before ++ (word ++ after) ∧
    IsWordAt before word after ∧ IsCandidate (calleeTexts m node) before word after kind

/-- Whether a blank hides a run of words at its place, or a single one unless it is a decorator, the
    first of which may be blanked. -/
structure IsHiddenAt (callees : List (List Char)) (before : List Char) (blank : Blank)
    (after : List Char) : Prop where
  run : IsRunAt before blank.text.toList after
  single : blank.kind ≠ .decorator → IsWordAt before blank.text.toList after
  candidate : ∃ word rest, blank.text.toList = word ++ rest ∧
    IsWordAt before word (rest ++ after) ∧
      IsCandidate callees before word (rest ++ after) blank.kind

/-- Whether a question is the text of a node, cut into pieces, with a numbered placeholder for each
    word that is hidden. -/
structure IsFaithful (m : Material) (node : Node) (spec : FillBlankSpec) (pieces : List Piece)
    (last : List Char) : Prop where
  function : spec.function = node.name
  text : (m.text node).toList = pieces.flatMap Piece.text ++ last
  code : spec.code.toList = pieces.flatMap Piece.code ++ last
  blanks : spec.blanks = pieces.map Piece.blank
  numbered : spec.blanks.map Blank.index = List.range' 1 pieces.length
  counted : (ChallengeSpec.fillBlank spec).question.member? "blank_count"
    = some (.nat pieces.length)
  nonempty : 1 ≤ pieces.length
  few : pieces.length ≤ m.config.maxBlanks.toNat
  hidden : ∀ front piece back, pieces = front ++ piece :: back →
    IsHiddenAt (calleeTexts m node) (front.flatMap Piece.text ++ piece.shown) piece.blank
      (back.flatMap Piece.text ++ last)

theorem blankOut?_eq (m : Material) (node : Node) :
    blankOut? m.config (m.calleeNames node) (m.text node)
      = if budget m.config (wordCount (m.text node).toList) = 0
          ∨ candidates (spansOf (calleeTexts m node) (m.text node).toList) = [] then none
        else some (segments
          (chosen (budget m.config (wordCount (m.text node).toList))
            (spansOf (calleeTexts m node) (m.text node).toList))
          (spansOf (calleeTexts m node) (m.text node).toList) (words (m.text node).toList).2) :=
  blankOut?_eq_ite _ _ _

theorem canBlank_iff : CanBlank m node ↔
    ¬(budget m.config (wordCount (m.text node).toList) = 0
      ∨ candidates (spansOf (calleeTexts m node) (m.text node).toList) = []) := by
  have some : ¬candidates (spansOf (calleeTexts m node) (m.text node).toList) = [] ↔
      ∃ before word after kind, (m.text node).toList = before ++ (word ++ after) ∧
        IsWordAt before word after ∧ IsCandidate (calleeTexts m node) before word after kind := by
    rw [← exists_span_iff, candidates_eq_nil_iff]
    simp
  rw [not_or, some, ← ne_eq, ← Nat.pos_iff_ne_zero]
  exact ⟨fun h => ⟨h.room, h.candidate⟩, fun h => ⟨h.1, h.2⟩⟩

theorem blankOut?_eq_none_iff :
    blankOut? m.config (m.calleeNames node) (m.text node) = none ↔ ¬CanBlank m node := by
  rw [blankOut?_eq, canBlank_iff, not_not]
  split_ifs with none <;> simp [none]

theorem isHiddenAt_of_spansOf {text : List Char} {front back : List Span} {span : Span}
    {blank : Blank} (split : spansOf callees text = front ++ span :: back)
    (isKind : span.kind = some blank.kind) (isText : span.text = blank.text.toList) :
    IsHiddenAt callees (spelledSpans front ++ span.gap) blank
      (spelledSpans back ++ (words text).2) := by
  obtain ⟨others, word, run, later, whole, before, after, isSpan⟩ :=
    exists_words_of_spansFrom split
  rw [before, after, isSpan.gap]
  have hidden : blank.text.toList = joined word run := isText.symm.trans isSpan.text
  have first : IsWordAt (spelled others ++ word.gap) word.text
      (spelled (run ++ later) ++ (words text).2) := isWordAt_of_words whole
  have candidate := isCandidate_of_isSpanOf whole isSpan isKind
  rw [spelled_append, List.append_assoc] at first candidate
  refine ⟨hidden ▸ isRunAt_of_words whole isSpan.dotted, ?_, word.text, spelled run, hidden, first,
    candidate⟩
  intro other
  have alone : run = [] := isSpan.single (isKind ▸ fun same => other (Option.some.inj same))
  subst alone
  rw [hidden, joined_nil]
  exact first

theorem isHiddenAt_of_piecesFrom {text : List Char} {front back : List Piece} {piece : Piece}
    (split : (piecesFrom [] 1 (segments places (spansOf callees text) (words text).2)).1
      = front ++ piece :: back) :
    IsHiddenAt callees (front.flatMap Piece.text ++ piece.shown) piece.blank
      (back.flatMap Piece.text
        ++ (piecesFrom [] 1 (segments places (spansOf callees text) (words text).2)).2) := by
  obtain ⟨before, after, cuts, shownBefore, shownAfter⟩ := exists_hidden_of_piecesFrom split
  obtain ⟨front, span, back, spans, isSpan⟩ := exists_span_of_segments cuts
  rw [shownBefore, shownAfter, List.nil_append, isSpan.front, isSpan.back]
  exact isHiddenAt_of_spansOf spans isSpan.kind isSpan.text

theorem isFaithful_of_blankOut? {segments : List Segment}
    (h : blankOut? m.config (m.calleeNames node) (m.text node) = some segments) :
    IsFaithful m node (spec node segments) (piecesFrom [] 1 segments).1
      (piecesFrom [] 1 segments).2 := by
  have lossless := (isCut_of_blankOut? h).lossless
  have blanks := map_blank_piecesFrom [] 1 segments
  have count : (blanksFrom 1 segments).length = (piecesFrom [] 1 segments).1.length := by
    rw [← blanks, List.length_map]
  have hiddenCount : (blanksFrom 1 segments).length
      = (segments.filterMap Segment.blank?).length := by
    rw [← map_blanksFrom 1, List.length_map]
  rw [blankOut?_eq] at h
  split_ifs at h with blankable
  rw [not_or] at blankable
  obtain ⟨room, some⟩ := blankable
  cases h
  exact {
    function := rfl
    text := by rw [flatMap_text_piecesFrom, lossless, List.nil_append]
    code := by
      rw [flatMap_code_piecesFrom]
      exact String.toList_ofList
    blanks := blanks.symm
    numbered := by
      rw [← count]
      exact map_index_blanksFrom 1 _
    counted := by
      rw [← count]
      rfl
    nonempty := by
      rw [← count, hiddenCount]
      exact List.length_pos_of_ne_nil (blanks_ne_nil (Nat.pos_of_ne_zero room) some)
    few := by
      rw [← count, hiddenCount]
      have chosenFew := length_chosen_le (budget m.config (wordCount (m.text node).toList))
        (spansOf (calleeTexts m node) (m.text node).toList)
      exact (length_blanks_le _ _ _).trans (chosenFew.trans (Nat.min_le_right _ _))
    hidden := fun front piece back split => isHiddenAt_of_piecesFrom split }

theorem target?_eq_some_iff {chain : Chain} {segments : List Segment} :
    target? m chain = some (node, segments) ↔ ∃ front back, m.nodes chain = front ++ node :: back ∧
      (∀ other ∈ front, ¬CanBlank m other) ∧
      blankOut? m.config (m.calleeNames node) (m.text node) = some segments := by
  unfold target?
  rw [List.findSome?_eq_some_iff]
  constructor
  · rintro ⟨front, found, back, nodes, cutUp, none⟩
    obtain ⟨segments, cutUp, same⟩ := Option.map_eq_some_iff.1 cutUp
    cases same
    exact ⟨front, back, nodes,
      fun other mem => blankOut?_eq_none_iff.1 (Option.map_eq_none_iff.1 (none other mem)), cutUp⟩
  · rintro ⟨front, back, nodes, none, cutUp⟩
    exact ⟨front, node, back, nodes, Option.map_eq_some_iff.2 ⟨segments, cutUp, rfl⟩,
      fun other mem => Option.map_eq_none_iff.2 (blankOut?_eq_none_iff.2 (none other mem))⟩

theorem target?_eq_none_iff {chain : Chain} :
    target? m chain = none ↔ ∀ node ∈ m.nodes chain, ¬CanBlank m node := by
  unfold target?
  simp only [List.findSome?_eq_none_iff, Option.map_eq_none_iff, blankOut?_eq_none_iff]

/-- A question is the text of the first node that can be blanked, cut without loss, and there is a
    gap exactly where no node can be. -/
theorem generate_losesNothing (m : Material) (chain : Chain) :
    (∀ challenge, generate m chain = .ok challenge →
      ∃ front node back spec pieces last, m.nodes chain = front ++ node :: back ∧
        (∀ other ∈ front, ¬CanBlank m other) ∧ CanBlank m node ∧
        challenge.spec = .fillBlank spec ∧ IsFaithful m node spec pieces last) ∧
    ∀ reason, generate m chain = .error reason ↔
      reason = .nothingToBlank ∧ ∀ node ∈ m.nodes chain, ¬CanBlank m node := by
  rw [← target?_eq_none_iff]
  unfold generate
  cases target : target? m chain with
  | none => simp [orGap, eq_comm]
  | some found =>
    obtain ⟨node, segments⟩ := found
    obtain ⟨front, back, nodes, none, cutUp⟩ := target?_eq_some_iff.1 target
    have canBlank : CanBlank m node := by
      by_contra not
      cases (blankOut?_eq_none_iff.2 not).symm.trans cutUp
    constructor
    · intro challenge succeeds
      cases succeeds
      exact ⟨front, node, back, _, _, _, nodes, none, canBlank, rfl, isFaithful_of_blankOut? cutUp⟩
    · intro reason
      constructor
      · intro fails
        cases fails
      · rintro ⟨-, missing⟩
        cases missing

def usersNode : Node :=
  { id := "list_users", name := "list_users", kind := .function }

def usersText : String :=
  "@app.route('/users')\ndef list_users(db):\n    if db is None:\n"
    ++ "        raise ValueError('no db')\n    rows = fetch_rows(db)\n    return rows"

def usersMaterial : Material :=
  ⟨⟨[usersNode], [], ∅⟩, fun _ => some usersText, { maxBlanks := 3 }⟩

def usersChain : Chain := ⟨["list_users"], by decide, by decide⟩

/-- What is asked about a function with a dotted decorator, where three of five candidates may be
    hidden. -/
def usersSpec : FillBlankSpec where
  prompt := "Fill in the blanks in `list_users`"
  function := "list_users"
  code :=
    "@__1__('/users')\ndef list_users(db):\n    __2__ db is None:\n"
      ++ "        raise ValueError('no db')\n    rows = fetch_rows(db)\n    return __3__"
  blanks := [⟨1, "app.route", .decorator⟩, ⟨2, "if", .keyword⟩, ⟨3, "rows", .returnValue⟩]

theorem budget_users : budget usersMaterial.config (wordCount usersText.toList) = 3 := by
  decide +kernel

theorem blankOut?_users :
    blankOut? usersMaterial.config (usersMaterial.calleeNames usersNode)
        (usersMaterial.text usersNode)
      = some (segments [0, 17, 5] (spansOf [] usersText.toList) (words usersText.toList).2) := by
  have listed : candidates (spansOf [] usersText.toList)
      = [(.decorator, 0), (.keyword, 5), (.keyword, 9), (.keyword, 16), (.returnValue, 17)] := by
    decide +kernel
  have best : chosen 3 (spansOf [] usersText.toList) = [0, 17, 5] := by
    rw [chosen, listed]
    simp [List.mergeSort, BlankKind.priority]
  have text : usersMaterial.text usersNode = usersText := rfl
  have callees : calleeTexts usersMaterial usersNode = [] := rfl
  rw [blankOut?_eq, text, callees, budget_users, best, listed]
  rfl

theorem spec_users : spec usersNode
    (segments [0, 17, 5] (spansOf [] usersText.toList) (words usersText.toList).2) = usersSpec := by
  decide +kernel

theorem generate_losesNothing_users :
    ∃ challenge pieces last, generate usersMaterial usersChain = .ok challenge ∧
      challenge.spec = .fillBlank usersSpec ∧
      IsFaithful usersMaterial usersNode usersSpec pieces last := by
  have target : target? usersMaterial usersChain = some (usersNode,
      segments [0, 17, 5] (spansOf [] usersText.toList) (words usersText.toList).2) :=
    target?_eq_some_iff.2 ⟨[], [], rfl, List.forall_mem_nil _, blankOut?_users⟩
  have succeeds : ∃ challenge, generate usersMaterial usersChain = .ok challenge ∧
      challenge.spec = .fillBlank usersSpec := by
    unfold generate
    rw [target, ← spec_users]
    exact ⟨_, rfl, rfl⟩
  obtain ⟨challenge, succeeds, isSpec⟩ := succeeds
  obtain ⟨front, node, back, spec, pieces, last, nodes, -, -, found, faithful⟩ :=
    (generate_losesNothing usersMaterial usersChain).1 challenge succeeds
  have node_mem : node ∈ [usersNode] := by
    change node ∈ usersMaterial.nodes usersChain
    rw [nodes]
    exact List.mem_append_right _ List.mem_cons_self
  cases List.mem_singleton.1 node_mem
  cases ChallengeSpec.fillBlank.inj (found.symm.trans isSpec)
  exact ⟨challenge, pieces, last, succeeds, isSpec, faithful⟩

end CodeReading.FillBlank
