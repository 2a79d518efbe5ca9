import CodeReading.Challenge.FillBlank
import CodeReading.Proofs.Outcome
import Mathlib.Data.List.Nodup
import Mathlib.Data.List.Perm.Subperm
import Mathlib.Data.List.TakeWhile

set_option autoImplicit false

/-!
# What a fill-blank hides

A text is cut between its words. A blank hides one word, and one more for each dot of a decorator.
The blanks, not the words in them, are held to the share of words that may be hidden.
-/
namespace CodeReading.FillBlank

def wordCount (text : List Char) : Nat := (words text).1.length

/-- Whether a text has no character that a word could start with. -/
def IsGap (text : List Char) : Prop := ∀ c ∈ text, isWordStart c = false

def IsWord (text : List Char) : Prop :=
  ∃ c rest, text = c :: rest ∧ isWordStart c = true ∧ ∀ d ∈ rest, isWordChar d = true

structure Word.IsProper (word : Word) : Prop where
  gap : IsGap word.gap
  text : IsWord word.text

variable {gap text after tail : List Char} {word : Word} {run : List Word}

theorem isGap_nil : IsGap [] := nofun

theorem isGap_reverse (h : IsGap gap) : IsGap gap.reverse :=
  fun c mem => h c (List.mem_reverse.1 mem)

theorem wordsFrom_isProper (gap text : List Char) (before : IsGap gap) :
    (∀ word ∈ (wordsFrom gap text).1, word.IsProper) ∧ IsGap (wordsFrom gap text).2 := by
  fun_induction wordsFrom gap text with
  | case1 gap => exact ⟨nofun, isGap_reverse before⟩
  | case2 gap c text starts words tail eq ih =>
    rw [eq] at ih
    obtain ⟨proper, last⟩ := ih isGap_nil
    refine ⟨?_, last⟩
    rintro word (_ | ⟨_, later⟩)
    · exact ⟨isGap_reverse before, c, _, rfl, starts, fun _ => List.mem_takeWhile_imp⟩
    · exact proper word later
  | case3 gap c text noStart ih =>
    refine ih ?_
    rintro d (_ | ⟨_, later⟩)
    · exact Bool.not_eq_true _ ▸ noStart
    · exact before d later

theorem flatMap_wordsFrom (gap text : List Char) :
    (wordsFrom gap text).1.flatMap (fun word => word.gap ++ word.text) ++ (wordsFrom gap text).2
      = gap.reverse ++ text := by
  fun_induction wordsFrom gap text with
  | case1 gap => simp
  | case2 gap c text starts words tail eq ih =>
    rw [eq] at ih
    simp only [List.flatMap_cons, List.append_assoc, ih]
    simp
  | case3 gap c text noStart ih => simpa using ih

theorem wordsFrom_of_isGap (before : List Char) (isGap : IsGap gap) :
    wordsFrom before gap = ([], before.reverse ++ gap) := by
  induction gap generalizing before with
  | nil => simp [wordsFrom]
  | cons c gap ih =>
    have noStart : isWordStart c = false := isGap c List.mem_cons_self
    have rest : IsGap gap := fun d mem => isGap d (List.mem_cons_of_mem c mem)
    rw [wordsFrom]
    simp [noStart, ih (c :: before) rest]

theorem wordCount_gap (isGap : IsGap gap) : wordCount gap = 0 := by
  unfold wordCount words
  rw [wordsFrom_of_isGap [] isGap]
  rfl

theorem dropWhile_of_head (ends : ∀ c ∈ after.head?, isWordChar c = false) :
    after.dropWhile isWordChar = after := by
  cases after with
  | nil => rfl
  | cons c after =>
    have stops : isWordChar c = false := ends c rfl
    rw [List.dropWhile_cons, stops]
    rfl

theorem length_wordsFrom_word (before : List Char) (isGap : IsGap gap) (isWord : IsWord text)
    (ends : ∀ c ∈ after.head?, isWordChar c = false) :
    (wordsFrom before (gap ++ (text ++ after))).1.length = 1 + wordCount after := by
  induction gap generalizing before with
  | nil =>
    obtain ⟨c, rest, rfl, starts, inner⟩ := isWord
    rw [List.nil_append, List.cons_append, wordsFrom, if_pos starts,
      List.dropWhile_append_of_pos inner, dropWhile_of_head ends]
    exact Nat.add_comm _ _
  | cons c gap ih =>
    have noStart : ¬isWordStart c = true := by simp [isGap c List.mem_cons_self]
    rw [List.cons_append, wordsFrom, if_neg noStart]
    exact ih (c :: before) fun d mem => isGap d (List.mem_cons_of_mem c mem)

theorem wordCount_word (isGap : IsGap gap) (isWord : IsWord text)
    (ends : ∀ c ∈ after.head?, isWordChar c = false) :
    wordCount (gap ++ (text ++ after)) = 1 + wordCount after :=
  length_wordsFrom_word [] isGap isWord ends

def joined (word : Word) (run : List Word) : List Char :=
  word.text ++ run.flatMap fun part => part.gap ++ part.text

theorem wordCount_joined (isGap : IsGap gap) (isWord : IsWord word.text)
    (proper : ∀ part ∈ run, part.IsProper) (dotted : ∀ part ∈ run, isDotted part = true) :
    wordCount (gap ++ joined word run) = 1 + run.length := by
  induction run generalizing gap word with
  | nil =>
    have none : wordCount [] = 0 := wordCount_gap isGap_nil
    have counted : wordCount (gap ++ (word.text ++ [])) = 1 + wordCount [] :=
      wordCount_word isGap isWord nofun
    simpa [joined, none] using counted
  | cons part run ih =>
    rw [List.forall_mem_cons] at proper dotted
    have dot : part.gap = ['.'] := by simpa [isDotted] using dotted.1
    have after : joined word (part :: run) = word.text ++ (part.gap ++ joined part run) := by
      simp [joined]
    have ends : ∀ c ∈ (part.gap ++ joined part run).head?, isWordChar c = false := by
      rw [dot]
      rintro c ⟨⟩
      decide
    have rest := ih proper.1.gap proper.1.text proper.2 dotted.2
    rw [after, wordCount_word isGap isWord ends, rest, List.length_cons, Nat.add_comm run.length]

theorem count_dot_of_isWord (isWord : IsWord text) : text.count '.' = 0 := by
  rw [List.count_eq_zero]
  obtain ⟨c, rest, rfl, starts, inner⟩ := isWord
  rintro (_ | ⟨_, later⟩)
  · exact absurd starts (by decide)
  · exact absurd (inner _ later) (by decide)

theorem count_dot_joined (isWord : IsWord word.text)
    (proper : ∀ part ∈ run, part.IsProper) (dotted : ∀ part ∈ run, isDotted part = true) :
    (joined word run).count '.' = run.length := by
  induction run generalizing word with
  | nil => simpa [joined] using count_dot_of_isWord isWord
  | cons part run ih =>
    rw [List.forall_mem_cons] at proper dotted
    have dot : part.gap = ['.'] := by simpa [isDotted] using dotted.1
    have after : joined word (part :: run) = word.text ++ (['.'] ++ joined part run) := by
      simp [joined, dot]
    have rest := ih proper.1.text proper.2 dotted.2
    rw [after, List.count_append, List.count_append, count_dot_of_isWord isWord, rest]
    simp [Nat.add_comm]

/-- Whether a span has a gap without words before it, one word and one more for each dot, and no dot
    unless it is a decorator. -/
structure Span.IsWhole (span : Span) : Prop where
  gap : IsGap span.gap
  words : wordCount span.text = 1 + span.text.count '.'
  together : wordCount (span.gap ++ span.text) = wordCount span.text
  dots : span.kind ≠ some .decorator → span.text.count '.' = 0

theorem isWhole_joined {kind : Option BlankKind} (word : Word) (run : List Word)
    (isProper : word.IsProper) (proper : ∀ part ∈ run, part.IsProper)
    (dotted : ∀ part ∈ run, isDotted part = true)
    (single : kind ≠ some .decorator → run = []) :
    Span.IsWhole ⟨kind, word.gap, joined word run⟩ where
  gap := isProper.gap
  words := by
    have counted : wordCount (joined word run) = 1 + run.length :=
      wordCount_joined isGap_nil isProper.text proper dotted
    rw [counted, count_dot_joined isProper.text proper dotted]
  together := by
    have counted : wordCount (joined word run) = 1 + run.length :=
      wordCount_joined isGap_nil isProper.text proper dotted
    rw [counted]
    exact wordCount_joined isProper.gap isProper.text proper dotted
  dots := by
    intro noDecorator
    rw [count_dot_joined isProper.text proper dotted, single noDecorator]
    rfl

/-- The spans of proper words are whole and have all of the words. -/
theorem spansFrom_isWhole (callees : List (List Char)) (tail : List Char) (previous : Option Word)
    (words : List Word) (proper : ∀ word ∈ words, word.IsProper) :
    (∀ span ∈ spansFrom callees tail previous words, span.IsWhole) ∧
      Measure.total ((spansFrom callees tail previous words).map fun span => wordCount span.text)
        = words.length := by
  fun_induction spansFrom callees tail previous words with
  | case1 previous => exact ⟨List.forall_mem_nil _, rfl⟩
  | case2 previous word words decorates run text ih =>
    rw [List.forall_mem_cons] at proper
    have properRun : ∀ part ∈ run, part.IsProper := fun part mem =>
      proper.2 part ((List.takeWhile_sublist _).subset mem)
    have dotted : ∀ part ∈ run, isDotted part = true := fun part => List.mem_takeWhile_imp
    obtain ⟨whole, counted⟩ := ih fun part mem =>
      proper.2 part ((List.dropWhile_sublist _).subset mem)
    have decorator : Span.IsWhole ⟨some .decorator, word.gap, text⟩ :=
      isWhole_joined word run proper.1 properRun dotted fun other => absurd rfl other
    have inRun : wordCount text = 1 + run.length := by
      rw [decorator.words]
      exact congrArg (1 + ·) (count_dot_joined proper.1.text properRun dotted)
    have lengths : run.length + (words.dropWhile isDotted).length = words.length := by
      rw [← List.length_append, List.takeWhile_append_dropWhile]
    refine ⟨List.forall_mem_cons.2 ⟨decorator, whole⟩, ?_⟩
    rw [List.map_cons, Measure.total, counted, inRun, List.length_cons]
    omega
  | case3 previous word words plain ih =>
    rw [List.forall_mem_cons] at proper
    obtain ⟨whole, counted⟩ := ih proper.2
    have single : Span.IsWhole
        ⟨classify callees previous word (nextGap tail words), word.gap, joined word []⟩ :=
      isWhole_joined word [] proper.1 (List.forall_mem_nil _) (List.forall_mem_nil _) fun _ => rfl
    have alone : joined word [] = word.text := by simp [joined]
    rw [alone] at single
    have one : wordCount word.text = 1 := by
      rw [single.words, count_dot_of_isWord proper.1.text]
    refine ⟨List.forall_mem_cons.2 ⟨single, whole⟩, ?_⟩
    rw [List.map_cons, Measure.total, counted, one, List.length_cons, Nat.add_comm]

theorem flatMap_spansFrom (callees : List (List Char)) (tail : List Char) (previous : Option Word)
    (words : List Word) :
    (spansFrom callees tail previous words).flatMap (fun span => span.gap ++ span.text)
      = words.flatMap fun word => word.gap ++ word.text := by
  fun_induction spansFrom callees tail previous words with
  | case1 previous => rfl
  | case2 previous word words decorates run text ih =>
    have split : words.flatMap (fun word => word.gap ++ word.text)
        = run.flatMap (fun word => word.gap ++ word.text)
          ++ (words.dropWhile isDotted).flatMap fun word => word.gap ++ word.text := by
      rw [← List.flatMap_append, List.takeWhile_append_dropWhile]
    rw [List.flatMap_cons, ih, List.flatMap_cons, split]
    simp [text]
  | case3 previous word words plain ih => rw [List.flatMap_cons, ih, List.flatMap_cons]

def Segment.blank? : Segment → Option (BlankKind × List Char)
  | .shown _ => none
  | .hidden kind text => some (kind, text)

theorem flatMap_cut (places : List Nat) (span : Span) (place : Nat) :
    (cut places span place).flatMap Segment.text = span.gap ++ span.text := by
  unfold cut
  repeat' split
  all_goals simp [Segment.text]

theorem total_wordCount_cut {span : Span} (whole : span.IsWhole) (places : List Nat) (place : Nat) :
    Measure.total ((cut places span place).map fun segment => wordCount segment.text)
      = wordCount span.text := by
  unfold cut
  repeat' split
  all_goals simp [Segment.text, Measure.total, whole.together, wordCount_gap whole.gap]

theorem flatMap_cuts (places : List Nat) (spans : List Span) (start : Nat) :
    ((spans.zipIdx start).flatMap fun (span, place) => cut places span place).flatMap Segment.text
      = spans.flatMap fun span => span.gap ++ span.text := by
  induction spans generalizing start with
  | nil => rfl
  | cons span spans ih =>
    rw [List.zipIdx_cons, List.flatMap_cons, List.flatMap_append, flatMap_cut, ih,
      List.flatMap_cons]

theorem flatMap_segments (places : List Nat) (spans : List Span) (tail : List Char) :
    (segments places spans tail).flatMap Segment.text
      = spans.flatMap (fun span => span.gap ++ span.text) ++ tail := by
  unfold segments
  rw [List.flatMap_append, flatMap_cuts, List.flatMap_singleton]
  rfl

theorem total_wordCount_cuts (places : List Nat) (spans : List Span) (start : Nat)
    (whole : ∀ span ∈ spans, span.IsWhole) :
    Measure.total (((spans.zipIdx start).flatMap fun (span, place) => cut places span place).map
        fun segment => wordCount segment.text)
      = Measure.total (spans.map fun span => wordCount span.text) := by
  induction spans generalizing start with
  | nil => rfl
  | cons span spans ih =>
    rw [List.forall_mem_cons] at whole
    rw [List.zipIdx_cons, List.flatMap_cons, List.map_append, Measure.total_append,
      total_wordCount_cut whole.1, ih (start + 1) whole.2, List.map_cons, Measure.total]

theorem blanks_cut (places : List Nat) (span : Span) (place : Nat) :
    (cut places span place).filterMap Segment.blank?
      = if place ∈ places then (span.kind.map (·, span.text)).toList else [] := by
  unfold cut
  cases span.kind with
  | none => simp [Segment.blank?]
  | some kind =>
    by_cases hidden : place ∈ places <;> simp [hidden, List.filterMap_cons, Segment.blank?]

theorem length_blanks_cuts_le (places : List Nat) (spans : List Span) (start : Nat) :
    (((spans.zipIdx start).flatMap fun (span, place) => cut places span place).filterMap
        Segment.blank?).length
      ≤ (List.range' start spans.length).countP (· ∈ places) := by
  induction spans generalizing start with
  | nil => exact Nat.le_refl _
  | cons span spans ih =>
    have first : ((cut places span start).filterMap Segment.blank?).length
        ≤ if decide (start ∈ places) = true then 1 else 0 := by
      rw [blanks_cut]
      by_cases hidden : start ∈ places
      · cases span.kind <;> simp [hidden]
      · simp [hidden]
    rw [List.zipIdx_cons, List.flatMap_cons, List.filterMap_append, List.length_append,
      List.length_cons, List.range'_succ, List.countP_cons, Nat.add_comm]
    exact Nat.add_le_add (ih (start + 1)) first

theorem length_blanks_le (places : List Nat) (spans : List Span) (tail : List Char) :
    ((segments places spans tail).filterMap Segment.blank?).length ≤ places.length := by
  have counted := length_blanks_cuts_le places spans 0
  have distinct : ((List.range' 0 spans.length).filter (· ∈ places)).Nodup :=
    (List.nodup_range' 1).filter _
  have known : (List.range' 0 spans.length).filter (· ∈ places) ⊆ places := by
    intro place mem
    simpa using (List.mem_filter.1 mem).2
  have few := (distinct.subperm known).length_le
  rw [← List.countP_eq_length_filter] at few
  unfold segments
  rw [List.filterMap_append]
  have shown : [Segment.shown tail].filterMap Segment.blank? = [] := rfl
  rw [shown, List.append_nil]
  exact counted.trans few

theorem exists_span_of_mem_blanks {places : List Nat} {spans : List Span} {tail : List Char}
    {kind : BlankKind} {text : List Char}
    (h : (kind, text) ∈ (segments places spans tail).filterMap Segment.blank?) :
    ∃ span ∈ spans, span.kind = some kind ∧ span.text = text := by
  obtain ⟨segment, mem, hidden⟩ := List.mem_filterMap.1 h
  unfold segments at mem
  obtain cuts | last := List.mem_append.1 mem
  · obtain ⟨⟨span, place⟩, indexed, inCut⟩ := List.mem_flatMap.1 cuts
    have known : span ∈ spans := List.fst_mem_of_mem_zipIdx indexed
    have cutOff := List.mem_filterMap.2 ⟨segment, inCut, hidden⟩
    rw [blanks_cut] at cutOff
    split at cutOff
    · obtain ⟨other, chosen, same⟩ := Option.map_eq_some_iff.1 (Option.mem_toList.1 cutOff)
      cases same
      exact ⟨span, known, chosen, rfl⟩
    · cases cutOff
  · rw [List.mem_singleton.1 last] at hidden
    cases hidden

theorem map_blanksFrom (index : Nat) (segments : List Segment) :
    (blanksFrom index segments).map (fun blank => (blank.kind, blank.text.toList))
      = segments.filterMap Segment.blank? := by
  induction segments generalizing index with
  | nil => rfl
  | cons segment segments ih =>
    cases segment with
    | shown text => exact ih index
    | hidden kind text => simp [blanksFrom, Segment.blank?, ih (index + 1)]

/-- How many of so many words may be hidden, whatever the greatest number of blanks. -/
def share (config : ChallengeConfig) (count : Nat) : Nat :=
  (Float.ofNat count * config.maxBlankFraction.toFloat).toUInt64.toNat

def hiddenWords (blanks : List Blank) : Nat :=
  Measure.total (blanks.map fun blank => wordCount blank.text.toList)

def hiddenDots (blanks : List Blank) : Nat :=
  Measure.total (blanks.map fun blank => blank.text.toList.count '.')

/-- Whether segments are a text without loss, cut between its words, and their blanks are few and
    hide one word each, and one more for each dot of a decorator. -/
structure IsCut (config : ChallengeConfig) (text : List Char) (segments : List Segment) : Prop where
  lossless : segments.flatMap Segment.text = text
  words : Measure.total (segments.map fun segment => wordCount segment.text) = wordCount text
  few : (blanksFrom 1 segments).length ≤ share config (wordCount text)
  hidden : hiddenWords (blanksFrom 1 segments)
    = (blanksFrom 1 segments).length + hiddenDots (blanksFrom 1 segments)
  dots : ∀ blank ∈ blanksFrom 1 segments, blank.kind ≠ .decorator → blank.text.toList.count '.' = 0

theorem length_chosen_le (budget : Nat) (spans : List Span) :
    (chosen budget spans).length ≤ budget := by
  unfold chosen
  rw [List.length_map]
  exact List.length_take_le _ _

theorem hiddenWords_eq {blanks : List Blank}
    (h : ∀ blank ∈ blanks, wordCount blank.text.toList = 1 + blank.text.toList.count '.') :
    hiddenWords blanks = blanks.length + hiddenDots blanks := by
  induction blanks with
  | nil => rfl
  | cons blank blanks ih =>
    rw [List.forall_mem_cons] at h
    have rest := ih h.2
    unfold hiddenWords hiddenDots at rest ⊢
    rw [List.map_cons, Measure.total, rest, h.1, List.map_cons, Measure.total, List.length_cons]
    omega

theorem hiddenDots_eq_zero {blanks : List Blank}
    (h : ∀ blank ∈ blanks, blank.text.toList.count '.' = 0) : hiddenDots blanks = 0 := by
  induction blanks with
  | nil => rfl
  | cons blank blanks ih =>
    rw [List.forall_mem_cons] at h
    have rest := ih h.2
    unfold hiddenDots at rest ⊢
    rw [List.map_cons, Measure.total, rest, h.1]

theorem exists_span_of_mem_blanksFrom {places : List Nat} {spans : List Span} {tail : List Char}
    {index : Nat} {blank : Blank} (h : blank ∈ blanksFrom index (segments places spans tail)) :
    ∃ span ∈ spans, span.kind = some blank.kind ∧ span.text = blank.text.toList := by
  have listed := List.mem_map_of_mem (f := fun blank : Blank => (blank.kind, blank.text.toList)) h
  rw [map_blanksFrom] at listed
  exact exists_span_of_mem_blanks listed

theorem isCut_segments {config : ChallengeConfig} {places : List Nat} {spans : List Span}
    (whole : ∀ span ∈ spans, span.IsWhole) (isGap : IsGap tail)
    (spelled : spans.flatMap (fun span => span.gap ++ span.text) ++ tail = text)
    (counted : Measure.total (spans.map fun span => wordCount span.text) = wordCount text)
    (few : places.length ≤ share config (wordCount text)) :
    IsCut config text (segments places spans tail) where
  lossless := by rw [flatMap_segments, spelled]
  words := by
    unfold segments
    rw [List.map_append, Measure.total_append, total_wordCount_cuts places spans 0 whole, counted,
      List.map_singleton, Measure.total, Measure.total, Segment.text, wordCount_gap isGap]
    rfl
  few := by
    have blanks := length_blanks_le places spans tail
    rw [← map_blanksFrom 1, List.length_map] at blanks
    exact blanks.trans few
  hidden := by
    refine hiddenWords_eq fun blank mem => ?_
    obtain ⟨span, known, -, same⟩ := exists_span_of_mem_blanksFrom mem
    rw [← same]
    exact (whole span known).words
  dots := by
    intro blank mem other
    obtain ⟨span, known, kind, same⟩ := exists_span_of_mem_blanksFrom mem
    rw [← same]
    refine (whole span known).dots fun decorator => other ?_
    exact Option.some.inj (kind.symm.trans decorator)

theorem isCut_of_blankOut? {config : ChallengeConfig} {callees : List String} {text : String}
    {segments : List Segment} (h : blankOut? config callees text = some segments) :
    IsCut config text.toList segments := by
  obtain ⟨proper, isGap⟩ := wordsFrom_isProper [] text.toList isGap_nil
  obtain ⟨whole, counted⟩ := spansFrom_isWhole (callees.map String.toList)
    (words text.toList).2 none (words text.toList).1 proper
  unfold blankOut? at h
  dsimp only at h
  split at h
  · cases h
  · cases h
    refine isCut_segments whole isGap ?_ counted ?_
    · rw [flatMap_spansFrom]
      exact flatMap_wordsFrom [] text.toList
    · exact (length_chosen_le _ _).trans (Nat.min_le_left _ _)

/-- There are no more blanks than words that may be hidden, and unless a dotted decorator is among
    them, they hide no more words. -/
theorem generate_hidesShare {m : Material} {chain : Chain} {challenge : Challenge}
    (h : generate m chain = .ok challenge) :
    ∃ node ∈ m.nodes chain, ∃ segments hints,
      challenge = m.challenge chain (.fillBlank (spec node segments)) hints ∧
      IsCut m.config (m.text node).toList segments ∧
      ((∀ blank ∈ blanksFrom 1 segments,
          blank.kind = .decorator → blank.text.toList.count '.' = 0) →
        hiddenWords (blanksFrom 1 segments)
          ≤ share m.config (wordCount (m.text node).toList)) := by
  unfold generate at h
  obtain ⟨⟨node, segments⟩, target, h⟩ := bind_eq_ok_iff.1 h
  rw [orGap_eq_ok_iff] at target
  obtain ⟨found, known, blanked⟩ := List.exists_of_findSome?_eq_some target
  obtain ⟨segments, cutUp, same⟩ := Option.map_eq_some_iff.1 blanked
  cases same
  cases h
  have isCut := isCut_of_blankOut? cutUp
  refine ⟨node, known, segments, _, rfl, isCut, fun noDotted => ?_⟩
  have noDots : hiddenDots (blanksFrom 1 segments) = 0 := by
    refine hiddenDots_eq_zero fun blank mem => ?_
    by_cases decorator : blank.kind = .decorator
    · exact noDotted blank mem decorator
    · exact isCut.dots blank mem decorator
  rw [isCut.hidden, noDots, Nat.add_zero]
  exact isCut.few

def decorated (decorator : String) : Node :=
  { id := "f", name := "f", kind := .function, parameters := [⟨"x", none, none⟩],
    decorators := [decorator] }

def decoratedMaterial (decorator : String) : Material :=
  ⟨⟨[decorated decorator], [], ∅⟩, fun _ => none, {}⟩

def decoratedChain : Chain := ⟨["f"], by decide, by decide⟩

theorem nodes_decorated (decorator : String) :
    (decoratedMaterial decorator).nodes decoratedChain = [decorated decorator] :=
  rfl

def decoratedSpec (decorator : String) : FillBlankSpec :=
  ⟨"Fill in the blanks in `f`", "f", "@__1__\ndef f(x):\n    ...", [⟨1, decorator, .decorator⟩]⟩

/-- A plain decorator is hidden: one word, and one of four may be. -/
theorem generate_hidesShare_plain :
    ∃ challenge spec,
      generate (decoratedMaterial "route") decoratedChain = .ok challenge ∧
      challenge.spec = .fillBlank spec ∧ spec.blanks = [⟨1, "route", .decorator⟩] ∧
      hiddenWords spec.blanks
        ≤ share {} (wordCount ((decoratedMaterial "route").text (decorated "route")).toList) := by
  have run : (generate (decoratedMaterial "route") decoratedChain).toOption.map (·.spec)
      = some (.fillBlank (decoratedSpec "route")) := by
    decide +kernel
  obtain ⟨challenge, succeeds, asked⟩ := Option.map_eq_some_iff.1 run
  rw [toOption_eq_some_iff] at succeeds
  obtain ⟨node, known, segments, hints, rfl, -, bound⟩ := generate_hidesShare succeeds
  rw [nodes_decorated] at known
  cases List.mem_singleton.1 known
  have blanks : blanksFrom 1 segments = [⟨1, "route", .decorator⟩] :=
    congrArg FillBlankSpec.blanks (ChallengeSpec.fillBlank.inj asked)
  refine ⟨_, _, succeeds, rfl, blanks, bound fun blank mem _ => ?_⟩
  rw [blanks] at mem
  cases List.mem_singleton.1 mem
  decide

/-- A dotted decorator is hidden by one blank: three words, and one of six may be. -/
theorem generate_hidesMore_dotted :
    ∃ challenge spec,
      generate (decoratedMaterial "a.b.c") decoratedChain = .ok challenge ∧
      challenge.spec = .fillBlank spec ∧
      share {} (wordCount ((decoratedMaterial "a.b.c").text (decorated "a.b.c")).toList) = 1 ∧
      hiddenWords spec.blanks = 3 := by
  have run : (generate (decoratedMaterial "a.b.c") decoratedChain).toOption.map (·.spec)
      = some (.fillBlank (decoratedSpec "a.b.c")) := by
    decide +kernel
  obtain ⟨challenge, succeeds, asked⟩ := Option.map_eq_some_iff.1 run
  rw [toOption_eq_some_iff] at succeeds
  exact ⟨challenge, _, succeeds, asked, by decide +kernel, by decide +kernel⟩

end CodeReading.FillBlank
