import CodeReading.Proofs.Challenge.Splicing
import CodeReading.Proofs.Graph.Built
import CodeReading.Proofs.Json.Token
import CodeReading.Proofs.Text.Lowercase
import CodeReading.Proofs.Text.Search

set_option autoImplicit false

namespace CodeReading.FillBlank

variable {pattern front text after shown last : List Char} {pieces : List Piece}
  {blanks : List Blank}

/-- Whether no word that starts in a text reaches its end. -/
def IsSettled (text : List Char) : Prop :=
  ∀ front c back, text = front ++ c :: back → isWordStart c = true →
    ∃ d ∈ back, isWordChar d = false

theorem isSeam_of_break (isWord : IsWord pattern) (front : List Char)
    (ends : ∀ c ∈ after.head?, isWordChar c = false) : Text.IsSeam pattern front after := by
  intro rest _ _ starts
  rcases List.prefix_or_prefix_of_prefix starts (List.prefix_append rest after) with
    inside | ⟨beyond, rfl⟩
  · exact inside
  · cases beyond with
    | nil => rw [List.append_nil]
    | cons c beyond =>
      obtain ⟨far, rfl⟩ := (List.prefix_append_right_inj rest).1 starts
      have stops : isWordChar c = false := ends c rfl
      rw [isWord.forall_isWordChar c (by simp)] at stops
      cases stops

theorem isSeam_of_isSettled (isWord : IsWord pattern) (settled : IsSettled front)
    (after : List Char) : Text.IsSeam pattern front after := by
  rintro rest nonempty ⟨before, split⟩ starts
  rcases List.prefix_or_prefix_of_prefix starts (List.prefix_append rest after) with
    inside | ⟨beyond, rfl⟩
  · exact inside
  · cases rest with
    | nil => exact absurd rfl nonempty
    | cons c rest =>
      obtain ⟨c, word, eq, isStart, inner⟩ := isWord
      cases eq
      obtain ⟨d, mem, stops⟩ := settled before _ rest split.symm isStart
      rw [inner d (List.mem_append_left beyond mem)] at stops
      cases stops

theorem toList_placeholder (n : Nat) :
    (placeholder n).toList = '_' :: '_' :: (Nat.toDigits 10 n ++ ['_', '_']) := by
  simp [placeholder]

theorem isWord_placeholder (n : Nat) : IsWord (placeholder n).toList := by
  refine ⟨'_', _, toList_placeholder n, by decide, ?_⟩
  intro c mem
  simp only [List.mem_cons, List.mem_append, List.not_mem_nil, or_false] at mem
  rcases mem with rfl | digit | rfl | rfl
  · decide
  · have isDigit := Text.isDigit_of_mem_toDigits digit
    simp [isWordChar, Char.isAlphanum, isDigit]
  · decide
  · decide

theorem eq_of_placeholder_prefix {m n : Nat}
    (h : (placeholder m).toList <+: (placeholder n).toList) : m = n := by
  rw [toList_placeholder, toList_placeholder, List.cons_prefix_cons, List.cons_prefix_cons] at h
  obtain ⟨-, -, rest, same⟩ := h
  rw [List.append_assoc] at same
  have digits := congrArg (fun text => (Json.readDigits text).1) same
  rw [Json.readDigits_toDigits m (by rintro c ⟨⟩; decide),
    Json.readDigits_toDigits n (by rintro c ⟨⟩; decide)] at digits
  exact Text.toDigits_inj digits

theorem countOf_placeholder (m n : Nat) :
    Text.countOf (placeholder m).toList (placeholder n).toList = if m = n then 1 else 0 := by
  have noUnderscore : '_' ∉ Nat.toDigits 10 n :=
    fun mem => absurd (Text.isDigit_of_mem_toDigits mem) (by decide)
  -- The two underscores at the end leave no room for another placeholder, and none starts at the
  -- second one or among the digits.
  have short : Text.countOf (placeholder m).toList ['_', '_'] = 0 := by
    rw [Text.countOf_eq_zero_iff]
    intro inside
    have few := inside.length_le
    have some := List.length_pos_of_ne_nil (Nat.toDigits_ne_nil (n := m) (b := 10))
    simp only [toList_placeholder, List.length_cons, List.length_append, List.length_nil] at few
    omega
  have later :
      Text.countOf (placeholder m).toList ('_' :: (Nat.toDigits 10 n ++ ['_', '_'])) = 0 := by
    rw [Text.countOf_cons_of_not_prefix]
    · rw [toList_placeholder m] at short ⊢
      rw [Text.countOf_append_of_not_mem noUnderscore, short]
    · obtain ⟨d, digits, eq⟩ := List.exists_cons_of_ne_nil (Nat.toDigits_ne_nil (n := n) (b := 10))
      rw [toList_placeholder, eq, List.cons_prefix_cons, List.cons_append, List.cons_prefix_cons]
      rintro ⟨-, rfl, -⟩
      exact noUnderscore (eq ▸ List.mem_cons_self)
  by_cases same : m = n
  · subst same
    have starts : (placeholder m).toList <+: '_' :: '_' :: (Nat.toDigits 10 m ++ ['_', '_']) := by
      rw [← toList_placeholder]
    calc Text.countOf (placeholder m).toList (placeholder m).toList
        = Text.countOf (placeholder m).toList ('_' :: '_' :: (Nat.toDigits 10 m ++ ['_', '_'])) :=
          congrArg _ (toList_placeholder m)
      _ = 1 := by rw [Text.countOf_cons_of_prefix starts, later]
      _ = if m = m then 1 else 0 := (if_pos rfl).symm
  · have starts : ¬(placeholder m).toList <+: '_' :: '_' :: (Nat.toDigits 10 n ++ ['_', '_']) := by
      rw [← toList_placeholder]
      exact mt eq_of_placeholder_prefix same
    calc Text.countOf (placeholder m).toList (placeholder n).toList
        = Text.countOf (placeholder m).toList ('_' :: '_' :: (Nat.toDigits 10 n ++ ['_', '_'])) :=
          congrArg _ (toList_placeholder n)
      _ = 0 := by rw [Text.countOf_cons_of_not_prefix starts, later]
      _ = if m = n then 1 else 0 := (if_neg same).symm

/-- Pieces with something written in the place of each blank, and what is shown behind them. -/
def written (write : Blank → List Char) (pieces : List Piece) (last : List Char) : List Char :=
  pieces.flatMap (fun piece => piece.shown ++ write piece.blank) ++ last

theorem written_cons (write : Blank → List Char) (piece : Piece) (pieces : List Piece)
    (last : List Char) : written write (piece :: pieces) last
      = piece.shown ++ (write piece.blank ++ written write pieces last) := by
  simp [written]

def shownParts (pieces : List Piece) (last : List Char) : List (List Char) :=
  pieces.map Piece.shown ++ [last]

theorem isInfix_written (write : Blank → List Char) (mem : shown ∈ shownParts pieces last) :
    shown <:+: written write pieces last := by
  induction pieces with
  | nil =>
    rw [List.mem_singleton.1 mem]
    exact List.infix_refl last
  | cons piece pieces ih =>
    rw [written_cons]
    rcases List.mem_cons.1 mem with rfl | later
    · exact (List.prefix_append _ _).isInfix
    · have inRest : written write pieces last
          <:+ piece.shown ++ (write piece.blank ++ written write pieces last) :=
        (List.suffix_append _ _).trans (List.suffix_append _ _)
      exact (ih later).trans inRest.isInfix

/-- Whether no word goes on over the start or the end of a blank, whatever is written there. -/
def IsSevered (pieces : List Piece) (last : List Char) : Prop :=
  ∀ front piece back, pieces = front ++ piece :: back → IsSettled piece.shown ∧
    ∀ write, ∀ c ∈ (written write back last).head?, isWordChar c = false

theorem IsSevered.tail {piece : Piece} (severed : IsSevered (piece :: pieces) last) :
    IsSevered pieces last := by
  rintro front other back rfl
  exact severed (piece :: front) other back rfl

def countIn (pattern : List Char) (texts : List (List Char)) : Nat :=
  Measure.total (texts.map (Text.countOf pattern))

/-- A word stands in the shown parts and in what is written between them, and nowhere else. -/
theorem countOf_written (isWord : IsWord pattern) (severed : IsSevered pieces last)
    (write : Blank → List Char) : Text.countOf pattern (written write pieces last)
      = countIn pattern (shownParts pieces last)
        + countIn pattern (pieces.map fun piece => write piece.blank) := by
  induction pieces with
  | nil => simp [written, shownParts, countIn, Measure.total]
  | cons piece pieces ih =>
    have rest := ih severed.tail
    obtain ⟨settled, ends⟩ := severed [] piece pieces rfl
    rw [written_cons, Text.countOf_append isWord.ne_nil (isSeam_of_isSettled isWord settled _),
      Text.countOf_append isWord.ne_nil (isSeam_of_break isWord _ (ends write)), rest]
    simp only [countIn, shownParts, List.map_cons, List.cons_append, Measure.total]
    omega

theorem IsRunAt.ends (run : IsRunAt front text after) :
    ∀ c ∈ after.head?, isWordChar c = false := by
  induction run with
  | word isWord => exact isWord.ends
  | dot _ _ ih => exact ih

theorem IsFaithful.isSevered {m : Material} {node : Node} {spec : FillBlankSpec}
    (faithful : IsFaithful m node spec pieces last) : IsSevered pieces last := by
  rintro front piece back rfl
  have place := faithful.hidden front piece back rfl
  obtain ⟨word, rest, -, isWord, -⟩ := place.candidate
  refine ⟨isWord.suffix.starts, fun write c first => ?_⟩
  have ends := place.run.ends
  cases back with
  | nil => exact ends c first
  | cons next back =>
    -- A word that followed without anything between would go on over the end of the blank.
    cases shown : next.shown with
    | nil =>
      have later := faithful.hidden (front ++ [piece]) next back (by simp)
      obtain ⟨word, rest, hidden, ⟨⟨d, word, rfl, starts, -⟩, -, -⟩, -⟩ := later.candidate
      have follows : d ∈ ((next :: back).flatMap Piece.text ++ last).head? := by
        simp [Piece.text, shown, hidden]
      have stops := ends d follows
      rw [isWordChar_of_isWordStart starts] at stops
      cases stops
    | cons d rest =>
      have follows : d ∈ ((next :: back).flatMap Piece.text ++ last).head? := by
        simp [Piece.text, shown]
      rw [written_cons, shown] at first
      obtain rfl : d = c := Option.some.inj first
      exact ends d follows

/-- A text with what the blanks hide in the place of their placeholders; `skip` characters of it
    belong to the placeholder before. -/
def refillFrom (blanks : List Blank) (skip : Nat) : List Char → List Char
  | [] => []
  | c :: text =>
    match skip with
    | skip + 1 => refillFrom blanks skip text
    | 0 =>
      match blanks.find? fun blank => (placeholder blank.index).toList.isPrefixOf (c :: text) with
      | some blank =>
        blank.text.toList
          ++ refillFrom blanks ((placeholder blank.index).toList.length - 1) text
      | none => c :: refillFrom blanks 0 text

def refill (blanks : List Blank) (code : List Char) : List Char :=
  refillFrom blanks 0 code

theorem refillFrom_length (blanks : List Blank) (front text : List Char) :
    refillFrom blanks front.length (front ++ text) = refillFrom blanks 0 text := by
  induction front with
  | nil => rfl
  | cons c front ih => exact ih

theorem refill_shown
    (seams : ∀ blank ∈ blanks, Text.IsSeam (placeholder blank.index).toList shown after)
    (absent : ∀ blank ∈ blanks, ¬(placeholder blank.index).toList <:+: shown) :
    refill blanks (shown ++ after) = shown ++ refill blanks after := by
  induction shown with
  | nil => rfl
  | cons c shown ih =>
    have none : (blanks.find? fun blank =>
        (placeholder blank.index).toList.isPrefixOf (c :: (shown ++ after))) = none := by
      rw [List.find?_eq_none]
      intro blank mem starts
      refine absent blank mem (List.IsPrefix.isInfix ?_)
      exact seams blank mem (c :: shown) (List.cons_ne_nil c shown) (List.suffix_refl _)
        (List.isPrefixOf_iff_prefix.1 starts)
    have rest := ih (fun blank mem => (seams blank mem).tail)
      fun blank mem inside => absent blank mem (inside.trans (List.suffix_cons c shown).isInfix)
    unfold refill at rest ⊢
    rw [List.cons_append, refillFrom, none]
    exact congrArg (c :: ·) rest

theorem refill_placeholder {blank : Blank} (mem : blank ∈ blanks)
    (distinct : (blanks.map Blank.index).Nodup)
    (ends : ∀ c ∈ after.head?, isWordChar c = false) :
    refill blanks ((placeholder blank.index).toList ++ after)
      = blank.text.toList ++ refill blanks after := by
  have found : (blanks.find? fun other => (placeholder other.index).toList.isPrefixOf
      ((placeholder blank.index).toList ++ after)) = some blank := by
    have starts : (blanks.find? fun other => (placeholder other.index).toList.isPrefixOf
        ((placeholder blank.index).toList ++ after)).isSome := by
      rw [List.find?_isSome]
      exact ⟨blank, mem, List.isPrefixOf_iff_prefix.2 (List.prefix_append _ after)⟩
    obtain ⟨other, found⟩ := Option.isSome_iff_exists.1 starts
    have holds := List.find?_some found
    have isPrefix := List.isPrefixOf_iff_prefix.1 holds
    have same : other.index = blank.index :=
      eq_of_placeholder_prefix (isSeam_of_break (isWord_placeholder _) _ ends _
        (isWord_placeholder _).ne_nil (List.suffix_refl _) isPrefix)
    rw [found, List.inj_on_of_nodup_map distinct (List.mem_of_find?_eq_some found) mem same]
  obtain ⟨c, rest, whole⟩ := List.exists_cons_of_ne_nil (isWord_placeholder blank.index).ne_nil
  unfold refill
  rw [whole, List.cons_append] at found ⊢
  rw [refillFrom, found]
  dsimp only
  rw [whole, List.length_cons, Nat.add_sub_cancel, refillFrom_length]

theorem refill_written (severed : IsSevered pieces last)
    (known : ∀ piece ∈ pieces, piece.blank ∈ blanks) (distinct : (blanks.map Blank.index).Nodup)
    (absent : ∀ blank ∈ blanks, ∀ shown ∈ shownParts pieces last,
      ¬(placeholder blank.index).toList <:+: shown) :
    refill blanks (written (fun blank => (placeholder blank.index).toList) pieces last)
      = written (fun blank => blank.text.toList) pieces last := by
  induction pieces with
  | nil =>
    have alone : refill blanks (last ++ []) = last ++ refill blanks [] :=
      refill_shown (fun blank _ => Text.isSeam_nil _ last)
        fun blank mem => absent blank mem last List.mem_cons_self
    simpa [written, refill, refillFrom] using alone
  | cons piece pieces ih =>
    rw [List.forall_mem_cons] at known
    obtain ⟨settled, ends⟩ := severed [] piece pieces rfl
    have rest := ih severed.tail known.2
      fun blank mem shown part => absent blank mem shown (List.mem_cons_of_mem _ part)
    rw [written_cons, written_cons, refill_shown, refill_placeholder known.1 distinct (ends _),
      rest]
    · exact fun blank _ => isSeam_of_isSettled (isWord_placeholder _) settled _
    · exact fun blank mem => absent blank mem piece.shown List.mem_cons_self

theorem total_indicator (n : Nat) (indices : List Nat) :
    Measure.total (indices.map fun index => if n = index then 1 else 0) = indices.count n := by
  induction indices with
  | nil => rfl
  | cons index indices ih =>
    rw [List.map_cons, Measure.total, ih, List.count_cons]
    by_cases same : n = index
    · simp [same, Nat.add_comm]
    · simp [same, Ne.symm same]

theorem countIn_placeholders {n count : Nat} (least : 1 ≤ n) (most : n ≤ count) :
    countIn (placeholder n).toList
      ((List.range' 1 count).map fun index => (placeholder index).toList) = 1 := by
  unfold countIn
  rw [List.map_map]
  simp only [Function.comp_def, countOf_placeholder]
  rw [total_indicator]
  refine List.count_eq_one_of_mem (List.nodup_range' 1) (List.mem_range'_1.2 ⟨least, ?_⟩)
  omega

theorem countIn_eq_zero_iff {texts : List (List Char)} :
    countIn pattern texts = 0 ↔ ∀ text ∈ texts, ¬pattern <:+: text := by
  induction texts with
  | nil => simp [countIn, Measure.total]
  | cons text texts ih =>
    rw [List.forall_mem_cons, ← ih, ← Text.countOf_eq_zero_iff]
    exact Nat.add_eq_zero_iff

/-- Whether each placeholder stands once in the code of a question, and the code is the given text
    again when all of them are filled in. -/
structure IsUnambiguous (spec : FillBlankSpec) (text : List Char) : Prop where
  once : ∀ n, 1 ≤ n → n ≤ spec.blanks.length →
    Text.countOf (placeholder n).toList spec.code.toList = 1
  restores : refill spec.blanks spec.code.toList = text

variable {m : Material} {node : Node} {spec : FillBlankSpec}

theorem IsFaithful.countOf_placeholder (faithful : IsFaithful m node spec pieces last) {n : Nat}
    (least : 1 ≤ n) (most : n ≤ spec.blanks.length) :
    Text.countOf (placeholder n).toList spec.code.toList
      = 1 + countIn (placeholder n).toList (shownParts pieces last) := by
  have code : spec.code.toList
      = written (fun blank => (placeholder blank.index).toList) pieces last := faithful.code
  have inserted : pieces.map (fun piece => (placeholder piece.blank.index).toList)
      = (List.range' 1 pieces.length).map fun index => (placeholder index).toList := by
    rw [← faithful.numbered, faithful.blanks]
    simp
  have few : n ≤ pieces.length := by
    rwa [faithful.blanks, List.length_map] at most
  rw [code, countOf_written (isWord_placeholder n) faithful.isSevered, inserted,
    countIn_placeholders least few, Nat.add_comm]

theorem IsFaithful.refill (faithful : IsFaithful m node spec pieces last)
    (absent : ∀ n, 1 ≤ n → n ≤ spec.blanks.length → ∀ shown ∈ shownParts pieces last,
      ¬(placeholder n).toList <:+: shown) :
    refill spec.blanks spec.code.toList = (m.text node).toList := by
  have code : spec.code.toList
      = written (fun blank => (placeholder blank.index).toList) pieces last := faithful.code
  have text : (m.text node).toList = written (fun blank => blank.text.toList) pieces last :=
    faithful.text
  have distinct : (spec.blanks.map Blank.index).Nodup := faithful.numbered ▸ List.nodup_range' 1
  rw [code, text]
  refine refill_written faithful.isSevered ?_ distinct ?_
  · intro piece mem
    rw [faithful.blanks]
    exact List.mem_map_of_mem mem
  · intro blank mem
    have numbered := List.mem_map_of_mem (f := Blank.index) mem
    rw [faithful.numbered, List.mem_range'_1] at numbered
    refine absent blank.index numbered.1 ?_
    rw [faithful.blanks, List.length_map]
    omega

theorem IsFaithful.isUnambiguous_iff (faithful : IsFaithful m node spec pieces last) :
    IsUnambiguous spec (m.text node).toList ↔
      ∀ n, 1 ≤ n → n ≤ spec.blanks.length → ∀ shown ∈ shownParts pieces last,
        ¬(placeholder n).toList <:+: shown := by
  constructor
  · intro unambiguous n least most
    have counted := faithful.countOf_placeholder least most
    have once := unambiguous.once n least most
    rw [← countIn_eq_zero_iff]
    omega
  · intro absent
    refine ⟨fun n least most => ?_, faithful.refill absent⟩
    rw [faithful.countOf_placeholder least most, countIn_eq_zero_iff.2 (absent n least most)]

/-- A placeholder stands where its blank is, and besides only where the shown text has it already.
    So a question is unambiguous exactly when the shown text has none of its placeholders, and
    always when the text of the node has none. -/
theorem generate_placesOnce {chain : Chain} {challenge : Challenge}
    (h : generate m chain = .ok challenge) :
    ∃ node ∈ m.nodes chain, ∃ spec pieces last, challenge.spec = .fillBlank spec ∧
      IsFaithful m node spec pieces last ∧
      (∀ n, 1 ≤ n → n ≤ spec.blanks.length →
        Text.countOf (placeholder n).toList spec.code.toList
          = 1 + countIn (placeholder n).toList (shownParts pieces last)) ∧
      (IsUnambiguous spec (m.text node).toList ↔
        ∀ n, 1 ≤ n → n ≤ spec.blanks.length → ∀ shown ∈ shownParts pieces last,
          ¬(placeholder n).toList <:+: shown) ∧
      ((∀ n, 1 ≤ n → n ≤ spec.blanks.length → ¬(placeholder n).toList <:+: (m.text node).toList) →
        IsUnambiguous spec (m.text node).toList) := by
  unfold generate at h
  obtain ⟨⟨node, segments⟩, target, h⟩ := bind_eq_ok_iff.1 h
  rw [orGap_eq_ok_iff] at target
  obtain ⟨found, known, blanked⟩ := List.exists_of_findSome?_eq_some target
  obtain ⟨segments, cutUp, same⟩ := Option.map_eq_some_iff.1 blanked
  cases same
  cases h
  have faithful := isFaithful_of_blankOut? cutUp
  have exactly := faithful.isUnambiguous_iff
  refine ⟨node, known, _, _, _, rfl, faithful,
    fun n least most => faithful.countOf_placeholder least most, exactly, ?_⟩
  intro absent
  refine exactly.2 fun n least most shown part inside => absent n least most ?_
  rw [faithful.text]
  exact inside.trans (isInfix_written (fun blank => blank.text.toList) part)

def guardedNode (parameters : List String) : Node :=
  { id := "f", name := "f", kind := .function, decorators := ["route"],
    parameters := parameters.map fun name => ⟨name, none, none⟩ }

def guardedMaterial (parameters : List String) : Material :=
  ⟨⟨[guardedNode parameters], [], ⟨["f"], by decide⟩⟩, fun _ => none, {}⟩

theorem guardedMaterial_built (parameters : List String) :
    (guardedMaterial parameters).graph.Built :=
  ⟨{ nodes := [guardedNode parameters], entryPoints := ["f"] }, rfl⟩

def guardedSpec (parameters : String) : FillBlankSpec :=
  ⟨"Fill in the blanks in `f`", "f", "@__1__\ndef f(" ++ parameters ++ "):\n    ...",
    [⟨1, "route", .decorator⟩]⟩

/-- Parameters that look like other placeholders, or nearly like the one, do no harm. -/
theorem generate_placesOnce_plain :
    ∃ challenge, generate (guardedMaterial ["__1", "__2__"]) decoratedChain = .ok challenge ∧
      challenge.spec = .fillBlank (guardedSpec "__1, __2__") ∧
      IsUnambiguous (guardedSpec "__1, __2__") "@route\ndef f(__1, __2__):\n    ...".toList := by
  have run : (generate (guardedMaterial ["__1", "__2__"]) decoratedChain).toOption.map (·.spec)
      = some (.fillBlank (guardedSpec "__1, __2__")) := by
    decide +kernel
  obtain ⟨challenge, succeeds, asked⟩ := Option.map_eq_some_iff.1 run
  rw [toOption_eq_some_iff] at succeeds
  obtain ⟨node, known, spec, pieces, last, isSpec, -, -, -, unambiguous⟩ :=
    generate_placesOnce succeeds
  cases ChallengeSpec.fillBlank.inj (asked.symm.trans isSpec)
  have nodes : (guardedMaterial ["__1", "__2__"]).nodes decoratedChain
      = [guardedNode ["__1", "__2__"]] := rfl
  rw [nodes] at known
  cases List.mem_singleton.1 known
  have text : ((guardedMaterial ["__1", "__2__"]).text (guardedNode ["__1", "__2__"])).toList
      = "@route\ndef f(__1, __2__):\n    ...".toList := by
    decide +kernel
  rw [text] at unambiguous
  refine ⟨challenge, succeeds, asked, unambiguous fun n least most => ?_⟩
  obtain rfl : n = 1 := Nat.le_antisymm most least
  rw [← Text.countOf_eq_zero_iff]
  decide +kernel

/-- A parameter with the name of the placeholder cannot be told from it. -/
theorem generate_placesTwice_disguised :
    (guardedMaterial ["__1__"]).graph.Built ∧
      ∃ challenge spec, generate (guardedMaterial ["__1__"]) decoratedChain = .ok challenge ∧
        challenge.spec = .fillBlank spec ∧ 1 ≤ spec.blanks.length ∧
        Text.countOf (placeholder 1).toList spec.code.toList = 2 ∧
        refill spec.blanks spec.code.toList
          ≠ ((guardedMaterial ["__1__"]).text (guardedNode ["__1__"])).toList := by
  have run : (generate (guardedMaterial ["__1__"]) decoratedChain).toOption.map (·.spec)
      = some (.fillBlank (guardedSpec "__1__")) := by
    decide +kernel
  obtain ⟨challenge, succeeds, asked⟩ := Option.map_eq_some_iff.1 run
  rw [toOption_eq_some_iff] at succeeds
  exact ⟨guardedMaterial_built _, challenge, _, succeeds, asked, by decide, by decide +kernel,
    by decide +kernel⟩

end CodeReading.FillBlank
