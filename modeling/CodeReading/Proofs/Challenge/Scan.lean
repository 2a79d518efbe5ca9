import CodeReading.Proofs.Challenge.Candidates

set_option autoImplicit false

namespace CodeReading.FillBlank

variable {text before after tail gap : List Char} {word : Word} {callees : List (List Char)}
  {previous : Option Word} {start : Nat} {inside : Bool}

structure Candidate where
  start : Nat
  kind : BlankKind
  text : List Char
  deriving DecidableEq, Repr

def GoesOn (after : List Char) : Prop :=
  ∃ c rest, after = '.' :: c :: rest ∧ isWordStart c = true

/-- Whether a word between two texts belongs to a decorator: it follows an at sign, or a single dot
    joins it to a word that does. -/
inductive IsDecorating : List Char → List Char → List Char → Prop
  | sign {before text after : List Char} : IsWordAt before text after →
      before.getLast? = some '@' → IsDecorating before text after
  | dot {before text rest after : List Char} : IsDecorating before text ('.' :: (rest ++ after)) →
      IsWordAt (before ++ (text ++ ['.'])) rest after →
      IsDecorating (before ++ (text ++ ['.'])) rest after

/-- Whether a text between two others may be blanked: it is a decorator up to its last word, or a
    word that belongs to none, for the best of its reasons. -/
inductive IsCandidateAt (callees : List (List Char)) (before text after : List Char) :
    BlankKind → Prop
  | decorator (sign : before.getLast? = some '@') (run : IsRunAt before text after)
      (ends : ¬GoesOn after) : IsCandidateAt callees before text after .decorator
  | word {kind : BlankKind} (place : IsWordAt before text after)
      (apart : ¬IsDecorating before text after)
      (reason : IsCandidate callees before text after kind)
      (best : ∀ other, IsCandidate callees before text after other →
        kind.priority ≤ other.priority) : IsCandidateAt callees before text after kind

def placedFrom (place start : Nat) : List Span → List (Nat × Candidate)
  | [] => []
  | span :: spans =>
    (span.kind.map fun kind => (place, ⟨start + span.gap.length, kind, span.text⟩)).toList
      ++ placedFrom (place + 1) (start + span.gap.length + span.text.length) spans

def decorates (inside : Bool) (word : Word) : Bool :=
  word.gap.getLast? == some '@' || (inside && isDotted word)

/-- What is to be blanked from a word on: nothing if a decorator that starts before has it. -/
def pick? (callees : List (List Char)) (tail : List Char) (inside : Bool) (previous : Option Word)
    (word : Word) (rest : List Word) : Option (BlankKind × List Char) :=
  if word.gap.getLast? = some '@' then some (.decorator, joined word (rest.takeWhile isDotted))
  else if inside && isDotted word then none
  else (classify callees previous word (nextGap tail rest)).map (·, word.text)

/-- Candidates of words after `start` characters, found without skipping any. -/
def pickedFrom (callees : List (List Char)) (tail : List Char) (start : Nat) (inside : Bool)
    (previous : Option Word) : List Word → List Candidate
  | [] => []
  | word :: rest =>
    ((pick? callees tail inside previous word rest).map fun (kind, text) =>
        ⟨start + word.gap.length, kind, text⟩).toList
      ++ pickedFrom callees tail (start + word.gap.length + word.text.length)
        (decorates inside word) (some word) rest

theorem le_of_mem_placedFrom {spans : List Span} {place : Nat} {entry : Nat × Candidate}
    (mem : entry ∈ placedFrom place start spans) : place ≤ entry.1 ∧ start ≤ entry.2.start := by
  induction spans generalizing place start with
  | nil => cases mem
  | cons span spans ih =>
    rw [placedFrom, List.mem_append, Option.mem_toList, Option.map_eq_some_iff] at mem
    rcases mem with ⟨kind, -, rfl⟩ | later
    · exact ⟨Nat.le_refl _, Nat.le_add_right _ _⟩
    · have bounds := ih later
      omega

theorem pairwise_placedFrom (place start : Nat) (spans : List Span) :
    (placedFrom place start spans).Pairwise fun entry next =>
      entry.1 < next.1 ∧ entry.2.start + entry.2.text.length ≤ next.2.start := by
  induction spans generalizing place start with
  | nil => exact .nil
  | cons span spans ih =>
    rw [placedFrom]
    cases span.kind with
    | none => exact ih _ _
    | some kind => exact .cons (fun next later => le_of_mem_placedFrom later) (ih _ _)

/-- Inside a decorator nothing is found up to the first word that is not joined to it. -/
theorem pickedFrom_inside (words : List Word) :
    pickedFrom callees tail start true (some word) words
      = pickedFrom callees tail (start + (spelled (words.takeWhile isDotted)).length) false
        (some ((words.takeWhile isDotted).getLast?.getD word)) (words.dropWhile isDotted) := by
  induction words generalizing start word with
  | nil => rfl
  | cons next words ih =>
    by_cases dotted : isDotted next = true
    · have dot : next.gap = ['.'] := by simpa [isDotted] using dotted
      have noSign : next.gap.getLast? ≠ some '@' := by
        rw [dot]
        decide
      rw [List.takeWhile_cons_of_pos dotted, List.dropWhile_cons_of_pos dotted, spelled_cons,
        List.getLast?_cons, pickedFrom, pick?, if_neg noSign, decorates]
      simp only [dotted, Bool.and_self, if_true, Bool.or_true]
      rw [ih, List.length_append, List.length_append, Option.getD_some]
      simp only [Option.map_none, Option.toList_none, List.nil_append, Nat.add_assoc]
    · rw [List.takeWhile_cons_of_neg dotted, List.dropWhile_cons_of_neg dotted]
      simp [pickedFrom, pick?, decorates, dotted, spelled]

/-- The candidates of the spans are those that are found one word at a time. -/
theorem map_placedFrom (callees : List (List Char)) (tail : List Char) (previous : Option Word)
    (words : List Word) (place start : Nat) :
    (placedFrom place start (spansFrom callees tail previous words)).map Prod.snd
      = pickedFrom callees tail start false previous words := by
  fun_induction spansFrom callees tail previous words generalizing place start with
  | case1 previous => rfl
  | case2 previous word words sign run text ih =>
    have signed : decorates false word = true := by simp [decorates, sign]
    have long : text.length = word.text.length + (spelled run).length := List.length_append
    rw [placedFrom, List.map_append, ih, pickedFrom, pick?, if_pos sign, signed, pickedFrom_inside,
      long]
    simp only [Nat.add_assoc]
    rfl
  | case3 previous word words plain ih =>
    have unsigned : decorates false word = false := by simp [decorates, plain]
    rw [placedFrom, List.map_append, ih, pickedFrom, pick?, if_neg plain, unsigned]
    cases classify callees previous word (nextGap tail words) <;> rfl

theorem mem_pickedFrom_iff {words : List Word} {candidate : Candidate} :
    candidate ∈ pickedFrom callees tail start inside previous words ↔
      ∃ others word rest, words = others ++ word :: rest ∧
        candidate.start = start + (spelled others ++ word.gap).length ∧
        pick? callees tail (others.foldl decorates inside) (others.getLast?.or previous) word rest
          = some (candidate.kind, candidate.text) := by
  -- What comes before a word reaches it as its start, its state and the word last read.
  induction words generalizing start inside previous with
  | nil => simp [pickedFrom]
  | cons word words ih =>
    rw [pickedFrom, List.mem_append, ih, Option.mem_toList, Option.map_eq_some_iff]
    constructor
    · rintro (⟨⟨kind, text⟩, picked, rfl⟩ | ⟨others, inner, rest, rfl, isStart, picked⟩)
      · exact ⟨[], word, words, rfl, rfl, picked⟩
      · refine ⟨word :: others, inner, rest, rfl, ?_, ?_⟩
        · rw [isStart, spelled_cons]
          simp only [List.length_append]
          omega
        · rwa [getLast?_cons_or]
    · rintro ⟨others, inner, rest, split, isStart, picked⟩
      cases others with
      | nil =>
        cases split
        refine Or.inl ⟨_, picked, ?_⟩
        cases candidate
        cases isStart
        rfl
      | cons other others =>
        rw [List.cons_append, List.cons.injEq] at split
        obtain ⟨rfl, rfl⟩ := split
        refine Or.inr ⟨others, inner, rest, rfl, ?_, ?_⟩
        · rw [isStart, spelled_cons]
          simp only [List.length_append]
          omega
        · rwa [getLast?_cons_or] at picked

theorem goesOn_iff : GoesOn after ↔ (words after).1.head?.any isDotted = true := by
  rw [Option.any_eq_true]
  constructor
  · rintro ⟨c, rest, rfl, starts⟩
    have read : (words ('.' :: c :: rest)).1.head?
        = some ⟨['.'], c :: rest.takeWhile isWordChar⟩ := by
      unfold words
      rw [wordsFrom_cons_gap _ _ (by decide), wordsFrom_cons_start _ _ starts]
      rfl
    exact ⟨_, read, rfl⟩
  · rintro ⟨word, first, dotted⟩
    obtain ⟨later, split⟩ := List.head?_eq_some_iff.1 first
    have dot : word.gap = ['.'] := by simpa [isDotted] using dotted
    have isFirst : (words after).1 = [] ++ word :: later := split
    obtain ⟨c, rest, isText, starts, -⟩ := (isWordAt_of_words isFirst).word
    have whole := eq_of_words isFirst
    rw [dot, isText] at whole
    exact ⟨c, _, whole, starts⟩

theorem not_goesOn_iff : ¬GoesOn after ↔ (words after).1.takeWhile isDotted = [] := by
  rw [goesOn_iff]
  cases (words after).1 with
  | nil => simp
  | cons word later => cases dotted : isDotted word <;> simp [dotted]

theorem words_dot : words ['.'] = ([], ['.']) := by
  refine words_of_isGap ?_
  rintro c (_ | ⟨_, ⟨⟩⟩)
  rfl

theorem IsWordAt.before_dot (place : IsWordAt before text after) (rest : List Char) :
    IsWordAt before text ('.' :: rest) where
  word := place.word
  ends := by
    rintro c ⟨⟩
    rfl
  starts := place.starts

theorem IsRunAt.exists_first (run : IsRunAt before text after) (ends : ¬GoesOn after) :
    ∃ first rest, text = first ++ rest ∧ IsWordAt before first (rest ++ after) ∧
      ∀ gap, joined ⟨gap, first⟩ ((words (rest ++ after)).1.takeWhile isDotted) = text := by
  induction run with
  | @word before text after place =>
    refine ⟨text, [], (List.append_nil text).symm, place, fun gap => ?_⟩
    rw [List.nil_append, not_goesOn_iff.1 ends, joined_nil]
  | @dot before text rest after place run ih =>
    obtain ⟨first, back, rfl, inner, isJoined⟩ := ih ends
    refine ⟨text, '.' :: (first ++ back), rfl, place, fun gap => ?_⟩
    have next : IsWordAt ['.'] first (back ++ after) := by
      rw [← List.append_assoc] at inner
      exact inner.suffix
    have read := words_of_isWordAt next
    rw [words_dot] at read
    rw [List.cons_append, List.append_assoc]
    change joined _ ((words (['.'] ++ (first ++ (back ++ after)))).1.takeWhile isDotted) = _
    rw [read, List.nil_append, List.takeWhile_cons_of_pos rfl, joined_cons rfl, isJoined]

theorem IsWordAt.exists_run (place : IsWordAt before text after) (gap : List Char) :
    ∃ rest, text ++ after = joined ⟨gap, text⟩ ((words after).1.takeWhile isDotted) ++ rest ∧
      IsRunAt before (joined ⟨gap, text⟩ ((words after).1.takeWhile isDotted)) rest ∧
      ¬GoesOn rest := by
  have split : (words after).1
      = (words after).1.takeWhile isDotted ++ (words after).1.dropWhile isDotted :=
    List.takeWhile_append_dropWhile.symm
  refine ⟨spelled ((words after).1.dropWhile isDotted) ++ (words after).2, ?_, ?_, ?_⟩
  · have whole := spelled_words after
    rw [split, spelled_append, List.append_assoc] at whole
    refine (congrArg (text ++ ·) whole.symm).trans ?_
    simp [joined, spelled]
  · have read := words_of_isWordAt place
    have run := isRunAt_of_words ((congrArg Prod.fst read).trans (by rw [← split]))
      fun part mem => List.mem_takeWhile_imp mem
    rwa [congrArg Prod.snd read, spelled_words] at run
  · rw [not_goesOn_iff, words_after split]
    exact List.takeWhile_eq_nil_iff.2 (List.dropWhile_get_zero_not isDotted _)

theorem IsDecorating.isWordAt (decorating : IsDecorating before text after) :
    IsWordAt before text after := by
  cases decorating with
  | sign place _ => exact place
  | dot _ place => exact place

theorem IsDecorating.isFound (decorating : IsDecorating before text after) :
    decorates ((words before).1.foldl decorates false) ⟨(words before).2, text⟩ = true := by
  induction decorating with
  | sign place sign => simp [decorates, (getLast?_words_iff (by decide)).2 sign]
  | dot first place ih =>
    rw [words_of_isWordAt (first.isWordAt.before_dot []), words_dot, List.foldl_append,
      List.foldl_cons, List.foldl_nil, ih]
    rfl

/-- A word belongs to a decorator exactly if it is found to when the words before it are read. -/
theorem isDecorating_iff (place : IsWordAt before text after) : IsDecorating before text after ↔
    decorates ((words before).1.foldl decorates false) ⟨(words before).2, text⟩ = true := by
  refine ⟨IsDecorating.isFound, fun found => ?_⟩
  -- A word after no at sign is joined to the last word before, which is then found as well.
  induction split : (words before).1 using List.reverseRecOn generalizing before text after with
  | nil =>
    rw [split] at found
    exact .sign place ((getLast?_words_iff (by decide)).1 (by simpa [decorates] using found))
  | append_singleton others other ih =>
    by_cases sign : before.getLast? = some '@'
    · exact .sign place sign
    · have noSign : (words before).2.getLast? ≠ some '@' :=
        mt (getLast?_words_iff (by decide)).1 sign
      rw [split, List.foldl_append, decorates, beq_false_of_ne noSign, Bool.false_or,
        Bool.and_eq_true] at found
      have dot : (words before).2 = ['.'] := by simpa [isDotted] using found.2
      have first := isWordAt_of_words split
      have read := words_before split
      have whole := eq_of_words split
      rw [dot] at whole
      rw [whole] at place ⊢
      refine .dot (ih (first.before_dot _) ?_ (congrArg Prod.fst read)) place
      rw [read]
      exact found.1

theorem priority_injective : Function.Injective BlankKind.priority := by
  intro kind other same
  cases kind <;> cases other <;> first | rfl | cases same

theorem classify_eq_some_iff {kind : BlankKind} (place : IsWordAt before text after)
    (noSign : (words before).2.getLast? ≠ some '@') :
    classify callees (words before).1.getLast? ⟨(words before).2, text⟩
        (nextGap (words after).2 (words after).1) = some kind ↔
      IsCandidate callees before text after kind ∧
        ∀ other, IsCandidate callees before text after other → kind.priority ≤ other.priority := by
  have reason : ∀ best, classify callees (words before).1.getLast? ⟨(words before).2, text⟩
      (nextGap (words after).2 (words after).1) = some best →
      IsCandidate callees before text after best := by
    intro best classified
    have read := words_of_isWordAt place
    rw [← congrArg Prod.snd read] at classified
    have candidate := isCandidate_of_classify (congrArg Prod.fst read) classified
    rwa [congrArg Prod.snd read, spelled_words, spelled_words] at candidate
  have better : ∀ other, IsCandidate callees before text after other →
      ∃ best, classify callees (words before).1.getLast? ⟨(words before).2, text⟩
        (nextGap (words after).2 (words after).1) = some best ∧ best.priority ≤ other.priority :=
    fun other candidate => candidate.isMarked.resolve_left noSign
  constructor
  · intro classified
    refine ⟨reason kind classified, fun other candidate => ?_⟩
    obtain ⟨best, isBest, least⟩ := better other candidate
    cases classified.symm.trans isBest
    exact least
  · rintro ⟨candidate, least⟩
    obtain ⟨best, isBest, most⟩ := better kind candidate
    rwa [priority_injective (Nat.le_antisymm (least best (reason best isBest)) most)]

theorem isCandidateAt_of_pick? {kind : BlankKind} {hidden : List Char}
    (place : IsWordAt before text after)
    (picked : pick? callees (words after).2 ((words before).1.foldl decorates false)
      (words before).1.getLast? ⟨(words before).2, text⟩ (words after).1 = some (kind, hidden)) :
    ∃ rest, text ++ after = hidden ++ rest ∧ IsCandidateAt callees before hidden rest kind := by
  unfold pick? at picked
  split_ifs at picked with sign taken
  · cases picked
    obtain ⟨rest, same, run, ends⟩ := place.exists_run (words before).2
    exact ⟨rest, same, .decorator ((getLast?_words_iff (by decide)).1 sign) run ends⟩
  · obtain ⟨kind, classified, same⟩ := Option.map_eq_some_iff.1 picked
    cases same
    have best := (classify_eq_some_iff place sign).1 classified
    have apart : ¬IsDecorating before text after := by
      rw [isDecorating_iff place]
      simpa [decorates, sign] using taken
    exact ⟨after, rfl, .word place apart best.1 best.2⟩

theorem IsCandidateAt.exists_pick? {kind : BlankKind}
    (candidate : IsCandidateAt callees before text after kind) :
    ∃ first rest, text = first ++ rest ∧ IsWordAt before first (rest ++ after) ∧
      pick? callees (words (rest ++ after)).2 ((words before).1.foldl decorates false)
        (words before).1.getLast? ⟨(words before).2, first⟩ (words (rest ++ after)).1
        = some (kind, text) := by
  cases candidate with
  | decorator sign run ends =>
    obtain ⟨first, rest, isText, place, isJoined⟩ := run.exists_first ends
    refine ⟨first, rest, isText, place, ?_⟩
    rw [pick?, if_pos ((getLast?_words_iff (by decide)).2 sign), isJoined]
  | word place apart reason best =>
    rw [isDecorating_iff place, decorates, Bool.or_eq_true, beq_iff_eq, not_or] at apart
    obtain ⟨noSign, outside⟩ := apart
    have classified := (classify_eq_some_iff place noSign).2 ⟨reason, best⟩
    refine ⟨text, [], (List.append_nil text).symm, place, ?_⟩
    rw [pick?, if_neg noSign, if_neg outside, List.nil_append, classified]
    rfl

def IsCandidateIn (callees : List (List Char)) (text : List Char) (candidate : Candidate) : Prop :=
  ∃ before after, text = before ++ (candidate.text ++ after) ∧
    candidate.start = before.length ∧
    IsCandidateAt callees before candidate.text after candidate.kind

/-- The scan finds the candidates of a text, all of them and no others. -/
theorem mem_placed_iff {candidate : Candidate} :
    candidate ∈ (placedFrom 0 0 (spansOf callees text)).map Prod.snd ↔
      IsCandidateIn callees text candidate := by
  unfold spansOf
  rw [map_placedFrom, mem_pickedFrom_iff]
  constructor
  · rintro ⟨others, word, rest, split, isStart, picked⟩
    have later := words_after (split.trans (List.append_cons others word rest))
    have found : pick? callees (words (spelled rest ++ (words text).2)).2
        ((words (spelled others ++ word.gap)).1.foldl decorates false)
        (words (spelled others ++ word.gap)).1.getLast?
        ⟨(words (spelled others ++ word.gap)).2, word.text⟩
        (words (spelled rest ++ (words text).2)).1 = some (candidate.kind, candidate.text) := by
      rwa [words_before split, later, ← Option.or_none (o := others.getLast?)]
    obtain ⟨after, same, isCandidate⟩ := isCandidateAt_of_pick? (isWordAt_of_words split) found
    have whole := eq_of_words split
    rw [same] at whole
    exact ⟨_, after, whole, isStart.trans (Nat.zero_add _), isCandidate⟩
  · rintro ⟨before, after, whole, isStart, isCandidate⟩
    obtain ⟨first, rest, isText, place, picked⟩ := isCandidate.exists_pick?
    have read := words_of_isWordAt place
    rw [isText, List.append_assoc] at whole
    rw [whole, read]
    refine ⟨_, _, _, rfl, ?_, ?_⟩
    · rw [isStart, spelled_words, Nat.zero_add]
    · rw [Option.or_none, picked]

end CodeReading.FillBlank
