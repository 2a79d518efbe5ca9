import CodeReading.Proofs.Challenge.Words

set_option autoImplicit false

namespace CodeReading.FillBlank

variable {text before after tail gap : List Char} {word : Word} {callees : List (List Char)}
  {previous : Option Word} {span : Span} {c : Char}

def spelledSpans (spans : List Span) : List Char :=
  spans.flatMap fun span => span.gap ++ span.text

theorem spelledSpans_cons (span : Span) (spans : List Span) :
    spelledSpans (span :: spans) = span.gap ++ span.text ++ spelledSpans spans :=
  List.flatMap_cons

theorem spelledSpans_spansFrom (callees : List (List Char)) (tail : List Char)
    (previous : Option Word) (words : List Word) :
    spelledSpans (spansFrom callees tail previous words) = spelled words :=
  flatMap_spansFrom callees tail previous words

/-- Whether a span stands for a word and the dotted words that follow it, after other words and
    before later ones: all of them where it is a decorator, and otherwise the word alone, of the
    kind that it is classified as. -/
structure IsSpanOf (callees : List (List Char)) (tail : List Char) (previous : Option Word)
    (span : Span) (others : List Word) (word : Word) (run later : List Word) : Prop where
  gap : span.gap = word.gap
  text : span.text = joined word run
  dotted : ∀ part ∈ run, isDotted part = true
  single : span.kind ≠ some .decorator → run = []
  kind : if word.gap.getLast? = some '@' then span.kind = some .decorator
    else span.kind = classify callees (others.getLast?.or previous) word (nextGap tail later)

theorem getLast?_cons_or (word : Word) (others : List Word) (previous : Option Word) :
    (word :: others).getLast?.or previous = others.getLast?.or (some word) := by
  rw [List.getLast?_cons]
  cases others.getLast? <;> rfl

theorem exists_words_of_spansFrom {words : List Word} {front back : List Span}
    (split : spansFrom callees tail previous words = front ++ span :: back) :
    ∃ others word run later, words = others ++ word :: (run ++ later) ∧
      spelledSpans front = spelled others ∧ spelledSpans back = spelled later ∧
      IsSpanOf callees tail previous span others word run later := by
  fun_induction spansFrom callees tail previous words generalizing front with
  | case1 previous => simp at split
  | case2 previous word words decorates run text =>
    rename_i ih
    -- The recursion goes on behind the words that are joined to this one.
    have whole : words = run ++ words.dropWhile isDotted :=
      List.takeWhile_append_dropWhile.symm
    cases front with
    | nil =>
      cases split
      refine ⟨[], word, run, words.dropWhile isDotted, ?_, rfl, ?_, rfl, rfl,
        fun _ => List.mem_takeWhile_imp, fun other => absurd rfl other, by rw [if_pos decorates]⟩
      · rw [← whole]
        rfl
      · exact spelledSpans_spansFrom _ _ _ _
    | cons first front =>
      rw [List.cons_append, List.cons.injEq] at split
      obtain ⟨rfl, split⟩ := split
      obtain ⟨others, inner, dots, later, eq, before, after, isSpan⟩ := ih split
      rw [eq] at whole
      refine ⟨word :: (run ++ others), inner, dots, later, ?_, ?_, after, ?_⟩
      · rw [whole]
        simp
      · rw [spelledSpans_cons, spelled_cons, spelled_append, ← before]
        simp [text, spelled]
      · have last : (word :: (run ++ others)).getLast?.or previous
            = others.getLast?.or (some (run.getLast?.getD word)) := by
          rw [getLast?_cons_or, List.getLast?_append]
          cases others.getLast? <;> cases run.getLast? <;> rfl
        exact { isSpan with kind := last ▸ isSpan.kind }
  | case3 previous word words plain ih =>
    cases front with
    | nil =>
      cases split
      refine ⟨[], word, [], words, rfl, rfl, spelledSpans_spansFrom _ _ _ _, rfl, ?_,
        List.forall_mem_nil _, fun _ => rfl, by rw [if_neg plain]; rfl⟩
      simp [joined]
    | cons first front =>
      rw [List.cons_append, List.cons.injEq] at split
      obtain ⟨rfl, split⟩ := split
      obtain ⟨others, inner, dots, later, rfl, before, after, isSpan⟩ := ih split
      refine ⟨word :: others, inner, dots, later, rfl, ?_, after, ?_⟩
      · rw [spelledSpans_cons, spelled_cons, ← before]
      · have last := getLast?_cons_or word others previous
        exact { isSpan with kind := last ▸ isSpan.kind }

theorem classify_eq_none {words others later : List Word}
    (none : ∀ span ∈ spansFrom callees tail previous words, span.kind = none)
    (split : words = others ++ word :: later) : word.gap.getLast? ≠ some '@' ∧
      classify callees (others.getLast?.or previous) word (nextGap tail later) = .none := by
  fun_induction spansFrom callees tail previous words generalizing others with
  | case1 previous => simp at split
  | case2 previous word words decorates run text =>
    rw [List.forall_mem_cons] at none
    cases none.1
  | case3 previous first words plain ih =>
    rw [List.forall_mem_cons] at none
    cases others with
    | nil =>
      cases split
      exact ⟨plain, none.1⟩
    | cons other others =>
      rw [List.cons_append, List.cons.injEq] at split
      obtain ⟨rfl, split⟩ := split
      rw [getLast?_cons_or]
      exact ih none.2 split

/-- Why a word at its place may be blanked: it follows an at sign; it is what is returned; it is a
    keyword; or it is a called function. -/
inductive IsCandidate (callees : List (List Char)) (before text after : List Char) :
    BlankKind → Prop
  | decorator (sign : before.getLast? = some '@') : IsCandidate callees before text after .decorator
  | returnValue {front blank : List Char} (split : before = front ++ ("return".toList ++ blank))
      (returns : IsWordAt front "return".toList (blank ++ (text ++ after)))
      (isBlank : Text.allBlank blank = true) (plain : isControlKeyword text = false) :
      IsCandidate callees before text after .returnValue
  | keyword (isKeyword : isControlKeyword text = true) :
      IsCandidate callees before text after .keyword
  | callTarget (bracket : after.head? = some '(') (known : text ∈ callees) :
      IsCandidate callees before text after .callTarget

theorem head?_nextGap {later : List Word} (proper : ∀ word ∈ later, word.IsProper)
    (noStart : isWordStart c = false) :
    (nextGap tail later).head? = some c ↔ (spelled later ++ tail).head? = some c := by
  cases later with
  | nil => rfl
  | cons word later =>
    rw [spelled_cons, List.append_assoc, List.append_assoc]
    cases gap : word.gap with
    | cons d gap => simp [nextGap, gap]
    | nil =>
      obtain ⟨d, rest, eq, starts, -⟩ := (proper word List.mem_cons_self).text
      have apart : d ≠ c := by
        rintro rfl
        rw [starts] at noStart
        cases noStart
      simp [nextGap, gap, eq, apart]

theorem isCandidate_of_classify {others later : List Word} {kind : BlankKind}
    (split : (words text).1 = others ++ word :: later)
    (classified :
      classify callees others.getLast? word (nextGap (words text).2 later) = some kind) :
    IsCandidate callees (spelled others ++ word.gap) word.text (spelled later ++ (words text).2)
      kind := by
  unfold classify at classified
  split_ifs at classified with returned isKeyword called
  · cases classified
    simp only [Bool.and_eq_true, Option.any_eq_true, beq_iff_eq, Bool.not_eq_true'] at returned
    obtain ⟨⟨⟨other, last, returns⟩, isBlank⟩, plain⟩ := returned
    obtain ⟨others, rfl⟩ := List.getLast?_eq_some_iff.1 last
    have place : IsWordAt (spelled others ++ other.gap) other.text
        (spelled (word :: later) ++ (words text).2) := isWordAt_of_words (by rw [split]; simp)
    rw [returns, spelled_cons, List.append_assoc, List.append_assoc] at place
    have before : spelled (others ++ [other]) ++ word.gap
        = (spelled others ++ other.gap) ++ ("return".toList ++ word.gap) := by
      rw [spelled_append, spelled_cons, returns]
      simp [spelled]
    exact .returnValue before place isBlank plain
  · cases classified
    exact .keyword isKeyword
  · cases classified
    simp only [Bool.and_eq_true, beq_iff_eq, List.contains_eq_mem, decide_eq_true_eq] at called
    have proper : ∀ word ∈ later, word.IsProper := by
      intro word mem
      refine words_isProper text word ?_
      rw [split]
      exact List.mem_append_right _ (List.mem_cons_of_mem _ mem)
    exact .callTarget ((head?_nextGap proper (by decide)).1 called.1) called.2

theorem classify_ne_decorator : classify callees previous word after ≠ some .decorator := by
  unfold classify
  split_ifs <;> simp

theorem isCandidate_of_isSpanOf {others run later : List Word} {kind : BlankKind}
    (split : (words text).1 = others ++ word :: (run ++ later))
    (isSpan : IsSpanOf callees (words text).2 none span others word run later)
    (hidden : span.kind = some kind) :
    IsCandidate callees (spelled others ++ word.gap) word.text
      (spelled (run ++ later) ++ (words text).2) kind := by
  have rule := isSpan.kind
  rw [Option.or_none] at rule
  split_ifs at rule with sign
  · cases hidden.symm.trans rule
    exact .decorator (by rw [List.getLast?_append, sign]; rfl)
  · have alone : run = [] := isSpan.single (rule ▸ classify_ne_decorator)
    subst alone
    exact isCandidate_of_classify split (rule.symm.trans hidden)

theorem isGap_of_allBlank {blank : List Char} (isBlank : Text.allBlank blank = true) :
    IsGap blank := by
  have wide : (Text.wideBlanks.all fun c => !isWordStart c) = true := by decide
  intro c mem
  have blank := List.all_eq_true.1 isBlank c mem
  simp only [Text.isBlank, Bool.or_eq_true, beq_iff_eq, Bool.and_eq_true, decide_eq_true_eq,
    List.contains_eq_mem] at blank
  rcases blank with (rfl | ⟨low, high⟩) | listed
  · decide
  · rw [Char.le_def, UInt32.le_iff_toNat_le] at high
    have small : c.val.toNat ≤ 13 := high
    rw [Bool.eq_false_iff]
    intro starts
    change ((decide ('A'.val ≤ c.val ∧ c.val ≤ 'Z'.val)
      || decide ('a'.val ≤ c.val) && decide (c.val ≤ 'z'.val)) || c == '_') = true at starts
    simp only [Bool.or_eq_true, Bool.and_eq_true, decide_eq_true_eq, beq_iff_eq,
      UInt32.le_iff_toNat_le] at starts
    rcases starts with (⟨upper, -⟩ | ⟨lower, -⟩) | rfl
    · have large : 65 ≤ c.val.toNat := upper
      omega
    · have large : 97 ≤ c.val.toNat := lower
      omega
    · exact absurd small (by decide)
  · simpa using List.all_eq_true.1 wide c listed

/-- Each candidate is marked by an at sign, or classified for a reason that is no worse. -/
theorem IsCandidate.isMarked {kind : BlankKind}
    (candidate : IsCandidate callees before text after kind) :
    (words before).2.getLast? = some '@' ∨
      ∃ best, classify callees (words before).1.getLast? ⟨(words before).2, text⟩
        (nextGap (words after).2 (words after).1) = some best ∧ best.priority ≤ kind.priority := by
  cases candidate with
  | decorator sign => exact Or.inl ((getLast?_words_iff (by decide)).2 sign)
  | returnValue split returns isBlank plain =>
    rename_i front blank
    have isGap := isGap_of_allBlank isBlank
    have ends : ∀ c ∈ blank.head?, isWordChar c = false := by
      intro c first
      exact returns.ends c (by rw [List.head?_append, first]; rfl)
    have read := words_of_isWordAt ⟨returns.word, ends, returns.starts⟩
    rw [← split, words_of_isGap isGap] at read
    right
    refine ⟨.returnValue, ?_, Nat.le_refl _⟩
    rw [read, List.getLast?_append, classify, if_pos]
    simp [isBlank, plain]
  | keyword isKeyword =>
    right
    unfold classify
    split_ifs
    · exact ⟨.returnValue, rfl, by decide⟩
    · exact ⟨.keyword, rfl, Nat.le_refl _⟩
  | callTarget bracket known =>
    right
    rw [← spelled_words after] at bracket
    have called := (head?_nextGap (words_isProper after) (by decide)).2 bracket
    unfold classify
    split_ifs with returned isKeyword isCalled
    · exact ⟨.returnValue, rfl, by decide⟩
    · exact ⟨.keyword, rfl, by decide⟩
    · exact ⟨.callTarget, rfl, Nat.le_refl _⟩
    · simp_all

def spansOf (callees : List (List Char)) (text : List Char) : List Span :=
  spansFrom callees (words text).2 none (words text).1

theorem blankOut?_eq_ite (config : ChallengeConfig) (callees : List String) (text : String) :
    blankOut? config callees text
      = if budget config (wordCount text.toList) = 0
          ∨ candidates (spansOf (callees.map String.toList) text.toList) = [] then none
        else some (segments
          (chosen (budget config (wordCount text.toList))
            (spansOf (callees.map String.toList) text.toList))
          (spansOf (callees.map String.toList) text.toList) (words text.toList).2) :=
  rfl

/-- A text has something to blank exactly when one of its words is a candidate. -/
theorem exists_span_iff (callees : List (List Char)) (text : List Char) :
    (∃ span ∈ spansOf callees text, span.kind ≠ none) ↔
      ∃ before word after kind, text = before ++ (word ++ after) ∧ IsWordAt before word after ∧
        IsCandidate callees before word after kind := by
  unfold spansOf
  constructor
  · rintro ⟨span, mem, some⟩
    obtain ⟨kind, hidden⟩ := Option.ne_none_iff_exists'.1 some
    obtain ⟨front, back, spans⟩ := List.append_of_mem mem
    obtain ⟨others, word, run, later, split, -, -, isSpan⟩ := exists_words_of_spansFrom spans
    exact ⟨_, _, _, kind, eq_of_words split, isWordAt_of_words split,
      isCandidate_of_isSpanOf split isSpan hidden⟩
  · rintro ⟨before, word, after, kind, rfl, place, candidate⟩
    by_contra none
    simp only [not_exists, not_and, not_not] at none
    rw [words_of_isWordAt place] at none
    obtain ⟨noSign, plain⟩ := classify_eq_none none rfl
    rw [Option.or_none] at plain
    rcases candidate.isMarked with sign | ⟨best, classified, -⟩
    · exact noSign sign
    · cases plain.symm.trans classified

end CodeReading.FillBlank
