import CodeReading.Proofs.Challenge.Blanks
import Mathlib.Data.List.Induction

set_option autoImplicit false

namespace CodeReading.FillBlank

variable {gap text before after front tail : List Char} {c : Char} {word : Word}

/-- Whether a text is a whole word between two others: no character of a word follows, and no word
    that starts before reaches this far. -/
structure IsWordAt (before text after : List Char) : Prop where
  word : IsWord text
  ends : ∀ c ∈ after.head?, isWordChar c = false
  starts : ∀ front c back, before = front ++ c :: back → isWordStart c = true →
    ∃ d ∈ back, isWordChar d = false

theorem IsWordAt.suffix (h : IsWordAt (front ++ before) text after) :
    IsWordAt before text after where
  word := h.word
  ends := h.ends
  starts := by
    rintro start c back rfl
    exact h.starts (front ++ start) c back (List.append_assoc _ _ _).symm

theorem isWordAt_of_isGap (isGap : IsGap before) (word : IsWord text)
    (ends : ∀ c ∈ after.head?, isWordChar c = false) : IsWordAt before text after where
  word := word
  ends := ends
  starts := by
    rintro front c back rfl starts
    have noStart := isGap c (List.mem_append_right _ List.mem_cons_self)
    rw [starts] at noStart
    cases noStart

theorem isWordChar_of_isWordStart (starts : isWordStart c = true) : isWordChar c = true := by
  simp only [isWordStart, isWordChar, Char.isAlphanum, Bool.or_eq_true] at *
  tauto

theorem IsWordAt.prepend (front : List Char) (h : IsWordAt (c :: before) text after)
    (separates : isWordChar c = false) : IsWordAt (front ++ c :: before) text after where
  word := h.word
  ends := h.ends
  starts := by
    intro start d back split starts
    rcases List.append_eq_append_iff.1 split with ⟨between, rfl, rest⟩ | ⟨between, rfl, rest⟩
    · exact h.starts between d back rest starts
    · cases between with
      | nil => exact h.starts [] d back rest.symm starts
      | cons e between =>
        cases rest
        exact ⟨c, List.mem_append_right _ List.mem_cons_self, separates⟩

theorem takeWhile_of_head (ends : ∀ c ∈ after.head?, isWordChar c = false) :
    after.takeWhile isWordChar = [] := by
  cases after with
  | nil => rfl
  | cons c after => rw [List.takeWhile_cons, ends c rfl]; rfl

/-- Where a run of a word ends, nothing later matters. -/
theorem run_append (stops : ∃ d ∈ before, isWordChar d = false) (after : List Char) :
    (before ++ after).takeWhile isWordChar = before.takeWhile isWordChar ∧
      (before ++ after).dropWhile isWordChar = before.dropWhile isWordChar ++ after := by
  obtain ⟨d, mem, stops⟩ := stops
  induction before with
  | nil => cases mem
  | cons c before ih =>
    rw [List.cons_append, List.takeWhile_cons, List.dropWhile_cons, List.takeWhile_cons,
      List.dropWhile_cons]
    by_cases inner : isWordChar c = true
    · have later : d ∈ before := by
        rcases List.mem_cons.1 mem with rfl | later
        · rw [inner] at stops
          cases stops
        · exact later
      simp only [inner, if_true, ih later, and_self]
    · simp [inner]

theorem wordsFrom_cons_start (gap text : List Char) (starts : isWordStart c = true) :
    wordsFrom gap (c :: text)
      = (⟨gap.reverse, c :: text.takeWhile isWordChar⟩ :: (words (text.dropWhile isWordChar)).1,
        (words (text.dropWhile isWordChar)).2) := by
  rw [wordsFrom, if_pos starts]
  rfl

theorem wordsFrom_cons_gap (gap text : List Char) (noStart : ¬isWordStart c = true) :
    wordsFrom gap (c :: text) = wordsFrom (c :: gap) text := by
  rw [wordsFrom, if_neg noStart]

/-- A text with a word in it is read as what is before the word, the word, and what is after it. -/
theorem wordsFrom_append_word (gap : List Char) (h : IsWordAt before text after) :
    wordsFrom gap (before ++ (text ++ after))
      = ((wordsFrom gap before).1 ++ ⟨(wordsFrom gap before).2, text⟩ :: (words after).1,
        (words after).2) := by
  fun_induction wordsFrom gap before with
  | case1 gap =>
    obtain ⟨c, rest, rfl, starts, inner⟩ := h.word
    have run : (rest ++ after).takeWhile isWordChar = rest := by
      rw [List.takeWhile_append_of_pos inner, takeWhile_of_head h.ends, List.append_nil]
    rw [List.nil_append, List.cons_append, wordsFrom_cons_start gap _ starts, run,
      List.dropWhile_append_of_pos inner, dropWhile_of_head h.ends]
    rfl
  | case2 gap c before starts words tail eq ih =>
    obtain ⟨same, rest⟩ := run_append (h.starts [] c before rfl starts) (text ++ after)
    have later : IsWordAt (before.dropWhile isWordChar) text after := by
      have split : c :: before
          = c :: before.takeWhile isWordChar ++ before.dropWhile isWordChar := by
        rw [List.cons_append, List.takeWhile_append_dropWhile]
      exact IsWordAt.suffix (split ▸ h)
    have read := ih later
    rw [eq] at read
    rw [List.cons_append, wordsFrom_cons_start gap _ starts, same, rest]
    change (_ :: (wordsFrom [] _).1, (wordsFrom [] _).2) = _
    rw [read]
    rfl
  | case3 gap c before noStart ih =>
    rw [List.cons_append, wordsFrom_cons_gap gap _ noStart]
    have whole : IsWordAt ([c] ++ before) text after := h
    exact ih whole.suffix

def spelled (words : List Word) : List Char :=
  words.flatMap fun word => word.gap ++ word.text

theorem spelled_append (words others : List Word) :
    spelled (words ++ others) = spelled words ++ spelled others :=
  List.flatMap_append

theorem spelled_cons (word : Word) (words : List Word) :
    spelled (word :: words) = word.gap ++ word.text ++ spelled words :=
  List.flatMap_cons

theorem spelled_words (text : List Char) : spelled (words text).1 ++ (words text).2 = text :=
  flatMap_wordsFrom [] text

theorem isWordAt_of_wordsFrom {others later : List Word} (isGap : IsGap gap)
    (split : (wordsFrom gap text).1 = others ++ word :: later) :
    IsWordAt (spelled others ++ word.gap) word.text (spelled later ++ (wordsFrom gap text).2) := by
  fun_induction wordsFrom gap text generalizing others with
  | case1 gap => simp at split
  | case2 gap c text starts words tail eq ih =>
    rw [eq] at ih
    have rest : spelled words ++ tail = text.dropWhile isWordChar := by
      have whole := spelled_words (text.dropWhile isWordChar)
      unfold FillBlank.words at whole
      rwa [eq] at whole
    have stops : ∀ c ∈ (text.dropWhile isWordChar).head?, isWordChar c = false := by
      intro c first
      have head := List.head?_dropWhile_not isWordChar text
      rw [first] at head
      simpa using head
    cases others with
    | nil =>
      cases split
      rw [rest]
      exact isWordAt_of_isGap (isGap_reverse isGap)
        ⟨c, _, rfl, starts, fun _ => List.mem_takeWhile_imp⟩ stops
    | cons first others =>
      rw [List.cons_append, List.cons.injEq] at split
      obtain ⟨rfl, rfl⟩ := split
      have inner := ih isGap_nil rfl
      -- What is left after the first word begins with a character that is in no word.
      rw [← rest, spelled_append, spelled_cons, List.append_assoc, List.append_assoc,
        List.append_assoc, ← List.append_assoc] at stops
      cases start : spelled others ++ word.gap with
      | nil =>
        obtain ⟨d, run, eq, wordStarts, -⟩ := inner.word
        rw [start, eq] at stops
        have separates := stops d rfl
        rw [isWordChar_of_isWordStart wordStarts] at separates
        cases separates
      | cons d before =>
        rw [start] at inner stops
        rw [spelled_cons, List.append_assoc, start]
        exact inner.prepend _ (stops d rfl)
  | case3 gap c text noStart ih =>
    refine ih ?_ split
    rintro d (_ | ⟨_, mem⟩)
    · exact Bool.not_eq_true _ ▸ noStart
    · exact isGap d mem

/-- A text is read up to a word in it as if nothing followed. -/
theorem words_of_isWordAt (h : IsWordAt before text after) :
    words (before ++ (text ++ after))
      = ((words before).1 ++ ⟨(words before).2, text⟩ :: (words after).1, (words after).2) :=
  wordsFrom_append_word [] h

theorem words_of_isGap (isGap : IsGap gap) : words gap = ([], gap) :=
  wordsFrom_of_isGap [] isGap

theorem words_isProper (text : List Char) : ∀ word ∈ (words text).1, word.IsProper :=
  (wordsFrom_isProper [] text isGap_nil).1

theorem isWordAt_of_words {others later : List Word}
    (split : (words text).1 = others ++ word :: later) :
    IsWordAt (spelled others ++ word.gap) word.text (spelled later ++ (words text).2) :=
  isWordAt_of_wordsFrom isGap_nil split

theorem eq_of_words {others later : List Word} (split : (words text).1 = others ++ word :: later) :
    text = (spelled others ++ word.gap) ++ (word.text ++ (spelled later ++ (words text).2)) := by
  have whole := spelled_words text
  rw [split, spelled_append, spelled_cons] at whole
  refine whole.symm.trans ?_
  simp

theorem words_before {others later : List Word} (split : (words text).1 = others ++ word :: later) :
    words (spelled others ++ word.gap) = (others, word.gap) := by
  have isGap : IsGap word.gap := (words_isProper text word (by rw [split]; simp)).gap
  induction others using List.reverseRecOn generalizing word later with
  | nil => exact words_of_isGap isGap
  | append_singleton others other ih =>
    rw [List.append_assoc, List.singleton_append] at split
    have otherGap : IsGap other.gap := (words_isProper text other (by rw [split]; simp)).gap
    have place := isWordAt_of_words split
    have ends : ∀ c ∈ word.gap.head?, isWordChar c = false := by
      intro c first
      refine place.ends c ?_
      rw [spelled_cons, List.append_assoc, List.append_assoc, List.head?_append, first]
      rfl
    have read := words_of_isWordAt ⟨place.word, ends, place.starts⟩
    rw [ih split otherGap, words_of_isGap isGap] at read
    rw [spelled_append, ← read]
    simp [spelled]

theorem words_after {others later : List Word} (split : (words text).1 = others ++ later) :
    words (spelled later ++ (words text).2) = (later, (words text).2) := by
  rcases List.eq_nil_or_concat others with rfl | ⟨others, word, rfl⟩
  · rw [List.nil_append] at split
    rw [← split, spelled_words]
  · rw [List.concat_eq_append, List.append_assoc, List.singleton_append] at split
    have read := words_of_isWordAt (isWordAt_of_words split)
    rw [← eq_of_words split, words_before split] at read
    have first := congrArg Prod.fst read
    rw [split, List.append_cancel_left_eq, List.cons.injEq] at first
    exact Prod.ext first.2.symm (congrArg Prod.snd read).symm

theorem IsWord.forall_isWordChar (isWord : IsWord text) : ∀ c ∈ text, isWordChar c = true := by
  obtain ⟨c, rest, rfl, starts, inner⟩ := isWord
  exact List.forall_mem_cons.2 ⟨isWordChar_of_isWordStart starts, inner⟩

theorem IsWord.ne_nil (isWord : IsWord text) : text ≠ [] := by
  obtain ⟨c, rest, rfl, -⟩ := isWord
  exact List.cons_ne_nil c rest

theorem getLast?_spelled_append {others : List Word} (proper : ∀ word ∈ others, word.IsProper)
    (noWordChar : isWordChar c = false) :
    (spelled others ++ gap).getLast? = some c ↔ gap.getLast? = some c := by
  have noWord : (spelled others).getLast? ≠ some c := by
    intro last
    rcases List.eq_nil_or_concat others with rfl | ⟨others, word, rfl⟩
    · cases last
    · have isWord := (proper word (by simp)).text
      have written : spelled (others.concat word) = (spelled others ++ word.gap) ++ word.text := by
        simp [spelled]
      rw [written, List.getLast?_append_of_ne_nil _ isWord.ne_nil] at last
      have inWord := isWord.forall_isWordChar c (List.mem_of_getLast? last)
      rw [inWord] at noWordChar
      cases noWordChar
  rw [List.getLast?_append]
  cases gap.getLast? with
  | none => simpa using noWord
  | some d => rfl

theorem getLast?_words_iff (noWordChar : isWordChar c = false) :
    (words text).2.getLast? = some c ↔ text.getLast? = some c := by
  have last : (spelled (words text).1 ++ (words text).2).getLast? = some c
      ↔ (words text).2.getLast? = some c := getLast?_spelled_append (words_isProper text) noWordChar
  rw [spelled_words] at last
  exact last.symm

/-- Whether a text is a run of words, each joined to the next by a single dot, between two
    others. -/
inductive IsRunAt : List Char → List Char → List Char → Prop
  | word {before text after : List Char} : IsWordAt before text after → IsRunAt before text after
  | dot {before text rest after : List Char} : IsWordAt before text ('.' :: (rest ++ after)) →
      IsRunAt (before ++ (text ++ ['.'])) rest after → IsRunAt before (text ++ '.' :: rest) after

theorem joined_nil (word : Word) : joined word [] = word.text :=
  List.append_nil _

theorem joined_cons {part : Word} {run : List Word} (dotted : isDotted part = true) :
    joined word (part :: run) = word.text ++ '.' :: joined part run := by
  have dot : part.gap = ['.'] := by simpa [isDotted] using dotted
  simp [joined, dot]

theorem spelled_run (word : Word) (run later : List Word) :
    spelled (word :: (run ++ later)) = word.gap ++ (joined word run ++ spelled later) := by
  simp [spelled, joined]

theorem isRunAt_of_words {others run later : List Word}
    (split : (words text).1 = others ++ word :: (run ++ later))
    (dotted : ∀ part ∈ run, isDotted part = true) :
    IsRunAt (spelled others ++ word.gap) (joined word run) (spelled later ++ (words text).2) := by
  induction run generalizing others word with
  | nil =>
    rw [joined_nil]
    exact .word (isWordAt_of_words split)
  | cons part run ih =>
    rw [List.forall_mem_cons] at dotted
    have dot : part.gap = ['.'] := by simpa [isDotted] using dotted.1
    have first := isWordAt_of_words split
    have rest : IsRunAt (spelled (others ++ [word]) ++ part.gap) (joined part run)
        (spelled later ++ (words text).2) := ih (by rw [split]; simp) dotted.2
    rw [List.cons_append, spelled_run, dot] at first
    rw [joined_cons dotted.1]
    refine .dot ?_ ?_
    · simpa using first
    · simpa [spelled_append, spelled_cons, spelled, dot] using rest

end CodeReading.FillBlank
