import CodeReading.Challenge.Basic
import CodeReading.Challenge.Hints

set_option autoImplicit false

/-!
# Fill in the blanks

Words of a text are classified from left to right; the most important ones, as many as the budget
allows, become numbered blanks. A text is cut into spans, each with the gap before it, and what is
left over at its end, so nothing is lost on the way.
-/
namespace CodeReading.FillBlank

def controlKeywords : List String :=
  ["if", "elif", "else", "for", "while", "return", "yield", "await", "async", "with", "try",
    "except", "finally", "raise", "break", "continue", "lambda"]

def isControlKeyword (word : List Char) : Bool :=
  controlKeywords.any fun keyword => keyword.toList == word

def isWordStart (c : Char) : Bool :=
  c.isAlpha || c == '_'

def isWordChar (c : Char) : Bool :=
  c.isAlphanum || c == '_'

structure Word where
  gap : List Char
  text : List Char
  deriving DecidableEq, Repr

/-- Words of a text after the characters `gap`, in reverse order, and what follows the last word. -/
def wordsFrom (gap : List Char) (text : List Char) : List Word × List Char :=
  match text with
  | [] => ([], gap.reverse)
  | c :: text =>
    if isWordStart c then
      let (words, tail) := wordsFrom [] (text.dropWhile isWordChar)
      (⟨gap.reverse, c :: text.takeWhile isWordChar⟩ :: words, tail)
    else wordsFrom (c :: gap) text
termination_by text.length
decreasing_by
  · exact Nat.lt_succ_of_le (List.dropWhile_sublist _).length_le
  · exact Nat.lt_succ_self _

def words (text : List Char) : List Word × List Char :=
  wordsFrom [] text

/-- A word, or the words of a dotted decorator, with the gap before it. Only a span with a kind can
    be blanked. -/
structure Span where
  kind : Option BlankKind
  gap : List Char
  text : List Char
  deriving DecidableEq, Repr

/-- What a word that is no decorator hides, given the word before it and the text after it. -/
def classify (callees : List (List Char)) (previous : Option Word) (word : Word)
    (after : List Char) : Option BlankKind :=
  if (previous.any fun other => other.text == "return".toList) && Text.allBlank word.gap
      && !isControlKeyword word.text then
    some .returnValue
  else if isControlKeyword word.text then some .keyword
  else if after.head? == some '(' && callees.contains word.text then some .callTarget
  else none

def nextGap (tail : List Char) : List Word → List Char
  | word :: _ => word.gap
  | [] => tail

/-- Whether a word is joined to the word before it by a single dot. -/
def isDotted (word : Word) : Bool :=
  word.gap == ['.']

def spansFrom (callees : List (List Char)) (tail : List Char) (previous : Option Word)
    (words : List Word) : List Span :=
  match words with
  | [] => []
  | word :: words =>
    if word.gap.getLast? = some '@' then
      let run := words.takeWhile isDotted
      let text := word.text ++ run.flatMap fun part => part.gap ++ part.text
      ⟨some .decorator, word.gap, text⟩
        :: spansFrom callees tail (some (run.getLast?.getD word)) (words.dropWhile isDotted)
    else
      ⟨classify callees previous word (nextGap tail words), word.gap, word.text⟩
        :: spansFrom callees tail (some word) words
termination_by words.length
decreasing_by
  · exact Nat.lt_succ_of_le (List.dropWhile_sublist _).length_le
  · exact Nat.lt_succ_self _

def budget (config : ChallengeConfig) (wordCount : Nat) : Nat :=
  min (Float.ofNat wordCount * config.maxBlankFraction.toFloat).toUInt64.toNat config.maxBlanks.toNat

def candidates (spans : List Span) : List (BlankKind × Nat) :=
  spans.zipIdx.filterMap fun (span, i) => span.kind.map (·, i)

/-- Places of the most important candidates; of one kind, the first ones. -/
def chosen (budget : Nat) (spans : List Span) : List Nat :=
  (((candidates spans).mergeSort fun a b => a.1.priority ≤ b.1.priority).take budget).map (·.2)

inductive Segment where
  | shown (text : List Char)
  | hidden (kind : BlankKind) (text : List Char)

def Segment.text : Segment → List Char
  | .shown text => text
  | .hidden _ text => text

def cut (places : List Nat) (span : Span) (place : Nat) : List Segment :=
  match span.kind with
  | some kind =>
    if place ∈ places then [.shown span.gap, .hidden kind span.text]
    else [.shown (span.gap ++ span.text)]
  | none => [.shown (span.gap ++ span.text)]

def segments (places : List Nat) (spans : List Span) (tail : List Char) : List Segment :=
  (spans.zipIdx.flatMap fun (span, place) => cut places span place) ++ [.shown tail]

def placeholder (index : Nat) : String :=
  "__" ++ index.repr ++ "__"

/-- The shown text, with a placeholder for each hidden piece; they are numbered from `index` on. -/
def codeFrom (index : Nat) : List Segment → List Char
  | [] => []
  | .shown text :: rest => text ++ codeFrom index rest
  | .hidden _ _ :: rest => (placeholder index).toList ++ codeFrom (index + 1) rest

def blanksFrom (index : Nat) : List Segment → List Blank
  | [] => []
  | .shown _ :: rest => blanksFrom index rest
  | .hidden kind text :: rest => ⟨index, String.ofList text, kind⟩ :: blanksFrom (index + 1) rest

/-- The text cut up, if there is a budget and something to blank. -/
def blankOut? (config : ChallengeConfig) (callees : List String) (text : String) :
    Option (List Segment) :=
  let (words, tail) := words text.toList
  let spans := spansFrom (callees.map String.toList) tail none words
  let budget := budget config words.length
  if budget = 0 ∨ candidates spans = [] then none
  else some (segments (chosen budget spans) spans tail)

def hint (blanks : List Blank) : String :=
  blanks.length.repr ++ " blank(s), hiding: "
    ++ ", ".intercalate (dropRepeats (blanks.map fun blank => blank.kind.label))

def target? (m : Material) (chain : Chain) : Option (Node × List Segment) :=
  (m.nodes chain).findSome? fun node =>
    (blankOut? m.config (m.calleeNames node) (m.text node)).map (node, ·)

def spec (node : Node) (segments : List Segment) : FillBlankSpec :=
  { prompt := "Fill in the blanks in `" ++ node.name ++ "`"
    function := node.name
    code := String.ofList (codeFrom 1 segments)
    blanks := blanksFrom 1 segments }

def generate (m : Material) (chain : Chain) : Except GapReason Challenge := do
  let (node, segments) ← orGap .nothingToBlank (target? m chain)
  pure (m.challenge chain (.fillBlank (spec node segments))
    (Hints.ladder node [hint (blanksFrom 1 segments)]))

end CodeReading.FillBlank
