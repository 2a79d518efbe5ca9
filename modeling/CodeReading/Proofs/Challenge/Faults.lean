import CodeReading.Challenge.Debugging
import CodeReading.Proofs.Challenge.Success
import CodeReading.Proofs.Text.Lines
import CodeReading.Proofs.Text.Search
import Mathlib.Data.List.TakeWhile

set_option autoImplicit false

namespace CodeReading.Debugging

variable {line name word front back text : List Char} {names : List (List Char)} {position : Nat}

def EndsApart (front : List Char) : Prop :=
  ∀ c ∈ front.getLast?, Text.isIdentifierChar c = false

def StartsApart (back : List Char) : Prop :=
  ∀ c ∈ back.head?, Text.isIdentifierChar c = false

theorem not_any_iff {c? : Option Char} :
    (!c?.any Text.isIdentifierChar) = true ↔ ∀ c ∈ c?, Text.isIdentifierChar c = false := by
  cases c? <;> simp

theorem startsWord_append : startsWord (front ++ text) front.length = true ↔ EndsApart front := by
  unfold startsWord EndsApart
  rw [List.take_left, not_any_iff]

theorem endsWord_append :
    endsWord (front ++ (word ++ back)) (front.length + word.length) = true ↔ StartsApart back := by
  unfold endsWord StartsApart
  rw [← List.append_assoc, ← List.length_append, List.drop_left, not_any_iff]

/-- Whether `name` is called between the rest of a line: it stands there on its own, with a bracket
    behind it, and no match of the name further left reaches over the place. -/
structure IsCallAt (line front name back : List Char) : Prop where
  split : line = front ++ (name ++ '(' :: back)
  apart : EndsApart front
  isMatch : Text.IsMatchAt name line front.length

theorem isCallAt_of_callOf? (h : callOf? line name = some position) :
    ∃ front back, IsCallAt line front name back ∧ position = front.length := by
  have found := List.mem_of_find?_eq_some h
  have holds := List.find?_some h
  obtain ⟨front, back, rfl, rfl⟩ := Text.exists_split_of_mem_occurrences found
  simp only [Bool.and_eq_true, startsWord_append, beq_iff_eq] at holds
  obtain ⟨apart, bracket⟩ := holds
  rw [← List.append_assoc, ← List.length_append, List.drop_left] at bracket
  obtain ⟨back, rfl⟩ := List.head?_eq_some_iff.1 bracket
  exact ⟨front, back, ⟨rfl, apart, Text.mem_occurrences_iff.1 found⟩, rfl⟩

theorem IsCallAt.isChosen (call : IsCallAt line front name back) :
    (startsWord line front.length
      && (line.drop (front.length + name.length)).head? == some '(') = true := by
  have bracket : (line.drop (front.length + name.length)).head? = some '(' := by
    rw [call.split, ← List.append_assoc, ← List.length_append, List.drop_left]
    rfl
  rw [bracket, call.split, startsWord_append.2 call.apart]
  rfl

theorem callOf?_isSome (call : IsCallAt line front name back) : (callOf? line name).isSome := by
  unfold callOf?
  rw [List.find?_isSome]
  exact ⟨front.length, Text.mem_occurrences_iff.2 call.isMatch, call.isChosen⟩

theorem foldl_earlier_mem (calls : List (Nat × List Char)) (call : Nat × List Char) :
    calls.foldl earlier call ∈ call :: calls := by
  induction calls generalizing call with
  | nil => exact List.mem_cons_self
  | cons next calls ih =>
    have later := ih (earlier call next)
    rw [List.foldl_cons]
    rcases List.mem_cons.1 later with same | mem
    · rw [same]
      unfold earlier
      split <;> simp
    · exact List.mem_cons_of_mem _ (List.mem_cons_of_mem _ mem)

theorem isCallAt_of_findCall? (h : findCall? line names = some (position, name)) :
    name ∈ names ∧ ∃ front back, IsCallAt line front name back ∧ position = front.length := by
  unfold findCall? at h
  split at h
  · cases h
  · rename_i call calls listed
    have mem := foldl_earlier_mem calls call
    rw [Option.some.inj h, ← listed] at mem
    obtain ⟨known, mem, found⟩ := List.mem_filterMap.1 mem
    obtain ⟨place, found, same⟩ := Option.map_eq_some_iff.1 found
    cases same
    exact ⟨mem, isCallAt_of_callOf? found⟩

theorem findCall?_isSome (mem : name ∈ names) (call : IsCallAt line front name back) :
    (findCall? line names).isSome := by
  obtain ⟨position, found⟩ := Option.isSome_iff_exists.1 (callOf?_isSome call)
  have listed : (position, name) ∈ names.filterMap fun name => (callOf? line name).map (·, name) :=
    List.mem_filterMap.2 ⟨name, mem, Option.map_eq_some_iff.2 ⟨position, found, rfl⟩⟩
  unfold findCall?
  split
  · rename_i none
    rw [none] at listed
    cases listed
  · rfl

def booleanFlips : List (String × String) := [("True", "False"), ("False", "True")]

/-- What it means that a line has a fault put into it: a comparison that stands in it is traded for
    another; a called function is traded for another callee; an `await` is left out; something other
    than `None` is no longer returned; a boolean is traded for the other; or all of a line with a
    call gives way. -/
inductive IsFaultIn (names : List (List Char)) (line : List Char) : Mutation → List Char → Prop
  | flipComparison {front back : List Char} {flip : String × String}
      (known : flip ∈ comparisonFlips) (split : line = front ++ (flip.1.toList ++ back)) :
      IsFaultIn names line .flipComparison (front ++ (flip.2.toList ++ back))
  | swapCall {front name other back : List Char} (known : name ∈ names)
      (call : IsCallAt line front name back) (callee : other ∈ names) (differs : other ≠ name) :
      IsFaultIn names line .swapCall (front ++ (other ++ '(' :: back))
  | dropAwait {front back : List Char} (split : line = front ++ ("await ".toList ++ back)) :
      IsFaultIn names line .dropAwait (front ++ back)
  | returnNone {indent value : List Char} (blank : Text.allBlank indent = true)
      (split : line = indent ++ ("return ".toList ++ value)) (some : Text.trim value ≠ [])
      (other : Text.trim value ≠ "None".toList) :
      IsFaultIn names line .returnNone (indent ++ "return None".toList)
  | flipBoolean {front back : List Char} {flip : String × String} (known : flip ∈ booleanFlips)
      (split : line = front ++ (flip.1.toList ++ back)) (before : EndsApart front)
      (after : StartsApart back) :
      IsFaultIn names line .flipBoolean (front ++ (flip.2.toList ++ back))
  | skipCall {front name back : List Char} (known : name ∈ names)
      (call : IsCallAt line front name back) :
      IsFaultIn names line .skipCall (Text.indent line ++ "pass".toList)

variable {mutation : Mutation} {buggy replacement : List Char}

theorem isFaultIn_of_flipComparison? (h : flipComparison? line = some buggy) :
    IsFaultIn names line .flipComparison buggy := by
  obtain ⟨flip, known, replaced⟩ := List.exists_of_findSome?_eq_some h
  obtain ⟨front, back, split, rfl⟩ := Text.of_replaceFirst? replaced
  exact .flipComparison known split

theorem isFaultIn_of_swapCall? (h : swapCall? names line = some buggy) :
    IsFaultIn names line .swapCall buggy := by
  simp only [swapCall?, bind, Option.bind_eq_some_iff] at h
  obtain ⟨⟨position, name⟩, called, other, callee, same⟩ := h
  obtain ⟨known, front, back, call, rfl⟩ := isCallAt_of_findCall? called
  have differs := List.find?_some callee
  rw [bne_iff_ne] at differs
  have swapped : front ++ (other ++ '(' :: back) = buggy := by
    rw [← Text.replaceAt_append front name other, ← call.split]
    exact Option.some.inj same
  exact swapped ▸ .swapCall known call (List.mem_of_find?_eq_some callee) differs

theorem isFaultIn_of_dropAwait? (h : Text.replaceFirst? "await ".toList [] line = some buggy) :
    IsFaultIn names line .dropAwait buggy := by
  obtain ⟨front, back, split, rfl⟩ := Text.of_replaceFirst? h
  exact .dropAwait split

theorem of_dropPrefix? {start rest : List Char} (h : Text.dropPrefix? start text = some rest) :
    text = start ++ rest := by
  unfold Text.dropPrefix? at h
  split at h
  · rename_i isPrefix
    obtain ⟨rest, rfl⟩ := List.isPrefixOf_iff_prefix.1 isPrefix
    rw [List.drop_left] at h
    rw [Option.some.inj h]
  · cases h

theorem allBlank_indent (line : List Char) : Text.allBlank (Text.indent line) = true :=
  List.all_eq_true.2 fun _ mem => List.mem_takeWhile_imp mem

theorem isFaultIn_of_returnNone? (h : returnNone? line = some buggy) :
    IsFaultIn names line .returnNone buggy := by
  simp only [returnNone?, bind, Option.bind_eq_some_iff] at h
  obtain ⟨value, code, h⟩ := h
  split at h
  · cases h
  · rename_i returns
    rw [not_or] at returns
    have split : line = Text.indent line ++ ("return ".toList ++ value) := by
      rw [← of_dropPrefix? code, Text.indent_append_trimStart]
    rw [← Option.some.inj h]
    exact .returnNone (allBlank_indent line) split returns.1 returns.2

theorem of_replaceWord? (h : replaceWord? word replacement line = some buggy) :
    ∃ front back, line = front ++ (word ++ back) ∧ EndsApart front ∧ StartsApart back ∧
      buggy = front ++ (replacement ++ back) := by
  obtain ⟨position, found, same⟩ := Option.map_eq_some_iff.1 h
  have holds := List.find?_some found
  obtain ⟨front, back, rfl, rfl⟩ :=
    Text.exists_split_of_mem_occurrences (List.mem_of_find?_eq_some found)
  rw [Bool.and_eq_true, startsWord_append, endsWord_append] at holds
  rw [Text.replaceAt_append] at same
  exact ⟨front, back, rfl, holds.1, holds.2, same.symm⟩

theorem isFaultIn_of_replaceWord? {flip : String × String} (known : flip ∈ booleanFlips)
    (h : replaceWord? flip.1.toList flip.2.toList line = some buggy) :
    IsFaultIn names line .flipBoolean buggy := by
  obtain ⟨front, back, split, before, after, rfl⟩ := of_replaceWord? h
  exact .flipBoolean known split before after

theorem isFaultIn_of_flipBoolean? (h : flipBoolean? line = some buggy) :
    IsFaultIn names line .flipBoolean buggy := by
  rcases Option.or_eq_some_iff.1 h with replaced | ⟨-, replaced⟩
  · have known : ("True", "False") ∈ booleanFlips := List.mem_cons_self
    exact isFaultIn_of_replaceWord? known replaced
  · have known : ("False", "True") ∈ booleanFlips := List.mem_cons_of_mem _ List.mem_cons_self
    exact isFaultIn_of_replaceWord? known replaced

theorem isFaultIn_of_skipCall? (h : skipCall? names line = some buggy) :
    IsFaultIn names line .skipCall buggy := by
  obtain ⟨⟨position, name⟩, called, rfl⟩ := Option.map_eq_some_iff.1 h
  obtain ⟨known, front, back, call, -⟩ := isCallAt_of_findCall? called
  exact .skipCall known call

theorem isFaultIn_of_mutate? (h : mutate? mutation names line = some buggy) :
    IsFaultIn names line mutation buggy := by
  cases mutation with
  | flipComparison => exact isFaultIn_of_flipComparison? h
  | swapCall => exact isFaultIn_of_swapCall? h
  | dropAwait => exact isFaultIn_of_dropAwait? h
  | returnNone => exact isFaultIn_of_returnNone? h
  | flipBoolean => exact isFaultIn_of_flipBoolean? h
  | skipCall => exact isFaultIn_of_skipCall? h

theorem flipComparison?_isSome {flip : String × String} (known : flip ∈ comparisonFlips)
    (split : line = front ++ (flip.1.toList ++ back)) : (flipComparison? line).isSome := by
  unfold flipComparison?
  rw [List.findSome?_isSome_iff]
  refine ⟨flip, known, Text.replaceFirst?_isSome_iff.2 ⟨front, back, ?_⟩⟩
  rw [split, List.append_assoc]

theorem swapCall?_isSome {other : List Char} (known : name ∈ names)
    (call : IsCallAt line front name back) (callee : other ∈ names) (differs : other ≠ name) :
    (swapCall? names line).isSome := by
  obtain ⟨⟨position, called⟩, found⟩ := Option.isSome_iff_exists.1 (findCall?_isSome known call)
  have another : (names.find? (· != called)).isSome := by
    rw [List.find?_isSome]
    by_cases same : other = called
    · exact ⟨name, known, bne_iff_ne.2 fun eq => differs (same.trans eq.symm)⟩
    · exact ⟨other, callee, bne_iff_ne.2 same⟩
  obtain ⟨another, chosen⟩ := Option.isSome_iff_exists.1 another
  simp [swapCall?, found, chosen]

theorem returnNone?_isSome {indent value : List Char} (blank : Text.allBlank indent = true)
    (split : line = indent ++ ("return ".toList ++ value)) (some : Text.trim value ≠ [])
    (other : Text.trim value ≠ "None".toList) : (returnNone? line).isSome := by
  have code : Text.trimStart line = "return ".toList ++ value := by
    unfold Text.trimStart
    rw [split, List.dropWhile_append_of_pos (List.all_eq_true.1 blank)]
    rfl
  have value : Text.dropPrefix? "return ".toList (Text.trimStart line) = Option.some value := by
    rw [code, Text.dropPrefix?, if_pos (List.isPrefixOf_iff_prefix.2 (List.prefix_append _ _)),
      List.drop_left]
  simp only [returnNone?, value, bind, Option.bind_some]
  rw [if_neg (not_or.2 ⟨some, other⟩)]
  rfl

theorem replaceWord?_isSome (unbordered : Text.IsUnbordered word)
    (replacement : List Char) (split : line = front ++ (word ++ back)) (before : EndsApart front)
    (after : StartsApart back) : (replaceWord? word replacement line).isSome := by
  unfold replaceWord?
  rw [Option.isSome_map, List.find?_isSome]
  subst split
  refine ⟨front.length, Text.mem_occurrences_of_isUnbordered unbordered front back, ?_⟩
  rw [startsWord_append.2 before, endsWord_append.2 after]
  rfl

theorem flipBoolean?_isSome {flip : String × String} (known : flip ∈ booleanFlips)
    (split : line = front ++ (flip.1.toList ++ back)) (before : EndsApart front)
    (after : StartsApart back) : (flipBoolean? line).isSome := by
  have unbordered : Text.IsUnbordered "True".toList ∧ Text.IsUnbordered "False".toList := by
    unfold Text.IsUnbordered
    decide
  unfold flipBoolean?
  rw [Option.isSome_or, Bool.or_eq_true]
  simp only [booleanFlips, List.mem_cons, List.not_mem_nil, or_false] at known
  rcases known with rfl | rfl
  · exact Or.inl (replaceWord?_isSome unbordered.1 _ split before after)
  · exact Or.inr (replaceWord?_isSome unbordered.2 _ split before after)

/-- Wherever a fault can be put into a line, one is. -/
theorem mutate?_isSome_iff :
    (mutate? mutation names line).isSome ↔ ∃ buggy, IsFaultIn names line mutation buggy := by
  constructor
  · intro some
    obtain ⟨buggy, mutated⟩ := Option.isSome_iff_exists.1 some
    exact ⟨buggy, isFaultIn_of_mutate? mutated⟩
  · rintro ⟨buggy, fault⟩
    cases fault with
    | flipComparison known split => exact flipComparison?_isSome known split
    | swapCall known call callee differs => exact swapCall?_isSome known call callee differs
    | @dropAwait front back split =>
      exact Text.replaceFirst?_isSome_iff.2 ⟨front, back, by rw [split, List.append_assoc]⟩
    | returnNone blank split some other => exact returnNone?_isSome blank split some other
    | flipBoolean known split before after => exact flipBoolean?_isSome known split before after
    | skipCall known call =>
      exact Option.isSome_map.trans (findCall?_isSome known call)

theorem comparisonFlips_differ : ∀ flip ∈ comparisonFlips, flip.2.toList ≠ flip.1.toList := by
  decide

theorem booleanFlips_differ : ∀ flip ∈ booleanFlips, flip.2.toList ≠ flip.1.toList := by
  decide

theorem IsFaultIn.ne (fault : IsFaultIn names line mutation buggy) : buggy ≠ line := by
  cases fault with
  | @flipComparison front back flip known split =>
    rw [split]
    exact Text.append_ne_append front back (comparisonFlips_differ flip known)
  | @swapCall front name other back known call callee differs =>
    rw [call.split]
    exact Text.append_ne_append front _ differs
  | @dropAwait front back split =>
    have absent : [] ≠ "await ".toList := by decide
    rw [split]
    exact Text.append_ne_append front back absent
  | @returnNone indent value blank split some other =>
    intro same
    rw [split] at same
    have start : "return ".toList ++ "None".toList = "return ".toList ++ value :=
      List.append_cancel_left same
    rw [← List.append_cancel_left start] at other
    exact other (by decide)
  | @flipBoolean front back flip known split before after =>
    rw [split]
    exact Text.append_ne_append front back (booleanFlips_differ flip known)
  | @skipCall front name back known call =>
    intro same
    -- The line had a call, and what takes its place has no bracket.
    have bracket : '(' ∈ Text.indent line ++ "pass".toList := by
      rw [same, call.split]
      simp
    rcases List.mem_append.1 bracket with blank | code
    · have isBlank := List.all_eq_true.1 (allBlank_indent line) '(' blank
      revert isBlank
      decide
    · revert code
      decide

/-- What it means that a line belongs to a body: it is not blank, and it is not a decorator, a
    comment, the start of a docstring, or a heading. -/
structure IsBodyLine (line : List Char) : Prop where
  shown : Text.allBlank line = false
  starts : ∀ start ∈ headStarts, ¬start.toList <+: Text.trimStart line

theorem isEmpty_trimStart (line : List Char) :
    (Text.trimStart line).isEmpty = Text.allBlank line := by
  rw [Bool.eq_iff_iff, List.isEmpty_iff]
  exact List.dropWhile_eq_nil_iff.trans List.all_eq_true.symm

theorem isBodyLine_iff : isBodyLine line = true ↔ IsBodyLine line := by
  have starts : (!headStarts.any fun start => start.toList.isPrefixOf (Text.trimStart line)) = true
      ↔ ∀ start ∈ headStarts, ¬start.toList <+: Text.trimStart line := by
    rw [Bool.not_eq_true', List.any_eq_false]
    simp only [List.isPrefixOf_iff_prefix]
  unfold isBodyLine
  dsimp only
  rw [isEmpty_trimStart, Bool.and_eq_true, Bool.not_eq_true', starts]
  exact ⟨fun ⟨shown, starts⟩ => ⟨shown, starts⟩, fun body => ⟨body.shown, body.starts⟩⟩

variable {lines : List String} {fault : Fault}

def IsFaultless (names : List (List Char)) (lines : List String) : Prop :=
  ∀ line ∈ lines, IsBodyLine line.toList → ∀ mutation buggy,
    ¬IsFaultIn names line.toList mutation buggy

theorem of_faultBy? (h : faultBy? names lines mutation = some fault) :
    ∃ front line back buggy, lines = front ++ line :: back ∧ IsBodyLine line.toList ∧
      IsFaultIn names line.toList mutation buggy ∧
      fault = ⟨mutation, front.length, line, String.ofList buggy⟩ := by
  obtain ⟨⟨line, place⟩, mem, mutated⟩ := List.exists_of_findSome?_eq_some h
  have found : lines[place]? = some line := List.mem_zipIdx_iff_getElem?.1 mem
  obtain ⟨bound, rfl⟩ := List.getElem?_eq_some_iff.1 found
  dsimp only at mutated
  split at mutated
  · rename_i body
    obtain ⟨buggy, changed, rfl⟩ := Option.map_eq_some_iff.1 mutated
    refine ⟨lines.take place, lines[place], lines.drop (place + 1), buggy, ?_,
      isBodyLine_iff.1 body, isFaultIn_of_mutate? changed, ?_⟩
    · rw [List.getElem_cons_drop, List.take_append_drop]
    · rw [List.length_take_of_le (Nat.le_of_lt bound)]
  · cases mutated

theorem faultBy?_eq_none_iff :
    faultBy? names lines mutation = none ↔ ∀ line ∈ lines, IsBodyLine line.toList →
      ∀ buggy, ¬IsFaultIn names line.toList mutation buggy := by
  have admitted : ∀ line : List Char, mutate? mutation names line = none ↔
      ∀ buggy, ¬IsFaultIn names line mutation buggy := by
    intro line
    rw [← not_exists, ← mutate?_isSome_iff, Option.not_isSome_iff_eq_none]
  unfold faultBy?
  rw [List.findSome?_eq_none_iff]
  constructor
  · intro none line mem body
    obtain ⟨place, found⟩ := List.mem_iff_getElem?.1 mem
    have tried := none (line, place) (List.mem_zipIdx_iff_getElem?.2 found)
    dsimp only at tried
    rw [if_pos (isBodyLine_iff.2 body), Option.map_eq_none_iff] at tried
    exact (admitted line.toList).1 tried
  · rintro none ⟨line, place⟩ mem
    have mem : line ∈ lines := List.mem_of_getElem? (List.mem_zipIdx_iff_getElem?.1 mem)
    dsimp only
    split
    · rename_i body
      rw [Option.map_eq_none_iff, admitted]
      exact none line mem (isBodyLine_iff.1 body)
    · rfl

theorem mem_mutations (node : Node) (mutation : Mutation) : mutation ∈ mutations node :=
  (Text.rotated_perm _ _).mem_iff.2 (by cases mutation <;> decide)

variable {texts : List String} {node : Node} {nodes : List Node}

theorem of_fault? (h : fault? texts lines node = some fault) :
    ∃ front line back mutation buggy, lines = front ++ line :: back ∧ IsBodyLine line.toList ∧
      IsFaultIn (texts.map String.toList) line.toList mutation buggy ∧
      fault = ⟨mutation, front.length, line, String.ofList buggy⟩ := by
  obtain ⟨mutation, -, found⟩ := List.exists_of_findSome?_eq_some h
  obtain ⟨front, line, back, buggy, split, body, isFault, same⟩ := of_faultBy? found
  exact ⟨front, line, back, mutation, buggy, split, body, isFault, same⟩

theorem fault?_eq_none_iff :
    fault? texts lines node = none ↔ IsFaultless (texts.map String.toList) lines := by
  unfold fault? IsFaultless
  rw [List.findSome?_eq_none_iff]
  simp only [faultBy?_eq_none_iff]
  constructor
  · intro none line mem body mutation
    exact none mutation (mem_mutations node mutation) line mem body
  · intro none mutation _ line mem body
    exact none line mem body mutation

/-- What it means that a node is the first of those that no other is more complex than. -/
def IsMostComplex (nodes : List Node) (node : Node) : Prop :=
  ∃ front back, nodes = front ++ node :: back ∧
    (∀ other ∈ front, other.complexity < node.complexity) ∧
    ∀ other ∈ back, other.complexity ≤ node.complexity

theorem IsMostComplex.concat (best : IsMostComplex nodes node) (next : Node) :
    IsMostComplex (nodes ++ [next])
      (if node.complexity < next.complexity then next else node) := by
  obtain ⟨front, back, rfl, less, most⟩ := best
  split
  · rename_i more
    refine ⟨front ++ node :: back, [], rfl, fun other mem => ?_, List.forall_mem_nil _⟩
    rcases List.mem_append.1 mem with mem | mem
    · exact UInt32.lt_trans (less other mem) more
    · rcases List.mem_cons.1 mem with rfl | mem
      · exact more
      · exact UInt32.lt_of_le_of_lt (most other mem) more
  · rename_i notMore
    refine ⟨front, back ++ [next], by simp, less, fun other mem => ?_⟩
    rcases List.mem_append.1 mem with mem | mem
    · exact most other mem
    · rw [List.mem_singleton.1 mem]
      exact UInt32.not_lt.1 notMore

theorem IsMostComplex.foldl (best : IsMostComplex nodes node) (rest : List Node) :
    IsMostComplex (nodes ++ rest)
      (rest.foldl
        (fun best other => if best.complexity < other.complexity then other else best) node) := by
  induction rest generalizing nodes node with
  | nil => rwa [List.append_nil]
  | cons next rest ih =>
    have later := ih (best.concat next)
    rwa [List.append_assoc] at later

theorem IsMostComplex.unique {other : Node} (first : IsMostComplex nodes node)
    (second : IsMostComplex nodes other) : node = other := by
  -- Where one of them stands further left, it would be less complex than the other and no less.
  have before : ∀ {front back middle rest : List Node} {a b : Node},
      a :: back = middle ++ b :: rest → (∀ c ∈ front ++ middle, c.complexity < b.complexity) →
      (∀ c ∈ back, c.complexity ≤ a.complexity) → a = b := by
    intro front back middle rest a b split less most
    cases middle with
    | nil => exact (List.cons.inj split).1
    | cons c middle =>
      obtain ⟨rfl, rfl⟩ := List.cons.inj split
      have one := less a (by simp)
      have two := most b (by simp)
      exact absurd one (UInt32.not_lt.2 two)
  obtain ⟨front, back, rfl, less, most⟩ := first
  obtain ⟨front', back', split, less', most'⟩ := second
  rcases List.append_eq_append_iff.1 split with ⟨middle, rfl, rest⟩ | ⟨middle, rfl, rest⟩
  · exact before rest less' most
  · exact (before rest less most').symm

theorem mostComplex?_eq_some_iff : mostComplex? nodes = some node ↔ IsMostComplex nodes node := by
  have found : ∀ first rest, ∃ best, mostComplex? (first :: rest) = some best ∧
      IsMostComplex (first :: rest) best := by
    intro first rest
    have start : IsMostComplex [first] first :=
      ⟨[], [], rfl, List.forall_mem_nil _, List.forall_mem_nil _⟩
    exact ⟨_, rfl, start.foldl rest⟩
  cases nodes with
  | nil =>
    refine iff_of_false nofun ?_
    rintro ⟨front, back, split, -⟩
    cases front <;> cases split
  | cons first rest =>
    obtain ⟨best, chosen, isBest⟩ := found first rest
    rw [chosen, Option.some.injEq]
    constructor
    · rintro rfl
      exact isBest
    · exact isBest.unique

theorem mostComplex?_eq_none_iff : mostComplex? nodes = none ↔ nodes = [] := by
  cases nodes <;> simp [mostComplex?]

variable {m : Material} {chain : Chain} {challenge : Challenge}

/-- What it means that a challenge shows the text of a node with a fault in one line of its body,
    between the text before the line and the text after it. -/
structure IsInjected (m : Material) (node : Node) (spec : DebuggingSpec)
    (before after : List Char) : Prop where
  function : spec.function = node.name
  text : ("\n".intercalate (Text.lines (m.text node))).toList
    = before ++ (spec.fixedLine.toList ++ after)
  code : spec.code.toList = before ++ (spec.buggyLine.toList ++ after)
  place : before.count '\n' + 1 = spec.line
  starts : before = [] ∨ before.getLast? = some '\n'
  ends : after = [] ∨ after.head? = some '\n'
  single : '\n' ∉ spec.fixedLine.toList
  body : IsBodyLine spec.fixedLine.toList
  fault : IsFaultIn ((m.calleeNames node).map String.toList) spec.fixedLine.toList spec.mutation
    spec.buggyLine.toList
  differs : spec.buggyLine ≠ spec.fixedLine

theorem isInjected_spec (found : fault? (m.calleeNames node) (Text.lines (m.text node)) node
    = some fault) :
    ∃ before after,
      IsInjected m node (spec node (Text.lines (m.text node)) fault) before after := by
  obtain ⟨front, line, back, mutation, buggy, split, body, isFault, rfl⟩ := of_fault? found
  have single : ∀ shown ∈ front ++ line :: back, '\n' ∉ shown.toList := by
    rw [← split]
    exact fun shown mem => Text.newline_not_mem_lines mem
  rw [List.forall_mem_append, List.forall_mem_cons] at single
  refine ⟨Text.linesBefore front, Text.linesAfter back, ?_⟩
  have changed : (Text.lines (m.text node)).set front.length (String.ofList buggy)
      = front ++ String.ofList buggy :: back := by
    rw [split, List.set_append_right _ _ (Nat.le_refl _), Nat.sub_self]
    rfl
  have differs : String.ofList buggy ≠ line := by
    rintro rfl
    rw [String.toList_ofList] at isFault
    exact isFault.ne rfl
  exact {
    function := rfl
    text := split ▸ Text.toList_intercalate_append front line back
    code := (congrArg (fun lines => ("\n".intercalate lines).toList) changed).trans
      (Text.toList_intercalate_append front (String.ofList buggy) back)
    place := congrArg (· + 1) (Text.count_newline_linesBefore single.1)
    starts := Text.linesBefore_cases front
    ends := Text.linesAfter_cases back
    single := single.2.1
    body := body
    fault := by rwa [spec, String.toList_ofList]
    differs := differs }

/-- A fault is put into the first of the most complex functions of a chain, and it changes one line
    of its body and nothing else. There is a gap exactly where the chain has no function, or where
    no line of the body of that one admits a fault. -/
theorem generate_injectsFault (m : Material) (chain : Chain) :
    (∀ challenge, generate m chain = .ok challenge →
      ∃ node spec before after, IsMostComplex (m.nodes chain) node ∧
        challenge.spec = .debugging spec ∧ IsInjected m node spec before after) ∧
    ∀ reason, generate m chain = .error reason ↔
      (reason = .noKnownNodes ∧ m.nodes chain = []) ∨
      ∃ node, IsMostComplex (m.nodes chain) node ∧ reason = .noMutableLine node.name ∧
        IsFaultless ((m.calleeNames node).map String.toList) (Text.lines (m.text node)) := by
  constructor
  · intro challenge succeeds
    obtain ⟨node, most, h⟩ := bind_eq_ok_iff.1 succeeds
    obtain ⟨fault, found, h⟩ := bind_eq_ok_iff.1 h
    rw [orGap_eq_ok_iff] at most found
    cases h
    obtain ⟨before, after, injected⟩ := isInjected_spec found
    exact ⟨node, _, before, after, mostComplex?_eq_some_iff.1 most, rfl, injected⟩
  · intro reason
    unfold generate
    rw [bind_eq_error_iff, orGap_eq_error_iff, mostComplex?_eq_none_iff]
    refine or_congr_right (exists_congr fun node => ?_)
    have faultless : IsFaultless ((m.calleeNames node).map String.toList)
        (Text.lines (m.text node)) ↔
          fault? (m.calleeNames node) (Text.lines (m.text node)) node = none :=
      fault?_eq_none_iff.symm
    rw [orGap_eq_ok_iff, mostComplex?_eq_some_iff, faultless, ← orGap_eq_error_iff]
    refine and_congr_right fun _ => ?_
    dsimp only
    rw [bind_eq_error_iff]
    refine or_iff_left ?_
    rintro ⟨fault, -, made⟩
    cases made

def checkNode : Node :=
  { id := "check", name := "check", kind := .function, complexity := 2 }

def checkGraph : CallGraph :=
  ⟨[{ id := "open", name := "open", kind := .function }, checkNode,
    { id := "close", name := "close", kind := .function, complexity := 2 }], [], ∅⟩

def checkMaterial (body : String) : Material :=
  ⟨checkGraph, fun _ => some ("def check(a, b):\n    # a is not b\n" ++ body), {}⟩

def checkChain : Chain := ⟨["open", "check", "close"], by decide, by decide⟩

def checkSpec : DebuggingSpec where
  prompt := "`check` has one wrong line. Find it and write the fix."
  function := "check"
  code := "def check(a, b):\n    # a is not b\n    if a == b:\n        return None\n    return None"
  line := 4
  buggyLine := "        return None"
  fixedLine := "        return a"
  mutation := .returnNone

theorem isMostComplex_check (body : String) :
    IsMostComplex ((checkMaterial body).nodes checkChain) checkNode := by
  have chosen : mostComplex? (checkGraph.chainNodes checkChain) = some checkNode := by
    decide +kernel
  exact mostComplex?_eq_some_iff.1 chosen

/-- The fault is not put into the comment; without a line to put it into there is a gap. -/
theorem generate_injectsFault_check :
    (∃ challenge before after,
      generate (checkMaterial "    if a == b:\n        return a\n    return None") checkChain
          = .ok challenge ∧
        challenge.spec = .debugging checkSpec ∧
        IsInjected (checkMaterial "    if a == b:\n        return a\n    return None") checkNode
          checkSpec before after) ∧
      generate (checkMaterial "    return None") checkChain = .error (.noMutableLine "check") := by
  constructor
  · have run : (generate (checkMaterial "    if a == b:\n        return a\n    return None")
        checkChain).toOption.map (·.spec) = some (.debugging checkSpec) := by
      decide +kernel
    obtain ⟨challenge, succeeds, asked⟩ := Option.map_eq_some_iff.1 run
    rw [toOption_eq_some_iff] at succeeds
    obtain ⟨node, spec, before, after, most, isSpec, injected⟩ :=
      (generate_injectsFault _ _).1 challenge succeeds
    cases ChallengeSpec.debugging.inj (asked.symm.trans isSpec)
    cases most.unique (isMostComplex_check _)
    exact ⟨challenge, before, after, succeeds, asked, injected⟩
  · have faultless : fault? ((checkMaterial "    return None").calleeNames checkNode)
        (Text.lines ((checkMaterial "    return None").text checkNode)) checkNode = none := by
      decide +kernel
    exact ((generate_injectsFault _ _).2 _).2
      (.inr ⟨checkNode, isMostComplex_check _, rfl, fault?_eq_none_iff.1 faultless⟩)

end CodeReading.Debugging
