import CodeReading.Proofs.Challenge.Faults

set_option autoImplicit false

/-!
# The first call in a line

A line is searched for one name after the other, and the leftmost place found is taken. The search
for a name resumes behind what it has come upon, so it passes over a call that starts within. A name
can only do so if it can overlap with itself where no identifier goes on; without such names the
place taken is that of the first call.
-/
namespace CodeReading.Debugging

variable {line name : List Char} {names : List (List Char)} {place position : Nat}

/-- What it means that a name is called at a place in a line: it stands there, no identifier reaches
    up to it, and a bracket follows. -/
def IsCalledAt (line name : List Char) (place : Nat) : Prop :=
  ∃ front back, line = front ++ (name ++ '(' :: back) ∧ EndsApart front ∧ front.length = place

/-- Whether the search for a name passes over a place: a match further left reaches over it. -/
def IsPassedOver (line name : List Char) (place : Nat) : Prop :=
  ∃ earlier, Text.IsMatchAt name line earlier ∧ earlier < place ∧ place < earlier + name.length

def IsFoundAt (line name : List Char) (place : Nat) : Prop :=
  IsCalledAt line name place ∧ ¬IsPassedOver line name place

/-- What it means that a place and a name, if any, are those of the leftmost of the given calls. -/
def IsFirst (calls : List Char → Nat → Prop) (names : List (List Char)) :
    Option (Nat × List Char) → Prop
  | none => ∀ name ∈ names, ∀ place, ¬calls name place
  | some (place, name) => name ∈ names ∧ calls name place ∧
      ∀ other ∈ names, ∀ later, calls other later → place ≤ later

/-- Of fewer calls the first one is the first of all when each of the others has one of them before
    it or in the same place. -/
theorem IsFirst.iff_of_imp {some all : List Char → Nat → Prop} {result : Option (Nat × List Char)}
    (first : IsFirst some names result) (fewer : ∀ name place, some name place → all name place) :
    IsFirst all names result ↔ ∀ name ∈ names, ∀ place, all name place →
      ∃ other ∈ names, ∃ earlier ≤ place, some other earlier := by
  cases result with
  | none =>
    refine ⟨fun none name mem place call => absurd call (none name mem place), ?_⟩
    intro covered name mem place call
    obtain ⟨other, mem, earlier, -, found⟩ := covered name mem place call
    exact first other mem earlier found
  | some call =>
    obtain ⟨place, name⟩ := call
    obtain ⟨mem, found, leftmost⟩ := first
    constructor
    · rintro ⟨-, -, leftmost⟩ other mem' later call
      exact ⟨name, mem, place, leftmost other mem' later call, found⟩
    · intro covered
      refine ⟨mem, fewer name place found, fun other mem later call => ?_⟩
      obtain ⟨another, mem, earlier, before, found⟩ := covered other mem later call
      exact (leftmost another mem earlier found).trans before

theorem isFoundAt_iff : IsFoundAt line name place ↔
    ∃ front back, IsCallAt line front name back ∧ place = front.length := by
  constructor
  · rintro ⟨⟨front, back, rfl, apart, rfl⟩, notPassed⟩
    refine ⟨front, back, ⟨rfl, apart, ?_⟩, rfl⟩
    rw [Text.IsMatchAt]
    refine ⟨⟨front, _, rfl, rfl⟩, fun earlier before isMatch => ?_⟩
    exact Nat.not_lt.1 fun beyond => notPassed ⟨earlier, isMatch, before, beyond⟩
  · rintro ⟨front, back, call, rfl⟩
    refine ⟨⟨front, back, call.split, call.apart, rfl⟩, ?_⟩
    rintro ⟨earlier, isMatch, before, beyond⟩
    have free := call.isMatch
    rw [Text.IsMatchAt] at free
    exact Nat.not_le.2 beyond (free.2 earlier before isMatch)

theorem not_isFoundAt_of_callOf? (h : callOf? line name = none) (place : Nat) :
    ¬IsFoundAt line name place := by
  intro found
  obtain ⟨front, back, call, -⟩ := isFoundAt_iff.1 found
  rw [← Option.not_isSome_iff_eq_none] at h
  exact h (callOf?_isSome call)

theorem isFoundAt_of_callOf? (h : callOf? line name = some place) :
    IsFoundAt line name place ∧ ∀ later, IsFoundAt line name later → place ≤ later := by
  refine ⟨isFoundAt_iff.2 (isCallAt_of_callOf? h), fun later found => ?_⟩
  obtain ⟨front, back, call, rfl⟩ := isFoundAt_iff.1 found
  obtain ⟨-, before, behind, split, refused⟩ := List.find?_eq_some_iff_append.1 h
  have ordered := Text.pairwise_occurrences name line
  have mem := Text.mem_occurrences_iff.2 call.isMatch
  rw [split] at ordered mem
  rcases List.mem_append.1 mem with early | here
  · have chosen := refused _ early
    rw [call.isChosen] at chosen
    cases chosen
  · rcases List.mem_cons.1 here with same | late
    · exact same.ge
    · have ordered := (List.pairwise_append.1 ordered).2.1
      exact ((List.pairwise_cons.1 ordered).1 _ late).1.le

theorem foldl_earlier_le (calls : List (Nat × List Char)) (call : Nat × List Char) :
    ∀ other ∈ call :: calls, (calls.foldl earlier call).1 ≤ other.1 := by
  induction calls generalizing call with
  | nil => simp
  | cons next calls ih =>
    have later := ih (earlier call next)
    rw [List.forall_mem_cons] at later
    have least : (earlier call next).1 ≤ call.1 ∧ (earlier call next).1 ≤ next.1 := by
      unfold earlier
      split <;> omega
    rw [List.foldl_cons, List.forall_mem_cons, List.forall_mem_cons]
    exact ⟨later.1.trans least.1, later.1.trans least.2, later.2⟩

theorem mem_filterMap_callOf? :
    (place, name) ∈ names.filterMap (fun name => (callOf? line name).map (·, name)) ↔
      name ∈ names ∧ callOf? line name = some place := by
  rw [List.mem_filterMap]
  constructor
  · rintro ⟨other, mem, found⟩
    obtain ⟨position, found, same⟩ := Option.map_eq_some_iff.1 found
    cases same
    exact ⟨mem, found⟩
  · rintro ⟨mem, found⟩
    exact ⟨name, mem, Option.map_eq_some_iff.2 ⟨place, found, rfl⟩⟩

theorem isFirst_findCall? (line : List Char) (names : List (List Char)) :
    IsFirst (IsFoundAt line) names (findCall? line names) := by
  unfold findCall?
  split
  · rename_i none
    intro name mem
    have missing := List.filterMap_eq_nil_iff.1 none name mem
    exact not_isFoundAt_of_callOf? (Option.map_eq_none_iff.1 missing)
  · rename_i call calls listed
    have mem := foldl_earlier_mem calls call
    have least := foldl_earlier_le calls call
    generalize calls.foldl earlier call = chosen at mem least ⊢
    obtain ⟨place, name⟩ := chosen
    rw [← listed, mem_filterMap_callOf?] at mem
    refine ⟨mem.1, (isFoundAt_of_callOf? mem.2).1, fun other mem later found => ?_⟩
    cases search : callOf? line other with
    | none => exact absurd found (not_isFoundAt_of_callOf? search later)
    | some earlier =>
      have before := least (earlier, other) (listed ▸ mem_filterMap_callOf?.2 ⟨mem, search⟩)
      exact before.trans ((isFoundAt_of_callOf? search).2 later found)

/-- What it means that a name cannot overlap with itself except within an identifier: wherever a
    part of it after the first characters is what it starts with, an identifier reaches up to that
    part. -/
def IsPlain (name : List Char) : Prop :=
  ∀ step rest, name = step ++ rest → step ≠ [] → rest ≠ [] → rest <+: name → ¬EndsApart step

theorem endsApart_append_iff {front step : List Char} (some : step ≠ []) :
    EndsApart (front ++ step) ↔ EndsApart step := by
  unfold EndsApart
  rw [List.getLast?_append_of_ne_nil _ some]

/-- A call is passed over only where the name starts again after something that ends no
    identifier. -/
theorem IsPlain.not_isPassedOver (plain : IsPlain name) (call : IsCalledAt line name place) :
    ¬IsPassedOver line name place := by
  rintro ⟨earlier, isMatch, before, within⟩
  obtain ⟨front, back, rfl, apart, rfl⟩ := call
  rw [Text.IsMatchAt] at isMatch
  obtain ⟨⟨front', back', split, rfl⟩, -⟩ := isMatch
  obtain ⟨step, rest, whole, some, more, isPrefix, rfl⟩ :=
    Text.exists_border split.symm before within
  exact plain step rest whole some more isPrefix ((endsApart_append_iff some).1 apart)

theorem isPlain_of_isIdentifierChar (h : ∀ c ∈ name, Text.isIdentifierChar c = true) :
    IsPlain name := by
  rintro step rest rfl some - - apart
  have last := apart (step.getLast some) (List.getLast?_eq_some_getLast some)
  rw [h _ (List.mem_append_left rest (List.getLast_mem some))] at last
  cases last

theorem exists_isIdentifierChar_ne (name : List Char) :
    ∃ c, Text.isIdentifierChar c = true ∧ name.head? ≠ some c := by
  by_cases same : name.head? = some 'a'
  · exact ⟨'b', by decide, by rw [same]; decide⟩
  · exact ⟨'a', by decide, same⟩

/-- A name that is not plain has a line in which the search passes over its first call. -/
theorem exists_isPassedOver (notPlain : ¬IsPlain name) :
    ∃ line place, IsCalledAt line name place ∧
      ∀ earlier ≤ place, ¬IsFoundAt line name earlier := by
  unfold IsPlain at notPlain
  push Not at notPlain
  obtain ⟨step, rest, whole, some, more, ⟨tail, starts⟩, apart⟩ := notPlain
  obtain ⟨c, isIdentifier, differs⟩ := exists_isIdentifierChar_ne name
  -- An identifier reaches up to the first place of the name, and its second starts within.
  have again : step ++ (name ++ ['(']) = name ++ (tail ++ ['(']) := by
    rw [← List.append_assoc, ← List.append_assoc]
    congr 1
    calc
      step ++ name = step ++ (rest ++ tail) := by rw [starts]
      _ = name ++ tail := by rw [← List.append_assoc, ← whole]
  have noStart : ∀ back, c :: (step ++ (name ++ ['('])) ≠ name ++ back := by
    intro back same
    have first := congrArg List.head? same
    have nonempty : name ≠ [] := whole ▸ List.append_ne_nil_of_left_ne_nil some rest
    rw [List.head?_append_of_ne_nil _ nonempty] at first
    exact differs first.symm
  have apart : EndsApart ([c] ++ step) := (endsApart_append_iff some).2 apart
  refine ⟨c :: (step ++ (name ++ ['('])), (c :: step).length,
    ⟨c :: step, [], rfl, apart, rfl⟩, ?_⟩
  rintro earlier before ⟨⟨front, back, split, apart, rfl⟩, notPassed⟩
  refine notPassed ⟨1, ?_, ?_⟩
  · rw [again, Text.IsMatchAt]
    refine ⟨⟨[c], _, rfl, rfl⟩, fun none less isMatch => ?_⟩
    rw [Text.IsMatchAt] at isMatch
    obtain ⟨⟨front, back, split, rfl⟩, -⟩ := isMatch
    rw [List.eq_nil_of_length_eq_zero (Nat.lt_one_iff.1 less)] at split
    exact absurd (again ▸ split) (noStart back)
  · have lengths := congrArg List.length whole
    have nonempty := List.length_pos_of_ne_nil more
    rw [List.length_append] at lengths
    rw [List.length_cons] at before
    refine ⟨?_, by omega⟩
    rcases front with _ | ⟨d, _ | ⟨e, front⟩⟩
    · exact absurd split (noStart _)
    · obtain ⟨rfl, -⟩ := List.cons.inj split
      rw [apart c rfl] at isIdentifier
      cases isIdentifier
    · exact Nat.le_add_left 2 front.length

/-- The search finds the first of the calls that it does not pass over. That is the first of all
    calls exactly where each call has one that is not passed over before it or in its place. For
    plain names it is always so, and identifiers are plain; a name that is not plain has a line in
    which its call is not found. -/
theorem findCall?_isFirst (names : List (List Char)) :
    (∀ line, IsFirst (IsFoundAt line) names (findCall? line names)) ∧
    (∀ line, IsFirst (IsCalledAt line) names (findCall? line names) ↔
      ∀ name ∈ names, ∀ place, IsCalledAt line name place →
        ∃ other ∈ names, ∃ earlier ≤ place, IsFoundAt line other earlier) ∧
    ((∀ name ∈ names, IsPlain name) →
      ∀ line, IsFirst (IsCalledAt line) names (findCall? line names)) ∧
    (∀ name, (∀ c ∈ name, Text.isIdentifierChar c = true) → IsPlain name) ∧
    ∀ name, (∀ line, IsFirst (IsCalledAt line) [name] (findCall? line [name])) ↔ IsPlain name := by
  have whole : ∀ line names, IsFirst (IsCalledAt line) names (findCall? line names) ↔
      ∀ name ∈ names, ∀ place, IsCalledAt line name place →
        ∃ other ∈ names, ∃ earlier ≤ place, IsFoundAt line other earlier :=
    fun line names => (isFirst_findCall? line names).iff_of_imp fun _ _ found => found.1
  have plain : ∀ names, (∀ name ∈ names, IsPlain name) →
      ∀ line, IsFirst (IsCalledAt line) names (findCall? line names) := by
    intro names plain line
    refine (whole line names).2 fun name mem place call => ?_
    exact ⟨name, mem, place, le_rfl, call, (plain name mem).not_isPassedOver call⟩
  refine ⟨fun line => isFirst_findCall? line names, fun line => whole line names, plain names,
    fun name => isPlain_of_isIdentifierChar, fun name => ⟨fun first => ?_, fun isPlain => ?_⟩⟩
  · by_contra notPlain
    obtain ⟨line, place, call, missed⟩ := exists_isPassedOver notPlain
    obtain ⟨other, mem, earlier, before, found⟩ :=
      (whole line [name]).1 (first line) name (List.mem_singleton_self name) place call
    rw [List.mem_singleton.1 mem] at found
    exact missed earlier before found
  · exact plain [name] (by simpa using isPlain)

/-- `load` is not called where it is the end of `reload`, and `save` not where no bracket follows. -/
theorem findCall?_isFirst_reload : (∀ name ∈ ["load".toList, "save".toList], IsPlain name) ∧
    IsFirst (IsCalledAt "    reload(save, load(save(x)))".toList) ["load".toList, "save".toList]
      (some (17, "load".toList)) := by
  obtain ⟨-, -, all, isPlain, -⟩ := findCall?_isFirst ["load".toList, "save".toList]
  have plain : ∀ name ∈ ["load".toList, "save".toList], IsPlain name := by
    intro name mem
    refine isPlain name (List.all_eq_true.1 ?_)
    revert name
    decide
  have found : findCall? "    reload(save, load(save(x)))".toList ["load".toList, "save".toList]
      = some (17, "load".toList) := by
    decide +kernel
  exact ⟨plain, found ▸ all plain _⟩

/-- The first two parts of the line are the name too, so the call of the last two is passed over. -/
theorem findCall?_missesCall_qualified :
    findCall? "    log.log.log(x)".toList ["log.log".toList] = none ∧
      IsCalledAt "    log.log.log(x)".toList "log.log".toList 8 ∧
      ¬IsFirst (IsCalledAt "    log.log.log(x)".toList) ["log.log".toList]
        (findCall? "    log.log.log(x)".toList ["log.log".toList]) := by
  have none : findCall? "    log.log.log(x)".toList ["log.log".toList] = none := by
    decide +kernel
  have apart : EndsApart "    log.".toList := by
    intro c last
    obtain rfl : '.' = c := Option.some.inj last
    decide
  have call : IsCalledAt "    log.log.log(x)".toList "log.log".toList 8 :=
    ⟨"    log.".toList, "x)".toList, by decide, apart, by decide⟩
  refine ⟨none, call, ?_⟩
  rw [none]
  exact fun missing => missing _ (List.mem_singleton_self _) 8 call

end CodeReading.Debugging
