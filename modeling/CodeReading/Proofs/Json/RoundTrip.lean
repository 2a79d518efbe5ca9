import CodeReading.Proofs.Json.Token
import Mathlib.Data.List.Forall2

set_option autoImplicit false

namespace CodeReading.Json

mutual

/-- Whether all literals and keys of a value are texts and all its numerals are well made. -/
def IsWritable : Json → Prop
  | .num n => n.IsWritable
  | .str text => text.isSome = true
  | .arr items => AreWritable items
  | .obj members => HaveWritable members
  | _ => True

def AreWritable : List Json → Prop
  | [] => True
  | item :: items => item.IsWritable ∧ AreWritable items

def HaveWritable : List (Option String × Json) → Prop
  | [] => True
  | (key, value) :: members => key.isSome = true ∧ value.IsWritable ∧ HaveWritable members

end

theorem areWritable_iff {items : List Json} :
    AreWritable items ↔ ∀ item ∈ items, item.IsWritable := by
  induction items with
  | nil => simp [AreWritable]
  | cons item items ih => rw [AreWritable, ih, List.forall_mem_cons]

theorem haveWritable_iff {members : List (Option String × Json)} :
    HaveWritable members ↔ ∀ member ∈ members, member.1.isSome = true ∧ member.2.IsWritable := by
  induction members with
  | nil => simp [HaveWritable]
  | cons member members ih => rw [HaveWritable, ih, List.forall_mem_cons, and_assoc]

@[simp] theorem isWritable_text (s : String) : (text s).IsWritable := by
  simp [text, IsWritable]

@[simp] theorem isWritable_bool (b : Bool) : IsWritable (.bool b) := by
  simp [IsWritable]

@[simp] theorem isWritable_nat (n : Nat) : (nat n).IsWritable := by
  simp [nat, IsWritable, Numeral.IsWritable, Numeral.ofNat]

@[simp] theorem isWritable_optional (value : Option String) : (optional value).IsWritable := by
  cases value with
  | none => trivial
  | some s => exact isWritable_text s

@[simp] theorem isWritable_arr_iff {items : List Json} :
    IsWritable (.arr items) ↔ ∀ item ∈ items, item.IsWritable := by
  rw [IsWritable, areWritable_iff]

@[simp] theorem isWritable_record_iff {members : List (String × Json)} :
    (record members).IsWritable ↔ ∀ member ∈ members, member.2.IsWritable := by
  rw [record, IsWritable, haveWritable_iff, List.forall_mem_map]
  exact forall₂_congr fun _ _ => and_iff_right rfl

@[simp] theorem isWritable_strings (items : List String) : (strings items).IsWritable := by
  simp [strings]

mutual

def toTokens : Json → List Token
  | .arr [] => [.openArr, .closeArr]
  | .arr (item :: items) => .openArr :: (item.toTokens ++ furtherItems items)
  | .obj [] => [.openObj, .closeObj]
  | .obj ((key, value) :: members) =>
    .openObj :: .scalar (.str key) :: .colon :: (value.toTokens ++ furtherMembers members)
  | value => [.scalar value]

/-- The tokens after the first item of an array, with the bracket that closes it. -/
def furtherItems : List Json → List Token
  | [] => [.closeArr]
  | item :: items => .comma :: (item.toTokens ++ furtherItems items)

def furtherMembers : List (Option String × Json) → List Token
  | [] => [.closeObj]
  | (key, value) :: members =>
    .comma :: .scalar (.str key) :: .colon :: (value.toTokens ++ furtherMembers members)

end

def memberTokens (member : Option String × Json) : List Token :=
  .scalar (.str member.1) :: .colon :: member.2.toTokens

theorem furtherItems_eq (items : List Json) :
    furtherItems items = items.flatMap (fun item => .comma :: item.toTokens) ++ [.closeArr] := by
  induction items with
  | nil => rfl
  | cons item items ih => rw [furtherItems, ih, List.flatMap_cons, List.append_assoc]; rfl

theorem furtherMembers_eq (members : List (Option String × Json)) :
    furtherMembers members
      = members.flatMap (fun member => .comma :: memberTokens member) ++ [.closeObj] := by
  induction members with
  | nil => rfl
  | cons member members ih => rw [furtherMembers, ih, List.flatMap_cons, List.append_assoc]; rfl

theorem areBlanks_empty : AreBlanks "" := by
  simp [AreBlanks]

theorem areBlanks_lineBreak (depth : Nat) : AreBlanks (lineBreak depth) := by
  simp [AreBlanks, lineBreak, isBlank]

theorem areBlanks_space : AreBlanks " " := by
  simp [AreBlanks, isBlank]

theorem areBlanks_lineFeed : AreBlanks "\n" := by
  simp [AreBlanks, isBlank]

theorem stops_of_isBlank {c : Char} (blank : isBlank c = true) (rest : List Char) :
    Stops (c :: rest) := by
  refine stops_cons ?_
  simp only [isBlank, Bool.or_eq_true, beq_iff_eq] at blank
  rcases blank with ((rfl | rfl) | rfl) | rfl <;> decide

section Enclosed

variable {α : Type} {spelled : α → List Token} {opener close : Char} {opening closing : Token}
  {gap lastGap : String} {parts : List String} {values : List α}

/-- Whether two characters are read as the brackets of an array or object. -/
structure AreBrackets (opener close : Char) (opening closing : Token) : Prop where
  opens : ∀ rest, readToken opener rest = some (opening, rest)
  closes : ∀ rest, readToken close rest = some (closing, rest)
  openerVisible : isBlank opener = false
  closeVisible : isBlank close = false
  stops : ∀ rest, Stops (close :: rest)

theorem areBrackets_arr : AreBrackets '[' ']' .openArr .closeArr :=
  ⟨fun _ => rfl, fun _ => rfl, rfl, rfl, fun _ => stops_cons (by decide)⟩

theorem areBrackets_obj : AreBrackets '\x7b' '\x7d' .openObj .closeObj :=
  ⟨fun _ => rfl, fun _ => rfl, rfl, rfl, fun _ => stops_cons (by decide)⟩

def enclosedTokens (opening closing : Token) (spelled : α → List Token) : List α → List Token
  | [] => [opening, closing]
  | value :: values =>
    opening :: (spelled value ++ (values.flatMap (fun value => .comma :: spelled value)
      ++ [closing]))

theorem toTokens_arr (items : List Json) :
    toTokens (.arr items) = enclosedTokens .openArr .closeArr toTokens items := by
  cases items with
  | nil => rfl
  | cons item items =>
    rw [toTokens, furtherItems_eq]
    rfl

theorem toTokens_obj (members : List (Option String × Json)) :
    toTokens (.obj members) = enclosedTokens .openObj .closeObj memberTokens members := by
  cases members with
  | nil => rfl
  | cons member members =>
    rw [toTokens, furtherMembers_eq]
    rfl

/-- The text after the first of several parts: each has a gap before it, and there is another one
    before the bracket that closes them. -/
def furtherText (close : Char) (gap lastGap : String) (parts : List String) : List Char :=
  parts.flatMap (fun part => ',' :: (gap.toList ++ part.toList)) ++ (lastGap.toList ++ [close])

def enclosedText (opener close : Char) (gap lastGap : String) : List String → List Char
  | [] => [opener, close]
  | part :: parts =>
    opener :: (gap.toList ++ (part.toList ++ furtherText close gap lastGap parts))

theorem toList_intercalate_cons (close : Char) (gap lastGap part : String) (parts : List String) :
    (("," ++ gap).intercalate (part :: parts)).toList ++ (lastGap.toList ++ [close])
      = part.toList ++ furtherText close gap lastGap parts := by
  induction parts generalizing part with
  | nil => simp [furtherText]
  | cons other parts ih =>
    rw [String.intercalate_cons_cons, String.toList_append, List.append_assoc, ih]
    simp [furtherText]

theorem toList_compactParts {left right : String} (starts : left.toList = [opener])
    (ends : right.toList = [close]) (parts : List String) :
    (left ++ ",".intercalate parts ++ right).toList = enclosedText opener close "" "" parts := by
  cases parts with
  | nil => simp [enclosedText, starts, ends]
  | cons part parts =>
    rw [enclosedText, ← toList_intercalate_cons]
    simp [starts, ends]

theorem toList_enclose {left right : String} (starts : left.toList = [opener])
    (ends : right.toList = [close]) (depth : Nat) (parts : List String) :
    (enclose left right depth parts).toList
      = enclosedText opener close (lineBreak (depth + 1)) (lineBreak depth) parts := by
  cases parts with
  | nil => simp [enclose, enclosedText, starts, ends]
  | cons part parts =>
    rw [enclosedText, ← toList_intercalate_cons]
    simp [enclose, starts, ends]

abbrev SpellEach (spelled : α → List Token) (parts : List String) (values : List α) : Prop :=
  List.Forall₂ (fun part value => Spells part.toList (spelled value)) parts values

theorem stops_furtherText (brackets : AreBrackets opener close opening closing)
    (lastBlank : AreBlanks lastGap) (rest : List Char) :
    Stops (furtherText close gap lastGap parts ++ rest) := by
  cases parts with
  | nil =>
    unfold furtherText
    cases blanks : lastGap.toList with
    | nil => exact brackets.stops rest
    | cons c _ => exact stops_of_isBlank (lastBlank c (by simp [blanks])) _
  | cons part parts => exact stops_cons (by decide)

theorem spells_furtherText (brackets : AreBrackets opener close opening closing)
    (blank : AreBlanks gap) (lastBlank : AreBlanks lastGap)
    (each : SpellEach spelled parts values) :
    Spells (furtherText close gap lastGap parts)
      (values.flatMap (fun value => .comma :: spelled value) ++ [closing]) := by
  induction each with
  | nil => exact (spells_nil.after brackets.closeVisible brackets.closes).afterBlanks lastBlank
  | @cons part value parts values first _ ih =>
    have split : furtherText close gap lastGap (part :: parts)
        = ',' :: (gap.toList ++ (part.toList ++ furtherText close gap lastGap parts)) := by
      simp [furtherText]
    have others := first.append ih (stops_furtherText brackets lastBlank)
    rw [split, List.flatMap_cons, List.append_assoc]
    exact (others.afterBlanks blank).after rfl fun _ => rfl

/-- Parts with blanks around each of them, between brackets. -/
theorem spells_enclosedText (brackets : AreBrackets opener close opening closing)
    (blank : AreBlanks gap) (lastBlank : AreBlanks lastGap)
    (each : SpellEach spelled parts values) :
    Spells (enclosedText opener close gap lastGap parts)
      (enclosedTokens opening closing spelled values) := by
  cases each with
  | nil =>
    have ends := spells_nil.after brackets.closeVisible brackets.closes
    exact ends.after brackets.openerVisible brackets.opens
  | cons first others =>
    have further := spells_furtherText brackets blank lastBlank others
    have all := first.append further (stops_furtherText brackets lastBlank)
    exact (all.afterBlanks blank).after brackets.openerVisible brackets.opens

end Enclosed

theorem spells_member {key : Option String} {value : Json} {colon gap text : String}
    (starts : colon = ":" ++ gap) (blank : AreBlanks gap) (present : key.isSome = true)
    (spells : Spells text.toList value.toTokens) :
    Spells (quoteLiteral key ++ colon ++ text).toList (memberTokens (key, value)) := by
  obtain ⟨content, rfl⟩ := Option.isSome_iff_exists.1 present
  have split : (quoteLiteral (some content) ++ colon ++ text).toList
      = (quote content).toList ++ ':' :: (gap.toList ++ text.toList) := by
    simp [quoteLiteral, starts]
  rw [split]
  exact (spells_quote content).append ((spells.afterBlanks blank).after rfl fun _ => rfl)
    fun _ => stops_cons (by decide)

mutual

/-- The compact text of a value spells its tokens. -/
theorem spells_compact : ∀ value : Json, value.IsWritable →
    Spells value.compact.toList value.toTokens
  | .null, _ => spells_null
  | .bool true, _ => spells_true
  | .bool false, _ => spells_false
  | .num _, writable => spells_render writable
  | .str text, present => by
    obtain ⟨text, rfl⟩ := Option.isSome_iff_exists.1 present
    exact spells_quote text
  | .arr items, writable => by
    rw [compact, toList_compactParts rfl rfl, toTokens_arr]
    exact spells_enclosedText areBrackets_arr areBlanks_empty areBlanks_empty
      (spells_compactItems items writable)
  | .obj members, writable => by
    rw [compact, toList_compactParts rfl rfl, toTokens_obj]
    exact spells_enclosedText areBrackets_obj areBlanks_empty areBlanks_empty
      (spells_compactMembers members writable)

theorem spells_compactItems : ∀ items : List Json, AreWritable items →
    SpellEach toTokens (compactItems items) items
  | [], _ => .nil
  | item :: items, writable => by
    rw [compactItems]
    exact .cons (spells_compact item writable.1) (spells_compactItems items writable.2)

theorem spells_compactMembers : ∀ members : List (Option String × Json), HaveWritable members →
    SpellEach memberTokens (compactMembers members) members
  | [], _ => .nil
  | (_, value) :: members, writable => by
    rw [compactMembers]
    exact .cons (spells_member rfl areBlanks_empty writable.1 (spells_compact value writable.2.1))
      (spells_compactMembers members writable.2.2)

end

mutual

theorem spells_prettyAt : ∀ (value : Json) (depth : Nat), value.IsWritable →
    Spells (value.prettyAt depth).toList value.toTokens
  | .null, depth, _ => by
    rw [prettyAt]
    exact spells_null
  | .bool true, _, _ => by
    rw [prettyAt]
    exact spells_true
  | .bool false, _, _ => by
    rw [prettyAt]
    exact spells_false
  | .num _, _, writable => by
    rw [prettyAt]
    exact spells_render writable
  | .str text, _, present => by
    obtain ⟨text, rfl⟩ := Option.isSome_iff_exists.1 present
    rw [prettyAt]
    exact spells_quote text
  | .arr items, depth, writable => by
    rw [prettyAt, toList_enclose rfl rfl, toTokens_arr]
    exact spells_enclosedText areBrackets_arr (areBlanks_lineBreak (depth + 1))
      (areBlanks_lineBreak depth) (spells_prettyItems items (depth + 1) writable)
  | .obj members, depth, writable => by
    rw [prettyAt, toList_enclose rfl rfl, toTokens_obj]
    exact spells_enclosedText areBrackets_obj (areBlanks_lineBreak (depth + 1))
      (areBlanks_lineBreak depth) (spells_prettyMembers members (depth + 1) writable)

theorem spells_prettyItems : ∀ (items : List Json) (depth : Nat), AreWritable items →
    SpellEach toTokens (prettyItems depth items) items
  | [], _, _ => .nil
  | item :: items, depth, writable => by
    rw [prettyItems]
    exact .cons (spells_prettyAt item depth writable.1) (spells_prettyItems items depth writable.2)

theorem spells_prettyMembers : ∀ (members : List (Option String × Json)) (depth : Nat),
    HaveWritable members → SpellEach memberTokens (prettyMembers depth members) members
  | [], _, _ => .nil
  | (_, value) :: members, depth, writable => by
    rw [prettyMembers]
    exact .cons (spells_member rfl areBlanks_space writable.1
        (spells_prettyAt value depth writable.2.1))
      (spells_prettyMembers members depth writable.2.2)

end

/-- No value starts with the bracket that closes an array. -/
theorem foldlM_firstItem (item : Json) (stack : List Frame) (more : List Token) :
    (item.toTokens ++ more).foldlM State.step ⟨.firstItem, stack⟩
      = (item.toTokens ++ more).foldlM State.step ⟨.value, .arr [] :: stack⟩ := by
  cases item with
  | arr items => cases items <;> rfl
  | obj members =>
    cases members with
    | nil => rfl
    | cons member members => rfl
  | _ => rfl

mutual

/-- The tokens of a value are assembled to the value, whatever frames are open around it. -/
theorem foldlM_toTokens : ∀ (value : Json) (stack : List Frame) (more : List Token),
    (value.toTokens ++ more).foldlM State.step ⟨.value, stack⟩
      = more.foldlM State.step ⟨.next value, stack⟩
  | .null, _, _ => rfl
  | .bool _, _, _ => rfl
  | .num _, _, _ => rfl
  | .str _, _, _ => rfl
  | .arr [], _, _ => rfl
  | .arr (item :: items), stack, more => by
    rw [toTokens, List.cons_append, List.foldlM_cons, List.append_assoc]
    change (item.toTokens ++ _).foldlM State.step ⟨.firstItem, stack⟩ = _
    rw [foldlM_firstItem, foldlM_toTokens item, foldlM_furtherItems items]
    rfl
  | .obj [], _, _ => rfl
  | .obj ((key, value) :: members), stack, more => by
    rw [toTokens, List.cons_append, List.foldlM_cons, List.cons_append, List.cons_append,
      List.append_assoc]
    change (value.toTokens ++ _).foldlM State.step ⟨.value, .obj [] key :: stack⟩ = _
    rw [foldlM_toTokens value, foldlM_furtherMembers members]
    rfl

theorem foldlM_furtherItems : ∀ (items : List Json) (last : Json) (read : List Json)
    (stack : List Frame) (more : List Token),
    (furtherItems items ++ more).foldlM State.step ⟨.next last, .arr read :: stack⟩
      = more.foldlM State.step ⟨.next (.arr (read.reverse ++ last :: items)), stack⟩
  | [], last, read, stack, more => by
    rw [furtherItems, List.cons_append, List.foldlM_cons]
    change more.foldlM State.step ⟨.next (.arr (last :: read).reverse), stack⟩ = _
    rw [List.reverse_cons]
  | item :: items, last, read, stack, more => by
    rw [furtherItems, List.cons_append, List.foldlM_cons, List.append_assoc]
    change (item.toTokens ++ _).foldlM State.step ⟨.value, .arr (last :: read) :: stack⟩ = _
    rw [foldlM_toTokens item, foldlM_furtherItems items]
    simp

theorem foldlM_furtherMembers : ∀ (members : List (Option String × Json)) (key : Option String)
    (last : Json) (read : List (Option String × Json)) (stack : List Frame) (more : List Token),
    (furtherMembers members ++ more).foldlM State.step ⟨.next last, .obj read key :: stack⟩
      = more.foldlM State.step ⟨.next (.obj (read.reverse ++ (key, last) :: members)), stack⟩
  | [], key, last, read, stack, more => by
    rw [furtherMembers, List.cons_append, List.foldlM_cons]
    change more.foldlM State.step ⟨.next (.obj ((key, last) :: read).reverse), stack⟩ = _
    rw [List.reverse_cons]
  | (other, value) :: members, key, last, read, stack, more => by
    rw [furtherMembers, List.cons_append, List.foldlM_cons, List.cons_append, List.cons_append,
      List.append_assoc]
    change (value.toTokens ++ _).foldlM State.step
      ⟨.value, .obj ((key, last) :: read) other :: stack⟩ = _
    rw [foldlM_toTokens value, foldlM_furtherMembers members]
    simp

end

theorem ofTokens_toTokens (value : Json) : ofTokens value.toTokens = some value := by
  have assembled := foldlM_toTokens value [] []
  rw [List.append_nil] at assembled
  rw [ofTokens, State.start, assembled]
  rfl

theorem parse_of_spells {value : Json} {text : String} (spells : Spells text.toList value.toTokens)
    {blanks : String} (blank : AreBlanks blanks) :
    parse (text ++ blanks) = some value := by
  have stops : Stops (blanks.toList ++ []) := by
    cases chars : blanks.toList with
    | nil => exact stops_nil
    | cons c rest => exact stops_of_isBlank (blank c (by simp [chars])) _
  have ends : Scans (blanks.toList ++ []) [] := by
    have all := spells_nil.afterBlanks blank [] [] stops_nil scans_nil
    simpa using all
  have scans := spells _ _ stops ends
  rw [List.append_nil, List.append_nil, ← String.toList_append] at scans
  rw [parse, tokens_of_scans scans]
  exact ofTokens_toTokens value

/-- A value that can be written is read back from its compact text. -/
theorem parse_compact {value : Json} (writable : value.IsWritable) :
    parse value.compact = some value := by
  have reads := parse_of_spells (spells_compact value writable) areBlanks_empty
  rwa [String.append_empty] at reads

theorem parse_pretty {value : Json} (writable : value.IsWritable) :
    parse (value.pretty ++ "\n") = some value :=
  parse_of_spells (spells_prettyAt value 0 writable) areBlanks_lineFeed

end CodeReading.Json
