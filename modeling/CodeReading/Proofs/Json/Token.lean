import CodeReading.Json.Parser
import CodeReading.Json.Printer

set_option autoImplicit false

namespace CodeReading

theorem Numeral.head?_toDigits_ne {n : Nat} (pos : 0 < n) :
    (Nat.toDigits 10 n).head? ≠ some '0' := by
  induction n using Nat.strongRecOn with
  | ind n ih =>
    rw [Nat.toDigits_eq_if (by decide)]
    split
    · rename_i small
      have digits : ∀ d < 10, 0 < d → Nat.digitChar d ≠ '0' := by decide
      simpa using digits n small pos
    · rename_i large
      have shorter := ih (n / 10) (by omega) (by omega)
      obtain ⟨c, digits, eq⟩ :=
        List.exists_cons_of_ne_nil (Nat.toDigits_ne_nil (n := n / 10) (b := 10))
      rw [eq] at shorter ⊢
      exact shorter

namespace Json

def Stops (rest : List Char) : Prop :=
  ∀ c ∈ rest.head?, c.isDigit = false ∧ c ≠ '.' ∧ c ≠ 'e' ∧ c ≠ 'E'

theorem stops_nil : Stops [] := by
  rintro c ⟨⟩

theorem readDigits_append {digits rest : List Char} (all : ∀ c ∈ digits, c.isDigit = true)
    (stop : ∀ c ∈ rest.head?, c.isDigit = false) :
    readDigits (digits ++ rest) = (digits, rest) := by
  unfold readDigits
  rw [List.takeWhile_append_of_pos all, List.dropWhile_append_of_pos all]
  cases rest with
  | nil => simp
  | cons c rest =>
    have stop := stop c rfl
    simp [stop]

theorem readDigits_toDigits (n : Nat) {rest : List Char}
    (stop : ∀ c ∈ rest.head?, c.isDigit = false) :
    readDigits (Nat.toDigits 10 n ++ rest) = (Nat.toDigits 10 n, rest) :=
  readDigits_append (fun _ mem => Nat.isDigit_of_mem_toDigits (by decide) (by decide) mem) stop

end Json

namespace Numeral

def fractionText (n : Numeral) : List Char :=
  if n.fraction = [] then [] else '.' :: n.fraction

def exponentText (n : Numeral) : List Char :=
  match n.exponent with
  | none => []
  | some e => 'e' :: (if e < 0 then '-' else '+') :: Nat.toDigits 10 e.natAbs

theorem toList_render (n : Numeral) : n.render.toList =
    (if n.negative then ['-'] else []) ++
      (Nat.toDigits 10 n.whole ++ (n.fractionText ++ n.exponentText)) := by
  have sign : (if n.negative then "-" else "").toList = if n.negative then ['-'] else [] := by
    split <;> rfl
  have whole : n.whole.repr.toList = Nat.toDigits 10 n.whole := by
    rw [Nat.repr_eq_ofList_toDigits, String.toList_ofList]
  have fraction : (if n.fraction = [] then "" else "." ++ String.ofList n.fraction).toList
      = n.fractionText := by
    unfold fractionText
    split
    · rfl
    · simp
  unfold render exponentText
  simp only [String.toList_append, sign, whole, fraction, List.append_assoc]
  cases n.exponent with
  | none => rfl
  | some e =>
    have power : e.natAbs.repr.toList = Nat.toDigits 10 e.natAbs := by
      rw [Nat.repr_eq_ofList_toDigits, String.toList_ofList]
    by_cases below : e < 0 <;> simp [below, power]

def IsWritable (n : Numeral) : Prop :=
  ∀ c ∈ n.fraction, c.isDigit = true

end Numeral

namespace Json

variable {n : Numeral} {rest : List Char}

theorem head?_exponentText (stops : Stops rest) :
    ∀ c ∈ (n.exponentText ++ rest).head?, c.isDigit = false ∧ c ≠ '.' := by
  unfold Numeral.exponentText
  cases n.exponent with
  | none => exact fun c mem => ⟨(stops c mem).1, (stops c mem).2.1⟩
  | some e =>
    rintro c ⟨⟩
    decide

theorem readExponent_exponentText (stops : Stops rest) :
    readExponent (n.exponentText ++ rest) = some (n.exponent, rest) := by
  unfold Numeral.exponentText
  cases n.exponent with
  | none =>
    cases rest with
    | nil => rfl
    | cons c rest =>
      obtain ⟨-, -, lower, upper⟩ := stops c rfl
      simp [readExponent, lower, upper]
  | some e =>
    have digits := readDigits_toDigits e.natAbs fun c mem => (stops c mem).1
    by_cases negative : e < 0
    · have size : -(e.natAbs : Int) = e := by omega
      simp only [negative, if_true, List.cons_append, readExponent, true_or, readSign, digits,
        Nat.toDigits_ne_nil, if_false, Nat.ofDigitChars_ten_toDigits, size]
    · have size : (e.natAbs : Int) = e := by omega
      simp only [negative, if_false, List.cons_append, readExponent, true_or, if_true, readSign,
        digits, Nat.toDigits_ne_nil, Nat.ofDigitChars_ten_toDigits, Bool.false_eq_true, size]

theorem readFraction_fractionText (writable : n.IsWritable) (stops : Stops rest) :
    readFraction (n.fractionText ++ (n.exponentText ++ rest))
      = some (n.fraction, n.exponentText ++ rest) := by
  have stop := head?_exponentText (n := n) stops
  unfold Numeral.fractionText
  split
  · rename_i empty
    rw [empty, List.nil_append]
    unfold readFraction
    split
    · rename_i eq
      rw [eq] at stop
      exact absurd rfl (stop '.' rfl).2
    · rfl
  · rename_i nonempty
    have digits := readDigits_append writable fun c mem => (stop c mem).1
    simp only [List.cons_append, readFraction, digits, nonempty, if_false]

theorem head?_fractionText (stops : Stops rest) :
    ∀ c ∈ (n.fractionText ++ (n.exponentText ++ rest)).head?, c.isDigit = false := by
  unfold Numeral.fractionText
  split
  · exact fun c mem => (head?_exponentText stops c mem).1
  · rintro c ⟨⟩
    decide

theorem toDigits_eq_of_head? {m : Nat} (zero : (Nat.toDigits 10 m).head? = some '0') :
    Nat.toDigits 10 m = ['0'] := by
  rcases Nat.eq_zero_or_pos m with rfl | pos
  · rfl
  · exact absurd zero (Numeral.head?_toDigits_ne pos)

theorem readNumber_toDigits (writable : n.IsWritable) (stops : Stops rest) :
    readNumber n.negative
        (Nat.toDigits 10 n.whole ++ (n.fractionText ++ (n.exponentText ++ rest)))
      = some (n, rest) := by
  have whole := readDigits_toDigits n.whole (head?_fractionText (n := n) stops)
  unfold readNumber
  simpa [whole, readFraction_fractionText writable stops, readExponent_exponentText stops,
    Nat.ofDigitChars_ten_toDigits] using toDigits_eq_of_head?

theorem hexNumber?_control : ∀ m < 32,
    hexNumber? ['0', '0', hexChar (m / 16), hexChar m] = some m := by
  decide

theorem ofCode_toNat {c : Char} (small : c.toNat < 32) : StringUnit.ofCode c.toNat = .char c := by
  unfold StringUnit.ofCode
  rw [if_neg (by omega), Char.ofNat_toNat]

theorem readUnits_plain {c : Char} {read : List StringUnit} {text : List Char}
    (quote : c ≠ '"') (backslash : c ≠ '\\') (plain : ¬ c < ' ') :
    readUnits read (c :: text) = readUnits (.char c :: read) text := by
  rw [readUnits]
  · exact if_neg (not_or.2 ⟨plain, backslash⟩)
  · exact quote
  · exact fun _ _ _ _ _ eq _ => backslash eq
  · exact fun _ _ eq _ => backslash eq

theorem readUnits_escapeChar (c : Char) (read : List StringUnit) (text : List Char) :
    readUnits read (escapeChar c ++ text) = readUnits (.char c :: read) text := by
  unfold escapeChar
  split
  -- the characters with a letter of their own
  · rfl
  · rfl
  · rfl
  · rfl
  · rfl
  · rfl
  · rfl
  · rename_i quote backslash _ _ _ _ _
    split
    · rename_i control
      have small : c.toNat < 32 := control
      simp only [List.cons_append, List.nil_append, readUnits]
      rw [hexNumber?_control c.toNat small]
      simp [ofCode_toNat small]
    · rename_i plain
      exact readUnits_plain quote backslash plain

theorem readUnits_flatMap_escapeChar (text : List Char) (read : List StringUnit)
    (rest : List Char) : readUnits read (text.flatMap escapeChar ++ '"' :: rest)
      = some (read.reverse ++ text.map .char, rest) := by
  induction text generalizing read with
  | nil => simp [readUnits]
  | cons c text ih =>
    rw [List.flatMap_cons, List.append_assoc, readUnits_escapeChar, ih]
    simp

theorem pairUnits_map_char (read text : List Char) :
    pairUnits read (text.map .char) = some (String.ofList (read.reverse ++ text)) := by
  induction text generalizing read with
  | nil => simp [pairUnits]
  | cons c text ih =>
    rw [List.map_cons, pairUnits, ih]
    simp

theorem readString_quote (text : String) (rest : List Char) :
    readString (text.toList.flatMap escapeChar ++ '"' :: rest) = some (some text, rest) := by
  unfold readString
  rw [readUnits_flatMap_escapeChar]
  simp [pairUnits_map_char]

/-- Whether a text is cut into the given tokens, whatever was read before it. -/
def Scans (text : List Char) (tokens : List Token) : Prop :=
  ∀ read fuel, text.length ≤ fuel → tokensFrom read fuel text = some (read.reverse ++ tokens)

/-- Whether a text is cut into the given tokens, whatever follows that does not go on with a
    number. -/
def Spells (text : List Char) (tokens : List Token) : Prop :=
  ∀ rest more, Stops rest → Scans rest more → Scans (text ++ rest) (tokens ++ more)

theorem scans_nil : Scans [] [] := by
  intro read fuel _
  simp [tokensFrom]

theorem tokens_of_scans {text : List Char} {toks : List Token} (scans : Scans text toks) :
    tokens text = some toks :=
  scans [] text.length (Nat.le_refl _)

theorem stops_cons {c : Char} {text : List Char}
    (h : c.isDigit = false ∧ c ≠ '.' ∧ c ≠ 'e' ∧ c ≠ 'E') : Stops (c :: text) := by
  rintro _ ⟨⟩
  exact h

theorem Scans.token {c : Char} {text rest : List Char} {token : Token} {more : List Token}
    (visible : isBlank c = false) (reads : readToken c text = some (token, rest))
    (shorter : rest.length ≤ text.length) (scans : Scans rest more) :
    Scans (c :: text) (token :: more) := by
  intro read fuel enough
  rw [List.length_cons] at enough
  obtain ⟨fuel, rfl⟩ : ∃ less, fuel = less + 1 := Nat.exists_eq_add_one.2 (by omega)
  rw [tokensFrom, visible, reads]
  simpa using scans (token :: read) fuel (by omega)

theorem Scans.blank {c : Char} {text : List Char} {toks : List Token} (blank : isBlank c = true)
    (scans : Scans text toks) : Scans (c :: text) toks := by
  intro read fuel enough
  rw [List.length_cons] at enough
  obtain ⟨fuel, rfl⟩ : ∃ less, fuel = less + 1 := Nat.exists_eq_add_one.2 (by omega)
  rw [tokensFrom, if_pos blank]
  exact scans read fuel (by omega)

theorem spells_nil : Spells [] [] :=
  fun _ _ _ scans => scans

theorem spells_of_readToken {c : Char} {text : List Char} {token : Token}
    (visible : isBlank c = false)
    (reads : ∀ rest, Stops rest → readToken c (text ++ rest) = some (token, rest)) :
    Spells (c :: text) [token] := by
  intro rest more stops scans
  exact Scans.token visible (reads rest stops) (by simp) scans

theorem Spells.after {c : Char} {token : Token} {text : List Char} {toks : List Token}
    (spells : Spells text toks) (visible : isBlank c = false)
    (reads : ∀ rest, readToken c rest = some (token, rest)) :
    Spells (c :: text) (token :: toks) := by
  intro rest more stops scans
  exact Scans.token visible (reads _) (Nat.le_refl _) (spells rest more stops scans)

def AreBlanks (text : String) : Prop :=
  ∀ c ∈ text.toList, isBlank c = true

theorem Spells.afterBlanks {blanks : String} {text : List Char} {toks : List Token}
    (blank : AreBlanks blanks) (spells : Spells text toks) :
    Spells (blanks.toList ++ text) toks := by
  intro rest more stops scans
  unfold AreBlanks at blank
  generalize blanks.toList = blanks at blank
  induction blanks with
  | nil => exact spells rest more stops scans
  | cons c blanks ih =>
    rw [List.forall_mem_cons] at blank
    exact (ih blank.2).blank blank.1

theorem Spells.append {a b : List Char} {s t : List Token} (first : Spells a s)
    (second : Spells b t) (stops : ∀ rest, Stops (b ++ rest)) : Spells (a ++ b) (s ++ t) := by
  intro rest more stop scans
  rw [List.append_assoc, List.append_assoc]
  exact first _ _ (stops rest) (second rest more stop scans)

theorem spells_null : Spells ['n', 'u', 'l', 'l'] [.scalar .null] :=
  spells_of_readToken rfl fun _ _ => rfl

theorem spells_true : Spells ['t', 'r', 'u', 'e'] [.scalar (.bool true)] :=
  spells_of_readToken rfl fun _ _ => rfl

theorem spells_false : Spells ['f', 'a', 'l', 's', 'e'] [.scalar (.bool false)] :=
  spells_of_readToken rfl fun _ _ => rfl

theorem spells_quote (text : String) : Spells (quote text).toList [.scalar (.str (some text))] := by
  have quoted : (quote text).toList = '"' :: (text.toList.flatMap escapeChar ++ ['"']) := by
    simp [quote]
  rw [quoted]
  refine spells_of_readToken rfl fun rest _ => ?_
  rw [List.append_assoc, List.singleton_append]
  simp [readToken, readScalar, readString_quote]

theorem ne_of_isDigit {c d : Char} (digit : c.isDigit = true) (other : d.isDigit = false) :
    c ≠ d := by
  rintro rfl
  rw [digit] at other
  cases other

theorem isBlank_of_isDigit {c : Char} (digit : c.isDigit = true) : isBlank c = false := by
  simp [isBlank, ne_of_isDigit digit]

theorem readToken_of_isDigit {c : Char} (digit : c.isDigit = true) (text : List Char) :
    readToken c text
      = (readNumber false (c :: text)).map fun (n, rest) => (.scalar (.num n), rest) := by
  have scalar : readScalar c text
      = (readNumber false (c :: text)).map fun (n, rest) => (.num n, rest) := by
    unfold readScalar
    rw [if_neg (ne_of_isDigit digit (by decide)), if_neg (ne_of_isDigit digit (by decide)),
      if_pos digit]
  unfold readToken
  split
  case h_7 => rw [scalar, Option.map_map]; rfl
  -- no bracket, comma or colon is a digit
  all_goals exact absurd digit (by decide)

theorem spells_render (writable : n.IsWritable) :
    Spells n.render.toList [.scalar (.num n)] := by
  rw [Numeral.toList_render]
  cases sign : n.negative with
  | true =>
    refine spells_of_readToken rfl fun rest stops => ?_
    have reads := readNumber_toDigits writable stops
    rw [sign] at reads
    simp [readToken, readScalar, reads]
  | false =>
    obtain ⟨c, digits, eq⟩ :=
      List.exists_cons_of_ne_nil (Nat.toDigits_ne_nil (n := n.whole) (b := 10))
    have digit : c.isDigit = true :=
      Nat.isDigit_of_mem_toDigits (b := 10) (n := n.whole) (by decide) (by decide) (by simp [eq])
    rw [eq, if_neg Bool.false_ne_true, List.nil_append, List.cons_append]
    refine spells_of_readToken (isBlank_of_isDigit digit) fun rest stops => ?_
    have reads := readNumber_toDigits writable stops
    rw [sign, eq, List.cons_append] at reads
    rw [readToken_of_isDigit digit, List.append_assoc, List.append_assoc, reads]
    rfl

end Json

end CodeReading
