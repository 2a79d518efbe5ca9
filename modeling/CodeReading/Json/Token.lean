import CodeReading.Json.Basic
import CodeReading.Text.Search

set_option autoImplicit false

namespace CodeReading.Json

inductive Token where
  | openArr
  | closeArr
  | openObj
  | closeObj
  | comma
  | colon
  | scalar (value : Json)
  deriving Repr

def isBlank (c : Char) : Bool :=
  c == ' ' || c == '\n' || c == '\t' || c == '\r'

inductive StringUnit where
  | char (c : Char)
  | half (code : Nat)

def hexDigit? (c : Char) : Option Nat :=
  if c.isDigit then some (c.toNat - '0'.toNat)
  else if 'a' ≤ c ∧ c ≤ 'f' then some (c.toNat - 'a'.toNat + 10)
  else if 'A' ≤ c ∧ c ≤ 'F' then some (c.toNat - 'A'.toNat + 10)
  else none

def hexNumber? (digits : List Char) : Option Nat :=
  digits.foldlM (fun n c => (hexDigit? c).map (16 * n + ·)) 0

def StringUnit.ofCode (code : Nat) : StringUnit :=
  if 0xD800 ≤ code ∧ code ≤ 0xDFFF then .half code else .char (Char.ofNat code)

def escaped? : Char → Option Char
  | '"' => some '"'
  | '\\' => some '\\'
  | '/' => some '/'
  | 'b' => some '\x08'
  | 'f' => some '\x0c'
  | 'n' => some '\n'
  | 'r' => some '\r'
  | 't' => some '\t'
  | _ => none

/-- The units up to the closing quote, after those already `read` in reverse order. -/
def readUnits (read : List StringUnit) : List Char → Option (List StringUnit × List Char)
  | [] => none
  | '"' :: rest => some (read.reverse, rest)
  | '\\' :: 'u' :: a :: b :: c :: d :: rest =>
    match hexNumber? [a, b, c, d] with
    | some code => readUnits (.ofCode code :: read) rest
    | none => none
  | '\\' :: e :: rest =>
    match escaped? e with
    | some c => readUnits (.char c :: read) rest
    | none => none
  | c :: rest => if c < ' ' ∨ c = '\\' then none else readUnits (.char c :: read) rest

/-- The text of a string literal, if every half finds its partner. -/
def pairUnits (read : List Char) : List StringUnit → Option String
  | [] => some (String.ofList read.reverse)
  | .char c :: units => pairUnits (c :: read) units
  | .half high :: .half low :: units =>
    if high < 0xDC00 ∧ 0xDC00 ≤ low then
      pairUnits (Char.ofNat (0x10000 + (high - 0xD800) * 0x400 + (low - 0xDC00)) :: read) units
    else none
  | .half _ :: _ => none

def readString (text : List Char) : Option (Option String × List Char) :=
  (readUnits [] text).map fun (units, rest) => (pairUnits [] units, rest)

def readDigits (text : List Char) : List Char × List Char :=
  (text.takeWhile Char.isDigit, text.dropWhile Char.isDigit)

def readFraction : List Char → Option (List Char × List Char)
  | '.' :: text =>
    let (digits, rest) := readDigits text
    if digits = [] then none else some (digits, rest)
  | text => some ([], text)

def readSign : List Char → Bool × List Char
  | '-' :: text => (true, text)
  | '+' :: text => (false, text)
  | text => (false, text)

def readExponent : List Char → Option (Option Int × List Char)
  | [] => some (none, [])
  | c :: text =>
    if c = 'e' ∨ c = 'E' then
      let (negative, text) := readSign text
      let (digits, rest) := readDigits text
      let size : Int := Nat.ofDigitChars 10 digits 0
      if digits = [] then none else some (some (if negative then -size else size), rest)
    else some (none, c :: text)

/-- A numeral; only a lone zero may start its whole part. -/
def readNumber (negative : Bool) (text : List Char) : Option (Numeral × List Char) := do
  let (whole, text) := readDigits text
  if whole = [] ∨ (whole.head? = some '0' ∧ whole ≠ ['0']) then none
  let (fraction, text) ← readFraction text
  let (exponent, text) ← readExponent text
  pure (⟨negative, Nat.ofDigitChars 10 whole 0, fraction, exponent⟩, text)

def readScalar (c : Char) (text : List Char) : Option (Json × List Char) :=
  if c = '"' then (readString text).map fun (literal, rest) => (.str literal, rest)
  else if c = '-' then (readNumber true text).map fun (n, rest) => (.num n, rest)
  else if c.isDigit then (readNumber false (c :: text)).map fun (n, rest) => (.num n, rest)
  else if c = 'n' then (Text.dropPrefix? ['u', 'l', 'l'] text).map (.null, ·)
  else if c = 't' then (Text.dropPrefix? ['r', 'u', 'e'] text).map (.bool true, ·)
  else if c = 'f' then (Text.dropPrefix? ['a', 'l', 's', 'e'] text).map (.bool false, ·)
  else none

def readToken (c : Char) (text : List Char) : Option (Token × List Char) :=
  match c with
  | '[' => some (.openArr, text)
  | ']' => some (.closeArr, text)
  | '\x7b' => some (.openObj, text)
  | '\x7d' => some (.closeObj, text)
  | ',' => some (.comma, text)
  | ':' => some (.colon, text)
  | c => (readScalar c text).map fun (value, rest) => (.scalar value, rest)

/-- The tokens of a text after those already `read` in reverse order. Every token but the first
    character of a text makes the rest shorter, so `fuel` above the length of the text is enough. -/
def tokensFrom (read : List Token) : Nat → List Char → Option (List Token)
  | _, [] => some read.reverse
  | 0, _ :: _ => none
  | fuel + 1, c :: text =>
    if isBlank c then tokensFrom read fuel text
    else
      match readToken c text with
      | some (token, rest) => tokensFrom (token :: read) fuel rest
      | none => none

def tokens (text : List Char) : Option (List Token) :=
  tokensFrom [] text.length text

end CodeReading.Json
