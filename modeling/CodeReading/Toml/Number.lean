import CodeReading.Decimal.Numeral
import CodeReading.Toml.Lexeme

set_option autoImplicit false

namespace CodeReading.Toml

/-- Digits with single underscores between them; the underscores are dropped. -/
def readDigitsFrom (isDigit : Char → Bool) (read : List Char) :
    List Char → Option (List Char × List Char)
  | [] => some (read.reverse, [])
  | c :: text =>
    if isDigit c then readDigitsFrom isDigit (c :: read) text
    else if c = '_' then
      match text with
      | d :: text => if isDigit d then readDigitsFrom isDigit (d :: read) text else none
      | [] => none
    else some (read.reverse, c :: text)

def readDigits (isDigit : Char → Bool) : Reader (List Char)
  | c :: text => if isDigit c then readDigitsFrom isDigit [c] text else none
  | [] => none

/-- The whole part of a decimal number; after a leading zero there is no more of it. -/
def readWhole : Reader (List Char)
  | '0' :: text => some (['0'], text)
  | text => readDigits Char.isDigit text

def inInt64 (value : Int) : Option Int :=
  if -0x8000000000000000 ≤ value ∧ value < 0x8000000000000000 then some value else none

def readRadix (radix : Nat) : Reader Value := fun text => do
  let (digits, rest) ←
    readDigits (fun c => (hexDigit? c).any (· < radix)) text
  let value := digits.foldl (fun n c => radix * n + (hexDigit? c).getD 0) 0
  (inInt64 value).map fun value => (.int value, rest)

def readFraction : Reader (Option (List Char))
  | '.' :: text => (readDigits Char.isDigit text).map fun (digits, rest) => (some digits, rest)
  | text => some (none, text)

def readSign : List Char → Bool × List Char
  | '-' :: text => (true, text)
  | '+' :: text => (false, text)
  | text => (false, text)

def readExponent : Reader (Option Int)
  | [] => some (none, [])
  | c :: text =>
    if c = 'e' ∨ c = 'E' then
      let (negative, text) := readSign text
      (readDigits Char.isDigit text).map fun (digits, rest) =>
        let size : Int := Nat.ofDigitChars 10 digits 0
        (some (if negative then -size else size), rest)
    else some (none, c :: text)

def infinite (negative : Bool) : Scalar :=
  .number (if negative then -Numeral.infinity else Numeral.infinity)

/-- A decimal number after its sign: an integer when it has neither fraction nor exponent. -/
def readDecimal (negative : Bool) : Reader Value := fun text => do
  let (whole, text) ← readWhole text
  let (fraction, text) ← readFraction text
  let (exponent, text) ← readExponent text
  let magnitude := Nat.ofDigitChars 10 whole 0
  if fraction = none ∧ exponent = none then
    let value ← inInt64 (if negative then -magnitude else magnitude)
    pure (.int value, text)
  else
    let value := Numeral.toFloat ⟨negative, magnitude, fraction.getD [], exponent⟩
    if value.isInf ∧ ¬negative then none else pure (.float (.number value), text)

def readNumber (text : List Char) : Option (Value × List Char) :=
  let (negative, digits) := readSign text
  match digits with
  | 'i' :: 'n' :: 'f' :: rest => some (.float (infinite negative), rest)
  | 'n' :: 'a' :: 'n' :: rest => some (.float (.undefined negative), rest)
  | digits =>
    match text with
    | '0' :: 'x' :: text => readRadix 16 text
    | '0' :: 'o' :: text => readRadix 8 text
    | '0' :: 'b' :: text => readRadix 2 text
    | _ => readDecimal negative digits

def readField (size least greatest : Nat) : Reader Nat := fun text =>
  let digits := text.take size
  let value := Nat.ofDigitChars 10 digits 0
  if digits.length = size ∧ digits.all Char.isDigit ∧ least ≤ value ∧ value ≤ greatest then
    some (value, text.drop size)
  else none

def readChar (c : Char) (text : List Char) : Option (List Char) :=
  match text with
  | d :: rest => if d = c then some rest else none
  | [] => none

def isLeapYear (year : Nat) : Bool :=
  year % 4 == 0 && (year % 100 != 0 || year % 400 == 0)

def daysInMonth (year month : Nat) : Nat :=
  if month = 2 then (if isLeapYear year then 29 else 28)
  else if month ∈ [4, 6, 9, 11] then 30
  else 31

def skipDate? (text : List Char) : Option (List Char) := do
  let (year, text) ← readField 4 0 9999 text
  let text ← readChar '-' text
  let (month, text) ← readField 2 1 12 text
  let text ← readChar '-' text
  let (_, text) ← readField 2 1 (daysInMonth year month) text
  pure text

def skipTime? (text : List Char) : Option (List Char) := do
  let (_, text) ← readField 2 0 23 text
  let text ← readChar ':' text
  let (_, text) ← readField 2 0 59 text
  let text ← readChar ':' text
  let (_, text) ← readField 2 0 60 text
  match text with
  | '.' :: text =>
    if (text.takeWhile Char.isDigit).isEmpty then none else pure (text.dropWhile Char.isDigit)
  | text => pure text

def skipOffset? : List Char → Option (List Char)
  | 'Z' :: text => some text
  | 'z' :: text => some text
  | [] => some []
  | c :: text =>
    if c = '+' ∨ c = '-' then do
      let (_, text) ← readField 2 0 23 text
      let text ← readChar ':' text
      let (_, text) ← readField 2 0 59 text
      pure text
    else some (c :: text)

def isTimeDelimiter (c : Char) : Bool :=
  c == 'T' || c == 't' || c == ' '

def skipDateTime? (text : List Char) : Option (List Char) :=
  match text with
  | [] => some []
  | c :: rest =>
    if isTimeDelimiter c ∧ (readField 2 0 99 rest).isSome then (skipTime? rest).bind skipOffset?
    else some text

def readNumeric : Reader Value := fun text =>
  if (readField 4 0 9999 text).isSome ∧ (text.drop 4).head? = some '-' then
    ((skipDate? text).bind skipDateTime?).map (.datetime, ·)
  else if (readField 2 0 99 text).isSome ∧ (text.drop 2).head? = some ':' then
    (skipTime? text).map (.datetime, ·)
  else readNumber text

end CodeReading.Toml
