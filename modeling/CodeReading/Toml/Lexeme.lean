import CodeReading.Toml.Basic

set_option autoImplicit false

namespace CodeReading.Toml

def isSpace (c : Char) : Bool :=
  c == ' ' || c == '\t'

/-- Characters of a comment or a literal: tabs and what is not a control character. -/
def isPrintable (c : Char) : Bool :=
  c == '\t' || (' ' ≤ c && c != '\x7f')

def skipSpaces (text : List Char) : List Char :=
  text.dropWhile isSpace

def skipComment : List Char → List Char
  | '#' :: text => text.dropWhile isPrintable
  | text => text

def newline? : List Char → Option (List Char)
  | '\n' :: text => some text
  | '\r' :: '\n' :: text => some text
  | _ => none

def lineEnd? : List Char → Option (List Char)
  | [] => some []
  | text => newline? text

/-- The text after the end of a line, before which there may be spaces and a comment. -/
def endOfLine? (text : List Char) : Option (List Char) :=
  lineEnd? (skipComment (skipSpaces text))

def skipLinesFrom : Nat → List Char → Option (List Char)
  | 0, text => some text
  | fuel + 1, text =>
    match skipSpaces text with
    | '#' :: text => (lineEnd? (text.dropWhile isPrintable)).bind (skipLinesFrom fuel)
    | text =>
      match newline? text with
      | some text => skipLinesFrom fuel text
      | none => some text

def skipLines (text : List Char) : Option (List Char) :=
  skipLinesFrom text.length text

def hexDigit? (c : Char) : Option Nat :=
  if c.isDigit then some (c.toNat - '0'.toNat)
  else if 'a' ≤ c ∧ c ≤ 'f' then some (c.toNat - 'a'.toNat + 10)
  else if 'A' ≤ c ∧ c ≤ 'F' then some (c.toNat - 'A'.toNat + 10)
  else none

def readCode (size : Nat) : Reader Char := fun text => do
  let digits := text.take size
  if digits.length ≠ size then none
  let code ← digits.foldlM (fun n c => (hexDigit? c).map (16 * n + ·)) 0
  if code.isValidChar then pure (Char.ofNat code, text.drop size) else none

def readEscape : Reader Char
  | 'b' :: text => some ('\x08', text)
  | 't' :: text => some ('\t', text)
  | 'n' :: text => some ('\n', text)
  | 'f' :: text => some ('\x0c', text)
  | 'r' :: text => some ('\r', text)
  | '"' :: text => some ('"', text)
  | '\\' :: text => some ('\\', text)
  | 'u' :: text => readCode 4 text
  | 'U' :: text => readCode 8 text
  | _ => none

def skipBreaksFrom : Nat → List Char → List Char
  | 0, text => text
  | fuel + 1, text =>
    let text := skipSpaces text
    match newline? text with
    | some text => skipBreaksFrom fuel text
    | none => text

/-- The text after a backslash that joins lines: what follows the line break and further blanks. -/
def joinedLine? (text : List Char) : Option (List Char) :=
  (newline? (skipSpaces text)).map fun text => skipBreaksFrom (text.length + 1) text

/-- A string on one line, after its opening `quote`; only double quotes admit escapes. -/
def readLineString (quote : Char) (read : List Char) : Nat → Reader String
  | 0, _ => none
  | _, [] => none
  | fuel + 1, c :: text =>
    if c = quote then some (String.ofList read.reverse, text)
    else if c = '\\' ∧ quote = '"' then
      (readEscape text).bind fun (c, text) => readLineString quote (c :: read) fuel text
    else if isPrintable c then readLineString quote (c :: read) fuel text
    else none

/-- A string over several lines, after its opening quotes. It ends at three quotes, before which up
    to two more belong to the string. -/
def readLongString (quote : Char) (read : List Char) : Nat → Reader String
  | 0, _ => none
  | _, [] => none
  | fuel + 1, c :: text =>
    if c = quote then
      let run := (text.takeWhile (· == quote)).length + 1
      if run < 3 then readLongString quote (c :: read) fuel text
      else
        let kept := min (run - 3) 2
        some (String.ofList (List.replicate kept quote ++ read).reverse, text.drop (kept + 2))
    else if c = '\\' ∧ quote = '"' then
      match joinedLine? text with
      | some text => readLongString quote read fuel text
      | none => (readEscape text).bind fun (c, text) => readLongString quote (c :: read) fuel text
    else
      match newline? (c :: text) with
      | some text => readLongString quote ('\n' :: read) fuel text
      | none => if isPrintable c then readLongString quote (c :: read) fuel text else none

def readString : Reader String
  | q :: q' :: q'' :: text =>
    if q = q' ∧ q = q'' then
      let text := (newline? text).getD text
      readLongString q [] (text.length + 1) text
    else readLineString q [] (text.length + 3) (q' :: q'' :: text)
  | q :: text => readLineString q [] (text.length + 1) text
  | [] => none

end CodeReading.Toml
