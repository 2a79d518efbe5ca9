import CodeReading.Toml.Number
import CodeReading.Toml.Table

set_option autoImplicit false

namespace CodeReading.Toml

/-- Arrays and inline tables nest less deep than this, and keys have fewer parts. -/
def nestingLimit : Nat := 80

def isBareKeyChar (c : Char) : Bool :=
  c.isAlphanum || c == '_' || c == '-'

def readKeyPart : Reader String
  | '"' :: text => readLineString '"' [] (text.length + 1) text
  | '\'' :: text => readLineString '\'' [] (text.length + 1) text
  | text =>
    let name := text.takeWhile isBareKeyChar
    if name = [] then none else some (String.ofList name, text.dropWhile isBareKeyChar)

def readKeyFrom (read : List String) : Nat → Reader (List String)
  | 0, _ => none
  | fuel + 1, text => do
    let (part, text) ← readKeyPart (skipSpaces text)
    match skipSpaces text with
    | '.' :: text => readKeyFrom (part :: read) fuel text
    | text => pure ((part :: read).reverse, text)

def readKey : Reader (List String × String) := fun text => do
  let (parts, text) ← readKeyFrom [] (text.length + 1) text
  if nestingLimit ≤ parts.length then none
  let key ← parts.getLast?
  pure ((parts.dropLast, key), text)

def readBinding (value : Reader Value) : Reader Binding := fun text => do
  let ((path, key), text) ← readKey text
  let text ← readChar '=' text
  let (value, text) ← value (skipSpaces text)
  pure (⟨path, key, value⟩, text)

/-- The items of an array after its opening bracket; a comma may follow the last one. -/
def readItems (item : Reader Value) (read : List Value) : Nat → Reader (List Value)
  | 0, _ => none
  | fuel + 1, text => do
    match ← skipLines text with
    | ']' :: text => pure (read.reverse, text)
    | text =>
      let (value, text) ← item text
      match ← skipLines text with
      | ',' :: text => readItems item (value :: read) fuel text
      | ']' :: text => pure ((value :: read).reverse, text)
      | _ => none

/-- The bindings of an inline table; no comma follows the last one. -/
def readInlineBindings (value : Reader Value) (read : List Binding) : Nat → Reader (List Binding)
  | 0, _ => none
  | fuel + 1, text => do
    let (binding, text) ← readBinding value text
    match skipSpaces text with
    | ',' :: text => readInlineBindings value (binding :: read) fuel text
    | '\x7d' :: text => pure ((binding :: read).reverse, text)
    | _ => none

def readInlineTable (value : Reader Value) : Reader Value := fun text =>
  match skipSpaces text with
  | '\x7d' :: text => some (.table .inlined [], text)
  | text => do
    let (bindings, text) ← readInlineBindings value [] text.length text
    let entries ← bindAll [] bindings
    pure (.table .inlined entries, text)

/-- A value with fewer than `depth` arrays and inline tables in each other. -/
def readValue : Nat → Reader Value
  | _, [] => none
  | depth, c :: text =>
    match c with
    | '"' => (readString (c :: text)).map fun (s, text) => (.str s, text)
    | '\'' => (readString (c :: text)).map fun (s, text) => (.str s, text)
    | '[' =>
      match depth with
      | 0 => none
      | depth + 1 =>
        (readItems (readValue depth) [] (text.length + 1) text).map fun (items, text) =>
          (.arr items, text)
    | '\x7b' =>
      match depth with
      | 0 => none
      | depth + 1 => readInlineTable (readValue depth) text
    | 't' =>
      match text with
      | 'r' :: 'u' :: 'e' :: text => some (.bool true, text)
      | _ => none
    | 'f' =>
      match text with
      | 'a' :: 'l' :: 's' :: 'e' :: text => some (.bool false, text)
      | _ => none
    | c => readNumeric (c :: text)

def readBindings (read : List Binding) : Nat → Reader (List Binding)
  | 0, _ => none
  | fuel + 1, text => do
    match ← skipLines text with
    | [] => pure (read.reverse, [])
    | '[' :: text => pure (read.reverse, '[' :: text)
    | text =>
      let (binding, text) ← readBinding (readValue (nestingLimit - 1)) text
      readBindings (binding :: read) fuel (← endOfLine? text)

def readHeader (text : List Char) : Option ((List String × String × Bool) × List Char) :=
  match text with
  | '[' :: '[' :: text => do
    let ((path, key), text) ← readKey text
    let text ← (readChar ']' text).bind (readChar ']')
    pure ((path, key, true), ← endOfLine? text)
  | '[' :: text => do
    let ((path, key), text) ← readKey text
    let text ← readChar ']' text
    pure ((path, key, false), ← endOfLine? text)
  | _ => none

def readSections (read : List Section) : Nat → List Char → Option (List Section)
  | _, [] => some read.reverse
  | 0, _ :: _ => none
  | fuel + 1, text => do
    let ((path, key, repeated), text) ← readHeader text
    let (bindings, text) ← readBindings [] (text.length + 1) text
    readSections (⟨path, key, repeated, bindings⟩ :: read) fuel text

/-- The table of a whole document; a byte order mark in front of it is skipped. -/
def parse (text : String) : Option Entries := do
  let text := match text.toList with
    | '\uFEFF' :: rest => rest
    | chars => chars
  let (bindings, text) ← readBindings [] (text.length + 1) text
  let sections ← readSections [] text.length text
  assemble bindings sections

end CodeReading.Toml
