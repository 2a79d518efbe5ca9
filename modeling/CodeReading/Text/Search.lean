set_option autoImplicit false

namespace CodeReading.Text

/-- Occurrences of `pattern` in `text`, which stands at `position`; `skip` characters of it belong
    to the previous occurrence. -/
def occurrencesFrom (pattern : List Char) (position skip : Nat) : List Char → List Nat
  | [] => if skip = 0 ∧ pattern = [] then [position] else []
  | c :: text =>
    match skip with
    | skip + 1 => occurrencesFrom pattern (position + 1) skip text
    | 0 =>
      if pattern.isPrefixOf (c :: text) then
        position :: occurrencesFrom pattern (position + 1) (pattern.length - 1) text
      else occurrencesFrom pattern (position + 1) 0 text

def occurrences (pattern text : List Char) : List Nat :=
  occurrencesFrom pattern 0 0 text

def contains (pattern text : List Char) : Bool :=
  !(occurrences pattern text).isEmpty

def replaceAt (position length : Nat) (replacement text : List Char) : List Char :=
  text.take position ++ replacement ++ text.drop (position + length)

def replaceFirst? (pattern replacement text : List Char) : Option (List Char) :=
  (occurrences pattern text).head?.map (replaceAt · pattern.length replacement text)

def dropPrefix? (pattern text : List Char) : Option (List Char) :=
  if pattern.isPrefixOf text then some (text.drop pattern.length) else none

/-- The part of `text` after its last `::`, or `segment` when it has none. -/
def lastSegmentFrom (segment : List Char) : List Char → List Char
  | [] => segment
  | c :: text =>
    match c, text with
    | ':', ':' :: rest => lastSegmentFrom rest text
    | _, _ => lastSegmentFrom segment text

def lastSegment (text : List Char) : List Char :=
  lastSegmentFrom text text

end CodeReading.Text
