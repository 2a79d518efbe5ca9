import CodeReading.Text.Blank

set_option autoImplicit false

namespace CodeReading.Text

/-- The line whose characters were read in reverse order, without its carriage return. -/
def endLine : List Char → List Char
  | '\r' :: read => read.reverse
  | read => read.reverse

/-- Lines of `rest`, the first of which starts with the characters `read` in reverse order. -/
def linesFrom (read : List Char) : List Char → List (List Char)
  | [] => if read.isEmpty then [] else [read.reverse]
  | c :: rest => if c = '\n' then endLine read :: linesFrom [] rest else linesFrom (c :: read) rest

def lines (text : String) : List String :=
  (linesFrom [] text.toList).map String.ofList

def isBlankLine (line : String) : Bool :=
  allBlank line.toList

/-- Lines `first` to `last`, counted from one, unless there is nothing but blanks in them. The
    window is computed in 64 bits; the guard keeps both differences from wrapping. -/
def sliceLines (text : String) (first last : UInt64) : Option String :=
  if first = 0 ∨ last < first then none
  else
    let window := ((lines text).drop (first - 1).toNat).take (last - first + 1).toNat
    if window.all isBlankLine then none else some ("\n".intercalate window)

end CodeReading.Text
