set_option autoImplicit false

namespace CodeReading.Text

def wideBlanks : List Char :=
  ['\u0085', '\u00A0', '\u1680', '\u2000', '\u2001', '\u2002', '\u2003', '\u2004', '\u2005',
    '\u2006', '\u2007', '\u2008', '\u2009', '\u200A', '\u2028', '\u2029', '\u202F', '\u205F',
    '\u3000']

/-- The `White_Space` property of Unicode. -/
def isBlank (c : Char) : Bool :=
  c == ' ' || ('\t' ≤ c && c ≤ '\r') || wideBlanks.contains c

def trimStart (text : List Char) : List Char :=
  text.dropWhile isBlank

def trimEnd (text : List Char) : List Char :=
  (text.reverse.dropWhile isBlank).reverse

def trim (text : List Char) : List Char :=
  trimEnd (trimStart text)

def allBlank (text : List Char) : Bool :=
  text.all isBlank

def indent (text : List Char) : List Char :=
  text.takeWhile isBlank

theorem indent_append_trimStart (text : List Char) : indent text ++ trimStart text = text :=
  List.takeWhile_append_dropWhile

end CodeReading.Text
