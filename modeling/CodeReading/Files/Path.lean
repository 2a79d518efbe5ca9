set_option autoImplicit false

namespace CodeReading.Files

/-- Names from the root of the file tree, without links, dots or parents. -/
abbrev ResolvedPath := List String

def splitSlashesFrom (piece : List Char) : List Char → List String
  | [] => [String.ofList piece.reverse]
  | c :: text =>
    if c = '/' then String.ofList piece.reverse :: splitSlashesFrom [] text
    else splitSlashesFrom (c :: piece) text

def splitSlashes (path : String) : List String :=
  splitSlashesFrom [] path.toList

def isAbsolute (path : String) : Bool :=
  path.toList.head? == some '/'

def names (path : String) : List String :=
  (splitSlashes path).filter (· != "")

/-- The names to walk along. A slash at the end leaves an empty one, which asks for a directory. -/
def components (path : String) : List String :=
  names path ++ (if path.toList.getLast? = some '/' then [""] else [])

def join (directory path : String) : String :=
  if directory = "" ∨ directory.toList.getLast? = some '/' then directory ++ path
  else directory ++ "/" ++ path

/-- Whether a path, links apart, stays below where it starts: it is relative and names no parent. -/
def isConfined (path : String) : Bool :=
  !isAbsolute path && !(splitSlashes path).contains ".."

end CodeReading.Files
