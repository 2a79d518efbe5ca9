import CodeReading.Files.Access

set_option autoImplicit false

/-!
# File trees

A file tree says what there is at each resolved path. Walking along a path follows links, at most
forty of them, and ends at a resolved path. A walk to a file that is to be created may end at a new
name, which no slash may follow.
-/
namespace CodeReading.Files

inductive Entry where
  | file (bytes : ByteArray)
  | directory
  | link (target : String)

/-- Entries by their resolved path, and the directory where relative paths start. The root is always
    a directory. -/
structure Tree where
  entries : List (ResolvedPath × Entry)
  workingDirectory : ResolvedPath

namespace Tree

def entryAt? (tree : Tree) (path : ResolvedPath) : Option Entry :=
  if path = [] then some .directory else tree.entries.lookup path

def linkLimit : Nat := 40

def nameLimit : Nat := 255

def pathLimit : Nat := 4095

/-- The resolved path at the end of a walk from `here`; to `create` one, its last name may be new. -/
def walk (tree : Tree) (create : Bool) (links : Nat) (here : ResolvedPath) (names : List String) :
    Except FileError ResolvedPath :=
  match names with
  | [] => .ok here
  | name :: names =>
    match tree.entryAt? here with
    | some .directory =>
      if name = "" ∨ name = "." then tree.walk create links here names
      else if name = ".." then tree.walk create links here.dropLast names
      else if create ∧ names = [""] then .error .isADirectory
      else if nameLimit < name.utf8ByteSize then .error .nameTooLong
      else
        match tree.entryAt? (here ++ [name]) with
        | some (.link target) =>
          match links with
          | 0 => .error .tooManyLinks
          | links + 1 =>
            tree.walk create links (if isAbsolute target then [] else here)
              (components target ++ names)
        | some _ => tree.walk create links (here ++ [name]) names
        | none =>
          if create ∧ names = [] then .ok (here ++ [name]) else .error .notFound
    | some _ => .error .notADirectory
    | none => .error .notFound
termination_by (links, names.length)

def locate (tree : Tree) (create : Bool) (path : String) : Except FileError ResolvedPath :=
  if path = "" then .error .notFound
  else if pathLimit < path.utf8ByteSize then .error .nameTooLong
  else
    tree.walk create linkLimit (if isAbsolute path then [] else tree.workingDirectory)
      (components path)

/-- Bytes of a resolved path, spelled with a slash before each name. -/
def spelledSize : ResolvedPath → Nat
  | [] => 0
  | name :: place => 1 + name.utf8ByteSize + spelledSize place

/-- What is left of the tree without the entries whose resolved path is too long to be spelled. -/
def nameable (tree : Tree) : Tree :=
  { tree with entries := tree.entries.filter fun entry => spelledSize entry.1 ≤ pathLimit }

/-- The resolved path that a path leads to. Every place on the way is looked up by its own resolved
    path, so unlike a walk this fails where that path is too long. -/
def resolve (tree : Tree) (path : String) : Option ResolvedPath :=
  (tree.nameable.locate false path).toOption

def textAt (tree : Tree) (path : ResolvedPath) : Except FileError String :=
  match tree.entryAt? path with
  | some (.file bytes) =>
    match String.fromUTF8? bytes with
    | some text => .ok text
    | none => .error .notUtf8
  | some _ => .error .isADirectory
  | none => .error .notFound

def readText (tree : Tree) (path : String) : Except FileError String :=
  (tree.locate false path).bind tree.textAt

def put (tree : Tree) (path : ResolvedPath) (entry : Entry) : Tree :=
  { tree with entries := (path, entry) :: tree.entries.filter fun other => other.1 != path }

/-- The tree with a file written, unless a directory is in its place. -/
def writeText (tree : Tree) (path text : String) : Except FileError Tree :=
  match tree.locate true path with
  | .error e => .error e
  | .ok place =>
    match tree.entryAt? place with
    | some .directory => .error .isADirectory
    | _ => .ok (tree.put place (.file text.toUTF8))

def access : Access (StateM Tree) where
  readText path := return (← get).readText path
  resolve path := return (← get).resolve path
  writeText path text := do
    match (← get).writeText path text with
    | .ok tree =>
      set tree
      return .ok ()
    | .error e => return .error e

end Tree
end CodeReading.Files
