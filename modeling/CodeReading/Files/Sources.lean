import CodeReading.Files.Access
import CodeReading.Graph.Source

set_option autoImplicit false

namespace CodeReading.Files

variable {m : Type → Type} [Monad m]

/-- Whether a resolved path lies outside a resolved directory; what does not exist lies nowhere. -/
def liesOutside (root place : Option ResolvedPath) : Bool :=
  match root, place with
  | some root, some place => !root.isPrefixOf place
  | _, _ => false

def readSource (files : Access m) (root path : String) : m (Option String) := do
  if path = "" ∨ !isConfined path then return none
  let place ← files.resolve (join root path)
  if liesOutside (← files.resolve root) place then return none
  return (← files.readText (join root path)).toOption

def readSources (files : Access m) (root : String) : List String → m (List (String × String))
  | [] => return []
  | path :: paths => do
    let text ← readSource files root path
    let rest ← readSources files root paths
    return (text.map (path, ·)).toList ++ rest

def sourceLookup (files : Access m) (root : String) (g : CallGraph) : m SourceLookup := do
  return SourceLookup.ofFiles (← readSources files root (g.nodes.map (·.filePath)).eraseDups)

end CodeReading.Files
