import CodeReading.Curriculum.Assembly
import CodeReading.Files.Access
import CodeReading.Graph.Draft

set_option autoImplicit false

namespace CodeReading.Command

inductive Failure where
  | readConfig (path : String) (error : Files.FileError)
  | parseConfig (path : String)
  | refuseConfig (path : String) (fault : ConfigFault)
  | readGraph (path : String) (error : Files.FileError)
  | parseGraph
  | buildGraph (error : GraphError)
  | refuseSettings (fault : ConfigFault)
  | noEntryPoints
  | overflow
  | writeOutput (path : String) (error : Files.FileError)
  | zeroCount (option : String)
  deriving DecidableEq, Repr

def parseCauses (title detail : String) : List String :=
  [title ++ ": " ++ detail, detail]

def Failure.title : Failure → String
  | .readConfig path _ => "Failed to load config " ++ path
  | .parseConfig path => "Failed to load config " ++ path
  | .refuseConfig path _ => "Failed to load config " ++ path
  | .readGraph path _ => "Failed to read graph " ++ path
  | .parseGraph => "Failed to parse graph document"
  | .buildGraph _ => "Invalid call graph"
  | .refuseSettings _ => "Invalid generation settings"
  | .noEntryPoints => "Level generation failed"
  | .overflow => GenerationError.overflow.message
  | .writeOutput path _ => "Failed to write " ++ path
  | .zeroCount option => option ++ " must be at least 1"

def Failure.causes : Failure → List String
  | .readConfig _ error => ["IO error: " ++ error.message, error.message]
  | .parseConfig _ => parseCauses "Config parse error" "not a TOML document of settings"
  | .refuseConfig _ fault => [(GenerationError.configuration fault).message]
  | .readGraph _ error => [error.message]
  | .parseGraph => parseCauses "JSON error" "not a JSON document of a call graph"
  | .buildGraph error => [error.message]
  | .refuseSettings fault => [(GenerationError.configuration fault).message]
  | .noEntryPoints => [GenerationError.noEntryPoints.message]
  | .overflow => []
  | .writeOutput _ error => [error.message]
  | .zeroCount _ => []

def indentLines (width : Nat) (text : String) : String :=
  String.ofList (text.toList.flatMap fun c =>
    if c = '\n' then '\n' :: List.replicate width ' ' else [c])

def numberColumn (n : Nat) : String :=
  String.ofList (List.replicate (5 - n.repr.length) ' ') ++ n.repr

/-- The causes, each on a line of its own; several are numbered. -/
def causeLines : List String → String
  | [] => ""
  | [cause] => "\n    " ++ indentLines 4 cause
  | causes =>
    String.join (causes.zipIdx.map fun (cause, n) =>
      "\n" ++ numberColumn n ++ ": " ++ indentLines 7 cause)

def Failure.status : Failure → Nat
  | .overflow => 101
  | _ => 1

def Failure.report (failure : Failure) : String :=
  let causes := failure.causes
  (if failure = .overflow then "Panic: " else "Error: ") ++ failure.title
    ++ (if causes.isEmpty then "" else "\n\nCaused by:" ++ causeLines causes) ++ "\n"

end CodeReading.Command
