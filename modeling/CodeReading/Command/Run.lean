import CodeReading.Command.Arguments
import CodeReading.Command.Report
import CodeReading.Curriculum.Record
import CodeReading.Files.Sources
import CodeReading.Graph.Document
import CodeReading.Graph.Dot

set_option autoImplicit false

namespace CodeReading.Command

variable {m : Type → Type} [Monad m]

/-- What a run leaves behind, files apart. -/
structure Outcome where
  status : Nat
  stdout : String := ""
  stderr : String := ""
  deriving DecidableEq, Repr

def versionText : String := "callquest 0.1.1\n"

def usageText : String :=
  "Usage: callquest [OPTIONS] <generate|chains|stats|dot> <GRAPH>\n"

structure Context where
  config : Config
  graph : CallGraph

def configOfText (path text : String) : Except Failure Config :=
  match Config.parse text with
  | none => .error (.parseConfig path)
  | some config =>
    match config.validate with
    | .ok () => .ok config
    | .error fault => .error (.refuseConfig path fault)

def graphOfText (options : GraphOptions) (text : String) : Except Failure CallGraph :=
  match Document.parse text with
  | none => .error .parseGraph
  | some doc =>
    let draft := { doc.toDraft with
      lenient := options.lenient
      detectEntryPoints := options.detectEntryPoints }
    draft.build.mapError .buildGraph

def loadConfig (files : Files.Access m) : Option String → m (Except Failure Config)
  | none => return .ok {}
  | some path => do
    match ← files.readText path with
    | .error error => return .error (.readConfig path error)
    | .ok text => return configOfText path text

def loadGraph (files : Files.Access m) (options : GraphOptions) : m (Except Failure CallGraph) := do
  match ← files.readText options.path with
  | .error error => return .error (.readGraph options.path error)
  | .ok text => return graphOfText options text

def load (files : Files.Access m) (options : GraphOptions) : m (Except Failure Context) := do
  match ← loadConfig files options.config with
  | .error failure => return .error failure
  | .ok config =>
    match ← loadGraph files options with
    | .error failure => return .error failure
    | .ok graph => return .ok { config, graph }

def generateText (overflow : Overflow) (context : Context) (options : GenerateOptions)
    (source : SourceLookup) : Except Failure String :=
  let config := match options.maxLevels with
    | some maxLevels => { context.config with maxLevels := UInt64.ofNat maxLevels }
    | none => context.config
  match ({ graph := context.graph, source, config, overflow : Project }).generate with
  | .ok curriculum => .ok (Json.pretty (curriculum.toJson !options.redactAnswers))
  | .error (.configuration fault) => .error (.refuseSettings fault)
  | .error .noEntryPoints => .error .noEntryPoints
  | .error .overflow => .error .overflow

def chainsText (context : Context) (options : ChainsOptions) : Except Failure String :=
  let config := context.config
  let maxChains := options.maxChains.getD config.maxLevels.toNat
  let maxDepth := options.maxDepth.getD config.maxDepth.toNat
  if maxChains = 0 then .error (.zeroCount "--max-chains")
  else if maxDepth = 0 then .error (.zeroCount "--max-depth")
  else
    let ranked :=
      config.ranking.rank context.graph maxDepth config.maxCandidateChains.toNat maxChains
    .ok (Json.pretty (.arr (ranked.zipIdx.map fun (ranked, i) =>
      ranked.summary (i + 1) (config.difficulty.classify context.graph ranked.chain))))

def lookupFor (files : Files.Access m) (g : CallGraph) : Action → m SourceLookup
  | .generate { sourceRoot := some root, .. } => Files.sourceLookup files root g
  | _ => return SourceLookup.none

def actionText (overflow : Overflow) (context : Context) (source : SourceLookup) :
    Action → Except Failure String
  | .generate options => generateText overflow context options source
  | .chains options => chainsText context options
  | .stats => .ok (Json.pretty context.graph.stats.toJson)
  | .dot => .ok (Dot.render context.graph)

def Action.output : Action → Option String
  | .generate options => options.output
  | _ => none

def failed (failure : Failure) : Outcome :=
  { status := failure.status, stderr := failure.report }

def emit (files : Files.Access m) (output : Option String) (text : String) : m Outcome := do
  match output with
  | none => return { status := 0, stdout := text ++ "\n" }
  | some path =>
    match ← files.writeText path (text ++ "\n") with
    | .ok () => return { status := 0 }
    | .error error => return failed (.writeOutput path error)

def execute (overflow : Overflow) (files : Files.Access m) (request : Request) : m Outcome := do
  match ← load files request.graph with
  | .error failure => return failed failure
  | .ok context =>
    let source ← lookupFor files context.graph request.action
    match actionText overflow context source request.action with
    | .error failure => return failed failure
    | .ok text => emit files request.action.output text

def run (overflow : Overflow) (files : Files.Access m) (arguments : List String) : m Outcome :=
  match parse arguments with
  | .ok request => execute overflow files request
  | .error .help => return { status := 0, stdout := usageText }
  | .error .version => return { status := 0, stdout := versionText }
  | .error .usage => return { status := 2, stderr := usageText }

end CodeReading.Command
