set_option autoImplicit false

namespace CodeReading.Command

structure GraphOptions where
  path : String
  lenient : Bool := false
  detectEntryPoints : Bool := false
  config : Option String := none
  deriving DecidableEq, Repr

structure GenerateOptions where
  maxLevels : Option Nat := none
  sourceRoot : Option String := none
  redactAnswers : Bool := false
  output : Option String := none
  deriving DecidableEq, Repr

structure ChainsOptions where
  maxChains : Option Nat := none
  maxDepth : Option Nat := none
  deriving DecidableEq, Repr

inductive Action where
  | generate (options : GenerateOptions)
  | chains (options : ChainsOptions)
  | stats
  | dot
  deriving DecidableEq, Repr

structure Request where
  graph : GraphOptions
  action : Action
  deriving DecidableEq, Repr

inductive Refusal where
  | help
  | version
  | usage
  deriving DecidableEq, Repr

inductive Operand where
  | nothing
  | path
  | count
  deriving DecidableEq, Repr

structure OptionShape where
  long : String
  short : Option Char
  operand : Operand

/-- A number of 64 bits, after an optional plus sign. -/
def count? (text : String) : Option Nat :=
  let digits := match text.toList with
    | '+' :: digits => digits
    | digits => digits
  let value := Nat.ofDigitChars 10 digits 0
  if digits = [] ∨ !digits.all Char.isDigit ∨ UInt64.size ≤ value then none else some value

def Operand.accepts (operand : Operand) (text : String) : Bool :=
  match operand with
  | .nothing => false
  | .path => text != ""
  | .count => (count? text).isSome

/-- What was read of a command line: options with their values, and other arguments. -/
structure Reading where
  options : List (String × String) := []
  operands : List String := []
  deriving DecidableEq, Repr

/-- An option with its value; no option comes twice. -/
def Reading.setOption (reading : Reading) (shape : OptionShape) (value : String) :
    Except Refusal Reading :=
  if (reading.options.lookup shape.long).isSome then .error .usage
  else .ok { reading with options := reading.options ++ [(shape.long, value)] }

def Reading.setValue (reading : Reading) (shape : OptionShape) (value : String) :
    Except Refusal Reading :=
  if shape.operand.accepts value then reading.setOption shape value else .error .usage

def Reading.addOperand (reading : Reading) (operand : String) : Except Refusal Reading :=
  if operand = "" ∨ reading.operands ≠ [] then .error .usage
  else .ok { reading with operands := [operand] }

structure Pending where
  reading : Reading
  option : Option OptionShape

/-- A cluster of short options; the rest of the cluster is the value of an option that takes one,
    after an optional equals sign. -/
def readCluster (shapes : List OptionShape) (versioned : Bool) (reading : Reading) :
    List Char → Except Refusal Pending
  | [] => .ok ⟨reading, none⟩
  | c :: rest =>
    match shapes.find? fun shape => shape.short = some c with
    | some shape =>
      if shape.operand = .nothing then do
        readCluster shapes versioned (← reading.setOption shape "") rest
      else
        match rest with
        | [] => .ok ⟨reading, some shape⟩
        | '=' :: value => do return ⟨← reading.setValue shape (String.ofList value), none⟩
        | value => do return ⟨← reading.setValue shape (String.ofList value), none⟩
    | none =>
      if c = 'h' then .error .help
      else if c = 'V' ∧ versioned then .error .version
      else .error .usage

def readLong (shapes : List OptionShape) (versioned : Bool) (reading : Reading)
    (name : List Char) (value : Option String) : Except Refusal Pending :=
  match shapes.find? fun shape => shape.long.toList = name with
  | some shape =>
    match shape.operand, value with
    | .nothing, none => do return ⟨← reading.setOption shape "", none⟩
    | .nothing, some _ => .error .usage
    | _, some value => do return ⟨← reading.setValue shape value, none⟩
    | _, none => .ok ⟨reading, some shape⟩
  | none =>
    if value.isNone ∧ name = "help".toList then .error .help
    else if value.isNone ∧ name = "version".toList ∧ versioned then .error .version
    else .error .usage

def readDashed (shapes : List OptionShape) (versioned : Bool) (reading : Reading)
    (text : List Char) : Except Refusal Pending :=
  match text with
  | '-' :: text =>
    let value := match text.dropWhile (· != '=') with
      | '=' :: value => some (String.ofList value)
      | _ => none
    readLong shapes versioned reading (text.takeWhile (· != '=')) value
  | text => readCluster shapes versioned reading text

/-- A lone dash is an argument like any other. -/
def isDashed (argument : String) : Bool :=
  argument.toList.head? == some '-' && argument != "-"

/-- The arguments of an action. After two dashes there are no more options. -/
def readArguments (shapes : List OptionShape) (pending : Pending) :
    List String → Except Refusal Reading
  | [] => if pending.option.isSome then .error .usage else .ok pending.reading
  | argument :: arguments =>
    match pending.option with
    | some shape =>
      if isDashed argument then .error .usage
      else do
        readArguments shapes ⟨← pending.reading.setValue shape argument, none⟩ arguments
    | none =>
      if argument = "--" then arguments.foldlM Reading.addOperand pending.reading
      else if isDashed argument then do
        let pending ← readDashed shapes false pending.reading (argument.toList.drop 1)
        readArguments shapes pending arguments
      else do
        readArguments shapes ⟨← pending.reading.addOperand argument, none⟩ arguments

def verboseShape : OptionShape := ⟨"verbose", some 'v', .nothing⟩

def graphShapes : List OptionShape :=
  [⟨"lenient", none, .nothing⟩, ⟨"detect-entry-points", none, .nothing⟩,
    ⟨"config", some 'c', .path⟩, verboseShape]

def generateShapes : List OptionShape :=
  [⟨"max-levels", some 'n', .count⟩, ⟨"source-root", none, .path⟩,
    ⟨"redact-answers", none, .nothing⟩, ⟨"output", some 'o', .path⟩]

def chainsShapes : List OptionShape :=
  [⟨"max-chains", none, .count⟩, ⟨"max-depth", none, .count⟩]

namespace Reading

def has (reading : Reading) (option : String) : Bool :=
  (reading.options.lookup option).isSome

def value? (reading : Reading) (option : String) : Option String :=
  reading.options.lookup option

def number? (reading : Reading) (option : String) : Option Nat :=
  (reading.value? option).bind count?

def generate (reading : Reading) : Action :=
  .generate {
    maxLevels := reading.number? "max-levels"
    sourceRoot := reading.value? "source-root"
    redactAnswers := reading.has "redact-answers"
    output := reading.value? "output" }

def chains (reading : Reading) : Action :=
  .chains { maxChains := reading.number? "max-chains", maxDepth := reading.number? "max-depth" }

def request (reading : Reading) (action : Action) : Except Refusal Request :=
  match reading.operands with
  | [path] =>
    .ok {
      graph := {
        path
        lenient := reading.has "lenient"
        detectEntryPoints := reading.has "detect-entry-points"
        config := reading.value? "config" }
      action }
  | _ => .error .usage

end Reading

def actionNames : List String := ["generate", "chains", "stats", "dot", "help"]

def readHelp : List String → Refusal
  | [] => .help
  | [name] => if name ∈ actionNames then .help else .usage
  | _ => .usage

def readAction (name : String) (arguments : List String) : Except Refusal Request :=
  let start : Pending := ⟨{}, none⟩
  match name with
  | "generate" => do
    let reading ← readArguments (graphShapes ++ generateShapes) start arguments
    reading.request reading.generate
  | "chains" => do
    let reading ← readArguments (graphShapes ++ chainsShapes) start arguments
    reading.request reading.chains
  | "stats" => do
    let reading ← readArguments graphShapes start arguments
    reading.request .stats
  | "dot" => do
    let reading ← readArguments graphShapes start arguments
    reading.request .dot
  | "help" => .error (readHelp arguments)
  | _ => .error .usage

/-- A whole command line; before the action there are only verbosity, help and version. -/
def readCommandLine (reading : Reading) : List String → Except Refusal Request
  | [] => .error .usage
  | argument :: arguments =>
    if argument = "--" then .error .usage
    else if isDashed argument then do
      let pending ← readDashed [verboseShape] true reading (argument.toList.drop 1)
      readCommandLine pending.reading arguments
    else readAction argument arguments

def parse (arguments : List String) : Except Refusal Request :=
  readCommandLine {} arguments

end CodeReading.Command
