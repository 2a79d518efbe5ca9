set_option autoImplicit false

namespace CodeReading

inductive ChallengeKind where
  | multipleChoice
  | codeTracing
  | fillBlank
  | codeCompletion
  | debugging
  | architecture
  deriving DecidableEq, Repr

namespace ChallengeKind

def all : List ChallengeKind :=
  [.multipleChoice, .codeTracing, .fillBlank, .codeCompletion, .debugging, .architecture]

def name : ChallengeKind → String
  | .multipleChoice => "multiple_choice"
  | .codeTracing => "code_tracing"
  | .fillBlank => "fill_blank"
  | .codeCompletion => "code_completion"
  | .debugging => "debugging"
  | .architecture => "architecture"

def idPrefix : ChallengeKind → String
  | .multipleChoice => "mc"
  | .codeTracing => "trace"
  | .fillBlank => "fill"
  | .codeCompletion => "complete"
  | .debugging => "debug"
  | .architecture => "arch"

end ChallengeKind

structure KindTable (α : Type) where
  multipleChoice : α
  codeTracing : α
  fillBlank : α
  codeCompletion : α
  debugging : α
  architecture : α
  deriving DecidableEq, Repr

def KindTable.get {α : Type} (table : KindTable α) : ChallengeKind → α
  | .multipleChoice => table.multipleChoice
  | .codeTracing => table.codeTracing
  | .fillBlank => table.fillBlank
  | .codeCompletion => table.codeCompletion
  | .debugging => table.debugging
  | .architecture => table.architecture

end CodeReading
