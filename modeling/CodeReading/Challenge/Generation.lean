import CodeReading.Challenge.Architecture
import CodeReading.Challenge.CodeCompletion
import CodeReading.Challenge.CodeTracing
import CodeReading.Challenge.Debugging
import CodeReading.Challenge.FillBlank
import CodeReading.Challenge.MultipleChoice

set_option autoImplicit false

namespace CodeReading.Material

def attempt (m : Material) (chain : Chain) : ChallengeKind → Except GapReason Challenge
  | .multipleChoice => MultipleChoice.generate m chain
  | .codeTracing => CodeTracing.generate m chain
  | .fillBlank => FillBlank.generate m chain
  | .codeCompletion => CodeCompletion.generate m chain
  | .debugging => Debugging.generate m chain
  | .architecture => Architecture.generate m chain

def generate (m : Material) (chain : Chain) (kind : ChallengeKind) : Except Gap Challenge :=
  (m.attempt chain kind).mapError fun reason => { kind, entry := chain.entry, reason }

end CodeReading.Material
