import CodeReading.Chain.Ranking
import CodeReading.Challenge.Basic

set_option autoImplicit false

namespace CodeReading

/-- Number of a level, from one. -/
structure LevelId where
  number : UInt32
  deriving DecidableEq, Repr

def LevelId.name (id : LevelId) : String :=
  "level_" ++ id.number.toNat.repr

structure Level where
  id : LevelId
  name : String
  description : String
  tier : Tier
  entryFunction : NodeId
  chain : Chain
  codeSnippet : String
  challenges : List Challenge
  objectives : List String
  xpReward : UInt32
  estimatedTime : UInt32
  prerequisites : List LevelId
  deriving DecidableEq, Repr

inductive DropReason where
  | tooFewChallenges (count : Nat)
  deriving DecidableEq, Repr

structure DroppedChain where
  chain : Chain
  reason : DropReason
  deriving DecidableEq, Repr

structure Curriculum where
  levels : List Level := []
  gaps : List Gap := []
  dropped : List DroppedChain := []
  deriving DecidableEq, Repr

end CodeReading
