import CodeReading.Curriculum.Record
import CodeReading.Proofs.Curriculum.Partition
import CodeReading.Proofs.Json.Decode
import CodeReading.Proofs.Json.RoundTrip

set_option autoImplicit false

namespace CodeReading

open Json

namespace Shortest

theorem isDigit_of_mem_repr {n : Nat} {c : Char} (mem : c ∈ n.repr.toList) : c.isDigit = true := by
  rw [Nat.repr_eq_ofList_toDigits, String.toList_ofList] at mem
  exact Nat.isDigit_of_mem_toDigits (by decide) (by decide) mem

theorem isWritable_layout (negative : Bool) (n : Nat) (p : Int) :
    (layout negative n p).IsWritable := by
  unfold layout
  dsimp only
  split_ifs
  · intro c mem
    rw [List.mem_singleton.1 mem]
    rfl
  · exact fun c mem => isDigit_of_mem_repr (List.mem_of_mem_drop mem)
  · intro c mem
    rcases List.mem_append.1 mem with zero | digit
    · rw [List.eq_of_mem_replicate zero]
      rfl
    · exact isDigit_of_mem_repr digit
  · exact fun c mem => isDigit_of_mem_repr (List.mem_of_mem_drop mem)

end Shortest

theorem Numeral.isWritable_of_ofFloat? {x : Float} {n : Numeral} (h : ofFloat? x = some n) :
    n.IsWritable := by
  unfold ofFloat? at h
  dsimp only at h
  split_ifs at h
  · cases h
    intro c mem
    rw [List.mem_singleton.1 mem]
    rfl
  · cases h
    exact Shortest.isWritable_layout _ _ _

@[simp] theorem isWritable_float (x : Scalar) : (Json.float x).IsWritable := by
  unfold Json.float
  cases written : Numeral.ofFloat? x.toFloat with
  | none => trivial
  | some n => exact Numeral.isWritable_of_ofFloat? written

@[simp] theorem isWritable_word (n : UInt32) : (Json.word n).IsWritable :=
  isWritable_nat n.toNat

@[simp] theorem ChoiceOption.isWritable_toJson (option : ChoiceOption) :
    option.toJson.IsWritable := by
  simp [toJson]

@[simp] theorem isWritable_optionsToJson (options : List ChoiceOption) :
    (optionsToJson options).IsWritable := by
  simp [optionsToJson]

@[simp] theorem TraceStep.isWritable_toJson (step : TraceStep) : step.toJson.IsWritable := by
  simp [toJson]

@[simp] theorem Blank.isWritable_toJson (blank : Blank) : blank.toJson.IsWritable := by
  simp [toJson]

namespace ChallengeSpec

@[simp] theorem isWritable_question (spec : ChallengeSpec) : spec.question.IsWritable := by
  cases spec <;> simp [question]

@[simp] theorem isWritable_answer (spec : ChallengeSpec) : spec.answer.IsWritable := by
  cases spec <;> simp [answer]

end ChallengeSpec

@[simp] theorem Challenge.isWritable_toJson (withAnswer : Bool) (challenge : Challenge) :
    (challenge.toJson withAnswer).IsWritable := by
  cases withAnswer <;> simp [toJson]

@[simp] theorem Level.isWritable_toJson (withAnswers : Bool) (level : Level) :
    (level.toJson withAnswers).IsWritable := by
  simp [toJson]

@[simp] theorem Gap.isWritable_toJson (gap : Gap) : gap.toJson.IsWritable := by
  simp [toJson]

@[simp] theorem DroppedChain.isWritable_toJson (dropped : DroppedChain) :
    dropped.toJson.IsWritable := by
  simp [toJson]

theorem Curriculum.isWritable_toJson (withAnswers : Bool) (curriculum : Curriculum) :
    (curriculum.toJson withAnswers).IsWritable := by
  simp [toJson]

@[simp] theorem Importance.isWritable_toJson (score : Importance) : score.toJson.IsWritable := by
  simp [toJson]

@[simp] theorem RankedChain.isWritable_summary (rank : Nat) (tier : Tier) (ranked : RankedChain) :
    (ranked.summary rank tier).IsWritable := by
  simp [summary]

def Chain.ofJson : Decoder Chain :=
  fun value => (asList text? value).bind Chain.ofList?

def Tier.ofJson : Decoder Tier :=
  asChoice Tier.all Tier.name

theorem Chain.ofJson_strings (chain : Chain) : Chain.ofJson (.strings chain.ids) = some chain := by
  rw [Chain.ofJson, asList_strings, Option.bind_some, Chain.ofList?_ids]

theorem Tier.ofJson_name (tier : Tier) : Tier.ofJson (.text tier.name) = some tier := by
  cases tier <;> rfl

/-- A chain as a listing shows it. -/
structure ListedChain where
  rank : Nat
  chain : Chain
  tier : Tier
  deriving DecidableEq, Repr

def ListedChain.ofJson : Decoder ListedChain := fun value => do
  let record ← asRecord ["rank", "chain", "score", "difficulty"] value
  pure {
    rank := ← required asNat "rank" record
    chain := ← required Chain.ofJson "chain" record
    tier := ← required Tier.ofJson "difficulty" record }

def ListedChain.numbered (chains : List (Chain × Tier)) : List ListedChain :=
  chains.zipIdx.map fun ((chain, tier), i) => ⟨i + 1, chain, tier⟩

def levelFields : List String :=
  ["id", "name", "description", "difficulty", "entry_function", "call_chain", "code_snippet",
    "challenges", "objectives", "xp_reward", "estimated_time", "prerequisites"]

namespace Outline

def levelOfJson : Decoder (Chain × Tier) := fun value => do
  let record ← asRecord levelFields value
  pure (← required Chain.ofJson "call_chain" record, ← required Tier.ofJson "difficulty" record)

def droppedOfJson : Decoder Chain := fun value => do
  let record ← asRecord ["chain", "reason"] value
  required Chain.ofJson "chain" record

/-- What a printed curriculum shows of its chains; the gaps and the other fields of its levels are
    not looked at. -/
def ofJson : Decoder Outline := fun value => do
  let record ← asRecord ["levels", "gaps", "dropped"] value
  pure {
    levels := ← required (asList levelOfJson) "levels" record
    dropped := ← required (asList droppedOfJson) "dropped" record }

end Outline

theorem RankedChain.ofJson_summary (rank : Nat) (tier : Tier) (ranked : RankedChain) :
    ListedChain.ofJson (ranked.summary rank tier) = some ⟨rank, ranked.chain, tier⟩ := by
  rw [ListedChain.ofJson, RankedChain.summary, asRecord_full (by decide) (by rfl)]
  simp only [required_self, required_of_ne, ne_eq, String.reduceEq, not_false_eq_true, asNat_nat,
    Chain.ofJson_strings, Tier.ofJson_name, Option.bind_eq_bind, Option.bind_some, Option.pure_def]

theorem Level.ofJson_toJson (withAnswers : Bool) (level : Level) :
    Outline.levelOfJson (level.toJson withAnswers) = some (level.chain, level.tier) := by
  rw [Outline.levelOfJson, Level.toJson, asRecord_full (by decide) (by rfl)]
  simp only [required_self, required_of_ne, ne_eq, String.reduceEq, not_false_eq_true,
    Chain.ofJson_strings, Tier.ofJson_name, Option.bind_eq_bind, Option.bind_some, Option.pure_def]

theorem DroppedChain.ofJson_toJson (dropped : DroppedChain) :
    Outline.droppedOfJson dropped.toJson = some dropped.chain := by
  rw [Outline.droppedOfJson, DroppedChain.toJson, asRecord_full (by decide) (by rfl)]
  simp only [required_self, Chain.ofJson_strings, Option.bind_eq_bind, Option.bind_some]

theorem Curriculum.ofJson_toJson (withAnswers : Bool) (curriculum : Curriculum) :
    Outline.ofJson (curriculum.toJson withAnswers) = some curriculum.outline := by
  rw [Outline.ofJson, Curriculum.toJson, asRecord_full (by decide) (by rfl)]
  simp only [required_self, required_of_ne, ne_eq, String.reduceEq, not_false_eq_true,
    asList_map_of (Level.ofJson_toJson withAnswers), asList_map_of DroppedChain.ofJson_toJson,
    Option.bind_eq_bind, Option.bind_some, Option.pure_def, Curriculum.outline]

end CodeReading
