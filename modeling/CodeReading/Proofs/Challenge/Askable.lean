import CodeReading.Proofs.Challenge.Choice
import CodeReading.Proofs.Challenge.Success

set_option autoImplicit false

namespace CodeReading

namespace Options

theorem folded_repr (n : Nat) : folded n.repr = Nat.toDigits 10 n := by
  unfold folded Text.lowercase
  rw [Nat.toList_repr]
  exact Text.lowercaseFrom_of_isDigit (fun _ => Text.isDigit_of_mem_toDigits) []

theorem folded_repr_inj {a b : Nat} : folded a.repr = folded b.repr ↔ a = b := by
  refine ⟨fun same => ?_, fun same => same ▸ rfl⟩
  rw [folded_repr, folded_repr] at same
  exact Text.toDigits_inj same

theorem allBlank_repr (n : Nat) : Text.allBlank n.repr.toList = false := by
  obtain ⟨c, mem⟩ := List.exists_mem_of_ne_nil (Nat.toDigits 10 n) Nat.toDigits_ne_nil
  rw [Nat.toList_repr]
  exact Text.allBlank_eq_false mem (Text.isBlank_of_isDigit (Text.isDigit_of_mem_toDigits mem))

end Options

namespace MultipleChoice

variable {g : CallGraph} {chain : Chain} {entry : Node} {m : Material}
  {template : QuestionTemplate}

theorem neighbours_fresh (fewer : Nat) : Options.Fresh [Options.folded (fewer + 1).repr]
    [fewer.repr, (fewer + 2).repr, (fewer + 3).repr] where
  distinct := by simp [Options.folded_repr_inj]
  unseen := by simp [Options.folded_repr_inj]
  shown := by
    simp only [List.forall_mem_cons, Options.allBlank_repr, true_and]
    exact nofun

theorem parameterCountFact_isSome (h : entry.parameters ≠ []) :
    (parameterCountFact entry).isSome := by
  obtain ⟨fewer, count⟩ := Nat.exists_eq_succ_of_ne_zero (mt List.length_eq_zero_iff.1 h)
  have distractors := Options.distractors?_isSome (neighbours_fresh fewer) (List.Subset.refl _)
    (Nat.le_refl 3)
  obtain ⟨wrong, picked⟩ := Option.isSome_iff_exists.1 distractors
  simp [parameterCountFact, count, picked]

/-- Whether the entry of a chain has what a template asks for. -/
def HasFact (chain : Chain) (entry : Node) : QuestionTemplate → Prop
  | .returnType => entry.returnType.isSome
  | .parameterCount => entry.parameters ≠ []
  | .callTarget => (∃ callee, callee ∈ entry.calls) ∨ 2 ≤ chain.length
  | .purpose => entry.docSummary.isSome

theorem isSome_target_iff :
    (chain.second?.or entry.calls.ids.head?).isSome ↔ HasFact chain entry .callTarget := by
  have second : chain.second?.isSome ↔ 2 ≤ chain.length := by
    simp [Chain.second?, Chain.length, Nat.succ_le_iff]
  have called : entry.calls.ids.head?.isSome ↔ ∃ callee, callee ∈ entry.calls := by
    rw [List.isSome_head?]
    constructor
    · exact List.exists_mem_of_ne_nil _
    · rintro ⟨callee, mem⟩
      exact List.ne_nil_of_mem mem
  rw [Option.isSome_or, Bool.or_eq_true, second, called, or_comm]
  rfl

theorem IsFactOf.hasFact {text : String} (h : IsFactOf g chain entry template text) :
    HasFact chain entry template := by
  cases h with
  | returnType returns => exact Option.isSome_iff_exists.2 ⟨_, returns⟩
  | parameterCount some => exact some
  | nextCall next => exact isSome_target_iff.1 (by simp [next])
  | firstCall _ called _ => exact Or.inl ⟨_, called⟩
  | purpose documented => exact Option.isSome_iff_exists.2 ⟨_, documented⟩

/-- A template fails for want of its fact only, never for want of wrong options. -/
theorem fact?_isSome_iff (template : QuestionTemplate) :
    (fact? g chain entry template).isSome ↔ HasFact chain entry template := by
  constructor
  · intro some
    obtain ⟨fact, isFact⟩ := Option.isSome_iff_exists.1 some
    exact (of_fact? isFact).1.hasFact
  · intro has
    cases template with
    | returnType => exact returnTypeFact_isSome has
    | parameterCount => exact parameterCountFact_isSome has
    | callTarget => exact callTargetFact_isSome (isSome_target_iff.2 has)
    | purpose =>
      exact pooledFact_isSome (by decide +kernel) (by decide +kernel) (by decide) has

theorem question?_isSome_iff :
    (question? g chain entry).isSome ↔ ∃ template, HasFact chain entry template := by
  constructor
  · intro some
    obtain ⟨template, -, tried⟩ := List.findSome?_isSome_iff.1 some
    rw [Option.isSome_map] at tried
    exact ⟨template, (fact?_isSome_iff template).1 tried⟩
  · rintro ⟨template, has⟩
    exact question?_isSome template ((fact?_isSome_iff template).2 has)

theorem exists_hasFact_iff : (∃ template, HasFact chain entry template) ↔
    entry.returnType.isSome ∨ entry.parameters ≠ [] ∨ (∃ callee, callee ∈ entry.calls) ∨
      entry.docSummary.isSome ∨ 2 ≤ chain.length := by
  constructor
  · rintro ⟨template, has⟩
    cases template with
    | returnType => exact Or.inl has
    | parameterCount => exact Or.inr (Or.inl has)
    | callTarget =>
      rcases has with called | long
      · exact Or.inr (Or.inr (Or.inl called))
      · exact Or.inr (Or.inr (Or.inr (Or.inr long)))
    | purpose => exact Or.inr (Or.inr (Or.inr (Or.inl has)))
  · rintro (returns | some | called | documented | long)
    · exact ⟨.returnType, returns⟩
    · exact ⟨.parameterCount, some⟩
    · exact ⟨.callTarget, Or.inl called⟩
    · exact ⟨.purpose, documented⟩
    · exact ⟨.callTarget, Or.inr long⟩

/-- A question can be asked exactly about a known entry that has something to ask for. -/
theorem generate_isOk_iff (m : Material) (chain : Chain) :
    (∃ challenge, generate m chain = .ok challenge) ↔
      ∃ entry, m.graph.node? chain.entry = some entry ∧
        (entry.returnType.isSome ∨ entry.parameters ≠ [] ∨ (∃ callee, callee ∈ entry.calls) ∨
          entry.docSummary.isSome ∨ 2 ≤ chain.length) := by
  constructor
  · rintro ⟨challenge, succeeds⟩
    obtain ⟨entry, template, fact, found, isFact, -⟩ := generate_eq_ok succeeds
    exact ⟨entry, found, exists_hasFact_iff.1 ⟨template, (of_fact? isFact).1.hasFact⟩⟩
  · rintro ⟨entry, found, askable⟩
    exact generate_isOk found (question?_isSome_iff.2 (exists_hasFact_iff.2 askable))

end MultipleChoice
end CodeReading
