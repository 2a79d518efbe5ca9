import CodeReading.Challenge.Generation
import CodeReading.Proofs.Outcome

set_option autoImplicit false

namespace CodeReading

theorem dropRepeats_ne_nil {α : Type} [DecidableEq α] {xs : List α} (h : xs ≠ []) :
    dropRepeats xs ≠ [] := by
  cases xs with
  | nil => contradiction
  | cons x xs =>
    unfold dropRepeats
    split
    · simp
    · split <;> simp

theorem Hints.ladder_ne_nil (node : Node) (others : List String) :
    Hints.ladder node others ≠ [] :=
  dropRepeats_ne_nil (by simp [Hints.about])

namespace ChallengeKind

theorem mem_all (kind : ChallengeKind) : kind ∈ all := by
  cases kind <;> decide

theorem idPrefix_injective {a b : ChallengeKind} (h : a.idPrefix = b.idPrefix) : a = b := by
  cases a <;> cases b <;> first | rfl | exact absurd h (by decide)

end ChallengeKind

namespace Material

structure IsMade (m : Material) (chain : Chain) (kind : ChallengeKind) (challenge : Challenge) :
    Prop where
  kind_eq : challenge.kind = kind
  id_eq : challenge.id = kind.idPrefix ++ "_" ++ chain.entry
  hints_ne : challenge.hints ≠ []
  points_eq : challenge.points = m.config.points.get kind

variable {m : Material} {chain : Chain} {kind : ChallengeKind} {challenge : Challenge}

theorem isMade_challenge (spec : ChallengeSpec) {hints : List String} (h : hints ≠ []) :
    m.IsMade chain spec.kind (m.challenge chain spec hints) :=
  ⟨rfl, rfl, h, rfl⟩

theorem isMade_multipleChoice (h : MultipleChoice.generate m chain = .ok challenge) :
    m.IsMade chain .multipleChoice challenge := by
  unfold MultipleChoice.generate at h
  obtain ⟨entry, -, h⟩ := bind_eq_ok_iff.1 h
  obtain ⟨question, -, h⟩ := bind_eq_ok_iff.1 h
  cases h
  exact isMade_challenge (.multipleChoice _) (Hints.ladder_ne_nil _ _)

theorem isMade_codeTracing (h : CodeTracing.generate m chain = .ok challenge) :
    m.IsMade chain .codeTracing challenge := by
  unfold CodeTracing.generate at h
  dsimp only at h
  split at h
  · cases h
  · split at h
    · cases h
      exact isMade_challenge (.codeTracing _) (Hints.ladder_ne_nil _ _)
    · cases h

theorem isMade_fillBlank (h : FillBlank.generate m chain = .ok challenge) :
    m.IsMade chain .fillBlank challenge := by
  unfold FillBlank.generate at h
  obtain ⟨target, -, h⟩ := bind_eq_ok_iff.1 h
  cases h
  exact isMade_challenge (.fillBlank _) (Hints.ladder_ne_nil _ _)

theorem isMade_codeCompletion (h : CodeCompletion.generate m chain = .ok challenge) :
    m.IsMade chain .codeCompletion challenge := by
  unfold CodeCompletion.generate at h
  obtain ⟨node, -, h⟩ := bind_eq_ok_iff.1 h
  cases h
  exact isMade_challenge (.codeCompletion _) (Hints.ladder_ne_nil _ _)

theorem isMade_debugging (h : Debugging.generate m chain = .ok challenge) :
    m.IsMade chain .debugging challenge := by
  unfold Debugging.generate at h
  obtain ⟨node, -, h⟩ := bind_eq_ok_iff.1 h
  obtain ⟨fault, -, h⟩ := bind_eq_ok_iff.1 h
  cases h
  exact isMade_challenge (.debugging _) (Hints.ladder_ne_nil _ _)

theorem isMade_architecture (h : Architecture.generate m chain = .ok challenge) :
    m.IsMade chain .architecture challenge := by
  unfold Architecture.generate at h
  dsimp only at h
  split at h
  · cases h
  · split at h
    · cases h
    · split at h
      · cases h
      · cases h
        exact isMade_challenge (.architecture _) (Hints.ladder_ne_nil _ _)

theorem isMade_of_attempt (h : m.attempt chain kind = .ok challenge) :
    m.IsMade chain kind challenge := by
  cases kind with
  | multipleChoice => exact isMade_multipleChoice h
  | codeTracing => exact isMade_codeTracing h
  | fillBlank => exact isMade_fillBlank h
  | codeCompletion => exact isMade_codeCompletion h
  | debugging => exact isMade_debugging h
  | architecture => exact isMade_architecture h

theorem generate_eq_ok_iff :
    m.generate chain kind = .ok challenge ↔ m.attempt chain kind = .ok challenge :=
  mapError_eq_ok_iff

theorem generate_eq_error_iff {gap : Gap} : m.generate chain kind = .error gap ↔
    ∃ reason, m.attempt chain kind = .error reason ∧ gap = ⟨kind, chain.entry, reason⟩ :=
  mapError_eq_error_iff

theorem IsMade.kind_eq_of_id {a b : ChallengeKind} {other : Challenge}
    (ha : m.IsMade chain a challenge) (hb : m.IsMade chain b other)
    (h : challenge.id = other.id) : a = b := by
  rw [ha.id_eq, hb.id_eq] at h
  refine ChallengeKind.idPrefix_injective (String.toList_inj.1 ?_)
  have lists := String.toList_inj.2 h
  simp only [String.toList_append] at lists
  exact List.append_cancel_right (List.append_cancel_right lists)

end Material
end CodeReading
