import CodeReading.Chain.Difficulty
import CodeReading.Proofs.Config.Validation
import CodeReading.Proofs.Scalar
import Mathlib.Data.List.Chain

set_option autoImplicit false

namespace CodeReading

theorem isChain_of_neighbours {α : Type} {R : α → α → Prop} {xs : List α}
    (h : ∀ pair ∈ neighbours xs, R pair.1 pair.2) : xs.IsChain R := by
  induction xs with
  | nil => exact .nil
  | cons x xs ih =>
    cases xs with
    | nil => exact .singleton x
    | cons y ys =>
      have pairs : neighbours (x :: y :: ys) = (x, y) :: neighbours (y :: ys) := rfl
      rw [pairs, List.forall_mem_cons] at h
      exact .cons_cons h.1 (ih h.2)

theorem Tier.le_refl (tier : Tier) : tier ≤ tier :=
  Nat.le_refl tier.rank

theorem Tier.le_expert (tier : Tier) : tier ≤ .expert := by
  cases tier <;> decide

/-- Whether a band ends below another one and has an easier tier. -/
def DifficultyBand.Under (band other : DifficultyBand) : Prop :=
  band.below < other.below ∧ band.tier < other.tier

instance : Trans DifficultyBand.Under DifficultyBand.Under DifficultyBand.Under where
  trans ab bc := ⟨Scalar.lt_trans ab.1 bc.1, Nat.lt_trans ab.2 bc.2⟩

theorem pairwise_under {bands : List DifficultyBand} (sound : bandFaults bands = []) :
    bands.Pairwise DifficultyBand.Under := by
  simp only [bandFaults, List.append_eq_nil_iff, faultIf_eq_nil_iff, List.any_eq_false,
    Bool.not_eq_true, Bool.not_eq_false', Bool.or_eq_true, decide_eq_true_eq, not_or] at sound
  obtain ⟨⟨finite, increasing⟩, -⟩ := sound
  rw [← List.isChain_iff_pairwise]
  refine isChain_of_neighbours fun pair mem => ?_
  obtain ⟨bound, tier⟩ := increasing pair mem
  obtain ⟨band, next⟩ := pair
  have members := List.of_mem_zip mem
  have isNumber := Scalar.isNumber_of_isFinite (finite band members.1)
  have nextIsNumber := Scalar.isNumber_of_isFinite (finite next (List.mem_of_mem_tail members.2))
  exact ⟨Scalar.lt_of_not_le isNumber nextIsNumber bound, Nat.lt_of_not_le tier⟩

namespace DifficultyConfig

def tierIn (bands : List DifficultyBand) (score : Scalar) : Tier :=
  match bands.find? fun band => score < band.below with
  | some band => band.tier
  | none => .expert

theorem tier_eq (config : DifficultyConfig) (score : Scalar) :
    config.tier score = tierIn config.bands score := rfl

variable {bands : List DifficultyBand} {band : DifficultyBand} {s t : Scalar}

theorem tierIn_cons_of_lt (h : s < band.below) : tierIn (band :: bands) s = band.tier := by
  unfold tierIn
  rw [List.find?_cons_of_pos (by simpa using h)]

theorem tierIn_cons_of_not_lt (h : ¬s < band.below) :
    tierIn (band :: bands) s = tierIn bands s := by
  unfold tierIn
  rw [List.find?_cons_of_neg (by simpa using h)]

theorem le_tierIn {tier : Tier} (harder : ∀ band ∈ bands, tier < band.tier) (s : Scalar) :
    tier ≤ tierIn bands s := by
  induction bands with
  | nil => exact tier.le_expert
  | cons band bands ih =>
    rw [List.forall_mem_cons] at harder
    by_cases below : s < band.below
    · rw [tierIn_cons_of_lt below]
      exact Nat.le_of_lt harder.1
    · rw [tierIn_cons_of_not_lt below]
      exact ih harder.2

/-- A higher score passes every band that a lower one passes, and the later bands are harder. -/
theorem tierIn_mono (increasing : bands.Pairwise DifficultyBand.Under) (le : s ≤ t) :
    tierIn bands s ≤ tierIn bands t := by
  induction bands with
  | nil => exact Tier.le_refl _
  | cons band bands ih =>
    rw [List.pairwise_cons] at increasing
    by_cases above : t < band.below
    · rw [tierIn_cons_of_lt above, tierIn_cons_of_lt (Scalar.lt_of_le_of_lt le above)]
      exact Tier.le_refl _
    · rw [tierIn_cons_of_not_lt above]
      by_cases below : s < band.below
      · rw [tierIn_cons_of_lt below]
        exact le_tierIn (fun other mem => (increasing.1 other mem).2) t
      · rw [tierIn_cons_of_not_lt below]
        exact ih increasing.2

theorem tierIn_eq_expert (increasing : bands.Pairwise DifficultyBand.Under)
    (past : ∀ last, bands.getLast? = some last → last.below ≤ t) : tierIn bands t = .expert := by
  induction bands with
  | nil => rfl
  | cons band bands ih =>
    rw [List.pairwise_cons] at increasing
    cases bands with
    | nil => exact tierIn_cons_of_not_lt (Scalar.not_lt_of_le (past band rfl))
    | cons next bands =>
      have rest : ∀ last, (next :: bands).getLast? = some last → last.below ≤ t := by
        intro last isLast
        exact past last (by rw [List.getLast?_cons_cons, isLast])
      obtain ⟨last, isLast⟩ : ∃ last, (next :: bands).getLast? = some last :=
        ⟨_, List.getLast?_eq_some_getLast (List.cons_ne_nil _ _)⟩
      have under := increasing.1 last (List.mem_of_getLast? isLast)
      have passed : band.below ≤ t :=
        Scalar.le_of_lt (Scalar.lt_of_lt_of_le under.1 (rest last isLast))
      rw [tierIn_cons_of_not_lt (Scalar.not_lt_of_le passed)]
      exact ih increasing.2 rest

end DifficultyConfig

theorem Config.pairwise_bands {config : Config} (valid : config.faults = []) :
    config.difficulty.bands.Pairwise DifficultyBand.Under := by
  simp only [Config.faults, DifficultyConfig.faults, List.append_eq_nil_iff] at valid
  obtain ⟨⟨⟨⟨-, -, sound⟩, -⟩, -⟩, -⟩ := valid
  exact pairwise_under sound

end CodeReading
