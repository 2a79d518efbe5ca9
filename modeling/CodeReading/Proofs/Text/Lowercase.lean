import CodeReading.Text.Blank
import CodeReading.Text.Lowercase

set_option autoImplicit false

namespace CodeReading.Text

theorem length_lowercaseAt (before : List Char) (c : Char) (after : List Char) :
    (lowercaseAt before c after).length = if c = '\u0130' then 2 else 1 := by
  unfold lowercaseAt
  split
  · rfl
  · split
    · split <;> rfl
    · rfl

theorem length_lowercaseFrom (before text : List Char) :
    (lowercaseFrom before text).length = text.length + text.count '\u0130' := by
  induction text generalizing before with
  | nil => rfl
  | cons c text ih =>
    unfold lowercaseFrom
    rw [List.length_append, length_lowercaseAt, ih, List.length_cons, List.count_cons]
    by_cases dotted : c = '\u0130'
    · rw [if_pos dotted, if_pos (beq_iff_eq.2 dotted)]
      omega
    · rw [if_neg dotted, if_neg (mt beq_iff_eq.1 dotted)]
      omega

/-- The neighbours of a character decide about its lower case, but not about how long that is. -/
theorem length_lowercase (text : List Char) :
    (lowercase text).length = text.length + text.count '\u0130' :=
  length_lowercaseFrom [] text

theorem isDigit_of_mem_toDigits {n : Nat} {c : Char} (mem : c ∈ Nat.toDigits 10 n) :
    c.isDigit = true :=
  Nat.isDigit_of_mem_toDigits (by decide) (by decide) mem

theorem toDigits_inj {m n : Nat} (same : Nat.toDigits 10 m = Nat.toDigits 10 n) : m = n := by
  rw [← Nat.ofDigitChars_ten_toDigits (n := m), same, Nat.ofDigitChars_ten_toDigits]

theorem isDigit_bounds {c : Char} (digit : c.isDigit = true) : 48 ≤ c.toNat ∧ c.toNat ≤ 57 := by
  simpa [Char.isDigit, UInt32.le_iff_toNat_le] using digit

theorem simpleLowercase_of_isDigit {c : Char} (digit : c.isDigit = true) :
    simpleLowercase c = c := by
  obtain ⟨low, high⟩ := isDigit_bounds digit
  have notUpper : ¬(65 ≤ c.toNat ∧ c.toNat ≤ 90) := by omega
  unfold simpleLowercase
  rw [if_pos (by omega)]
  exact dif_neg notUpper

theorem lowercaseFrom_of_isDigit {text : List Char} (digits : ∀ c ∈ text, c.isDigit = true)
    (before : List Char) : lowercaseFrom before text = text := by
  induction text generalizing before with
  | nil => rfl
  | cons c text ih =>
    rw [List.forall_mem_cons] at digits
    have notDotted : c ≠ '\u0130' := by
      rintro rfl
      cases digits.1
    have notSigma : c ≠ '\u03A3' := by
      rintro rfl
      cases digits.1
    unfold lowercaseFrom lowercaseAt
    rw [if_neg notDotted, if_neg notSigma, simpleLowercase_of_isDigit digits.1, ih digits.2,
      List.singleton_append]

theorem isBlank_of_isDigit {c : Char} (digit : c.isDigit = true) : isBlank c = false := by
  have wide : (wideBlanks.all fun blank => !blank.isDigit) = true := by decide
  refine Bool.eq_false_iff.2 fun blank => ?_
  simp only [isBlank, Bool.or_eq_true, Bool.and_eq_true, beq_iff_eq, decide_eq_true_eq,
    List.contains_iff_mem] at blank
  rcases blank with (rfl | ⟨-, small⟩) | mem
  · cases digit
  · have atMost : c.toNat ≤ 13 := small
    have atLeast := (isDigit_bounds digit).1
    omega
  · have other := List.all_eq_true.1 wide c mem
    rw [digit] at other
    cases other

end CodeReading.Text
