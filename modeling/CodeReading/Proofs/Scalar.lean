import CodeReading.Scalar
import Mathlib.Algebra.Order.Ring.Int
import Mathlib.Data.Prod.Lex
import Mathlib.Order.Defs.LinearOrder

set_option autoImplicit false

namespace CodeReading.Scalar

open Float.Model (UnpackedFloat)

def isNumber : Scalar → Bool
  | .number x => !x.isNaN
  | .undefined _ => false

/-- By sign, with infinity beyond it, then by exponent, then by digits. -/
abbrev Place := ℤ ×ₗ ℤ ×ₗ ℤ

def unpackedPlace? : UnpackedFloat → Option Place
  | .notANumber => none
  | .infinity .negative => some (toLex (-2, toLex (0, 0)))
  | .finite .negative digits exponent _ => some (toLex (-1, toLex (-exponent, -(digits : ℤ))))
  | .zero _ => some (toLex (0, toLex (0, 0)))
  | .finite .positive digits exponent _ => some (toLex (1, toLex (exponent, (digits : ℤ))))
  | .infinity .positive => some (toLex (2, toLex (0, 0)))

def place? : Scalar → Option Place
  | .number x => unpackedPlace? x.toModel.unpack
  | .undefined _ => none

section Unpacked

variable {e e' : ℤ} {m m' : ℕ} {u v : UnpackedFloat}

theorem then_compare_eq_lt :
    (compare e e').then (compare m m') = .lt ↔ e < e' ∨ e = e' ∧ m < m' := by
  rw [Ordering.then_eq_lt, Int.compare_eq_lt, Int.compare_eq_eq, Nat.compare_eq_lt]

theorem then_compare_eq_gt :
    (compare e e').then (compare m m') = .gt ↔ e' < e ∨ e = e' ∧ m' < m := by
  rw [Ordering.then_eq_gt, Int.compare_eq_gt, Int.compare_eq_eq, Nat.compare_eq_gt]

theorem isLE_then_compare :
    ((compare e e').then (compare m m')).isLE = true ↔ e < e' ∨ e = e' ∧ m ≤ m' := by
  rw [Ordering.isLE_then_iff_or, Int.compare_eq_lt, Int.compare_eq_eq, Nat.isLE_compare]

theorem isGE_then_compare :
    ((compare e e').then (compare m m')).isGE = true ↔ e' < e ∨ e = e' ∧ m' ≤ m := by
  rw [← Ordering.isLE_swap, Ordering.swap_then, Int.compare_swap, Nat.compare_swap,
    isLE_then_compare, eq_comm]

theorem compare_sign (sign other : UnpackedFloat.Sign) : compare sign other =
    match sign, other with
    | .negative, .positive => .lt
    | .positive, .negative => .gt
    | _, _ => .eq := by
  cases sign <;> cases other <;> rfl

theorem unpacked_le_iff :
    u.le v = true ↔ ∃ x ∈ unpackedPlace? u, ∃ y ∈ unpackedPlace? v, x ≤ y := by
  rcases u with (_ | _) | _ | _ | ⟨_ | _, m, e, _⟩ <;>
    rcases v with (_ | _) | _ | _ | ⟨_ | _, m', e', _⟩ <;>
      dsimp only [UnpackedFloat.le, UnpackedFloat.compare, unpackedPlace?] <;>
        simp [Prod.Lex.toLex_le_toLex, isLE_then_compare, isGE_then_compare, compare_sign]

theorem unpacked_lt_iff :
    u.lt v = true ↔ ∃ x ∈ unpackedPlace? u, ∃ y ∈ unpackedPlace? v, x < y := by
  rcases u with (_ | _) | _ | _ | ⟨_ | _, m, e, _⟩ <;>
    rcases v with (_ | _) | _ | _ | ⟨_ | _, m', e', _⟩ <;>
      dsimp only [UnpackedFloat.lt, UnpackedFloat.compare, unpackedPlace?] <;>
        simp [Prod.Lex.toLex_lt_toLex, then_compare_eq_lt, then_compare_eq_gt, compare_sign]

theorem isSome_unpackedPlace? : (unpackedPlace? u).isSome = !u.isNaN := by
  rcases u with (_ | _) | _ | _ | ⟨_ | _, m, e, _⟩ <;> rfl

end Unpacked

variable {a b c : Scalar}

theorem compares_iff {test : Float → Float → Bool} {related : Place → Place → Prop}
    (numbers : ∀ x y : Float, test x y = true ↔
      ∃ p ∈ unpackedPlace? x.toModel.unpack, ∃ q ∈ unpackedPlace? y.toModel.unpack, related p q) :
    compares test a b = true ↔ ∃ p ∈ place? a, ∃ q ∈ place? b, related p q := by
  cases a with
  | undefined => simp [compares, place?]
  | number x =>
    cases b with
    | undefined => simp [compares, place?]
    | number y => exact numbers x y

theorem le_iff : a ≤ b ↔ ∃ x ∈ place? a, ∃ y ∈ place? b, x ≤ y := by
  refine compares_iff fun x y => decide_eq_true_iff.trans ?_
  change decide (Float.Model.le x.toModel y.toModel = true) = true ↔ _
  rw [decide_eq_true_eq]
  exact unpacked_le_iff

theorem lt_iff : a < b ↔ ∃ x ∈ place? a, ∃ y ∈ place? b, x < y := by
  refine compares_iff fun x y => decide_eq_true_iff.trans ?_
  change decide (Float.Model.lt x.toModel y.toModel = true) = true ↔ _
  rw [decide_eq_true_eq]
  exact unpacked_lt_iff

theorem isSome_place? : a.place?.isSome = a.isNumber := by
  cases a with
  | undefined => rfl
  | number x => exact isSome_unpackedPlace?

theorem isNumber_iff : a.isNumber = true ↔ ∃ x, x ∈ place? a := by
  rw [← isSome_place?, Option.isSome_iff_exists]
  rfl

theorem isNumber_of_isFinite (finite : a.isFinite = true) : a.isNumber = true := by
  cases a with
  | undefined => cases finite
  | number x =>
    change x.toModel.unpack.isFinite = true at finite
    rw [← isSome_place?, place?]
    cases unpacked : x.toModel.unpack with
    | notANumber =>
      rw [unpacked] at finite
      cases finite
    | infinity sign => cases sign <;> rfl
    | zero sign => rfl
    | finite sign digits exponent positive => cases sign <;> rfl

theorem lt_of_not_le (ha : a.isNumber = true) (hb : b.isNumber = true) (h : ¬b ≤ a) : a < b := by
  obtain ⟨x, hx⟩ := isNumber_iff.1 ha
  obtain ⟨y, hy⟩ := isNumber_iff.1 hb
  refine lt_iff.2 ⟨x, hx, y, hy, ?_⟩
  exact lt_of_not_ge fun le => h (le_iff.2 ⟨y, hy, x, hx, le⟩)

theorem le_of_lt (h : a < b) : a ≤ b := by
  obtain ⟨x, hx, y, hy, lt⟩ := lt_iff.1 h
  exact le_iff.2 ⟨x, hx, y, hy, lt.le⟩

theorem not_lt_of_le (h : a ≤ b) : ¬b < a := by
  intro before
  obtain ⟨x, hx, y, hy, le⟩ := le_iff.1 h
  obtain ⟨y', hy', x', hx', lt⟩ := lt_iff.1 before
  cases hx.symm.trans hx'
  cases hy.symm.trans hy'
  exact le.not_gt lt

theorem lt_of_le_of_lt (ab : a ≤ b) (bc : b < c) : a < c := by
  obtain ⟨x, hx, y, hy, le⟩ := le_iff.1 ab
  obtain ⟨y', hy', z, hz, lt⟩ := lt_iff.1 bc
  cases hy.symm.trans hy'
  exact lt_iff.2 ⟨x, hx, z, hz, le.trans_lt lt⟩

theorem lt_of_lt_of_le (ab : a < b) (bc : b ≤ c) : a < c := by
  obtain ⟨x, hx, y, hy, lt⟩ := lt_iff.1 ab
  obtain ⟨y', hy', z, hz, le⟩ := le_iff.1 bc
  cases hy.symm.trans hy'
  exact lt_iff.2 ⟨x, hx, z, hz, lt.trans_le le⟩

theorem lt_trans (ab : a < b) (bc : b < c) : a < c :=
  lt_of_lt_of_le ab (le_of_lt bc)

end CodeReading.Scalar
