import Mathlib.Algebra.Order.Ring.Rat
import Mathlib.Analysis.SpecialFunctions.Pow.Real
import Mathlib.Analysis.SpecialFunctions.Trigonometric.Basic
import MeshLang.Proofs.Scalar.Exact

namespace MeshLang

/-- Numbers of an ordered field, where the root of a square is the number that it is the square
of. -/
class OrderedScalar (α : Type) [ExactScalar α] [LinearOrder α] : Prop extends
    IsStrictOrderedRing α where
  lt_iff : ∀ x y : α, Scalar.lt x y = true ↔ x < y
  le_iff : ∀ x y : α, Scalar.le x y = true ↔ x ≤ y
  eq_iff : ∀ x y : α, Scalar.eq x y = true ↔ x = y
  abs_eq : ∀ x : α, Scalar.abs x = |x|
  sqrt_mul_self : ∀ x : α, 0 ≤ x → Scalar.sqrt (x * x) = x

namespace Scalar

variable {α : Type} [ExactScalar α] [LinearOrder α] [OrderedScalar α] (x y : α)

theorem isUndefined_eq : isUndefined x = false := by
  rw [isUndefined, (OrderedScalar.eq_iff x x).mpr rfl]
  rfl

theorem min_eq_ite : Scalar.min x y = if lt y x then y else x := by
  rw [Scalar.min, isUndefined_eq]
  rfl

theorem max_eq_ite : Scalar.max x y = if lt x y then y else x := by
  rw [Scalar.max, isUndefined_eq]
  rfl

theorem min_eq : Scalar.min x y = Min.min x y := by
  rw [min_eq_ite, min_def']
  by_cases less : y < x
  · rw [if_pos ((OrderedScalar.lt_iff y x).mpr less), if_pos less.le]
  · rw [if_neg (mt (OrderedScalar.lt_iff y x).mp less)]
    split
    · exact le_antisymm (not_lt.mp less) ‹_›
    · rfl

theorem max_eq : Scalar.max x y = Max.max x y := by
  rw [max_eq_ite, max_def]
  by_cases less : x < y
  · rw [if_pos ((OrderedScalar.lt_iff x y).mpr less), if_pos less.le]
  · rw [if_neg (mt (OrderedScalar.lt_iff x y).mp less)]
    split
    · exact le_antisymm ‹_› (not_lt.mp less)
    · rfl

end Scalar

namespace Exact

theorem root?_mul_self (n : Nat) : root? (n * n) = some n := by
  unfold root?
  rw [List.find?_range_eq_some]
  refine ⟨beq_self_eq_true _, ?_, fun other less => ?_⟩
  · rw [List.mem_range]
    exact Nat.lt_succ_of_le (Nat.le_mul_self n)
  · have apart : other * other ≠ n * n := Nat.ne_of_lt (Nat.mul_self_lt_mul_self less)
    simp [apart]

theorem sqrt?_mul_self {q : Rat} (positive : 0 ≤ q) : sqrt? (q * q) = some q := by
  obtain ⟨n, num⟩ := Int.eq_ofNat_of_zero_le (Rat.num_nonneg.mpr positive)
  have above : (q * q).num = (n * n : Nat) := by rw [Rat.mul_self_num, num, Nat.cast_mul]
  have back : mkRat n q.den = q := by
    have whole := Rat.mkRat_self q
    rwa [num] at whole
  unfold sqrt?
  rw [above, Rat.mul_self_den, if_neg (Int.natCast_nonneg _).not_gt, Int.toNat_natCast, root?_mul_self,
    root?_mul_self]
  exact congrArg some back

end Exact

instance : OrderedScalar Rat where
  lt_iff _ _ := decide_eq_true_iff
  le_iff _ _ := decide_eq_true_iff
  eq_iff _ _ := decide_eq_true_iff
  abs_eq p := by
    show (if p < 0 then -p else p) = |p|
    split
    · exact (abs_of_neg ‹_›).symm
    · exact (abs_of_nonneg (not_lt.mp ‹_›)).symm
  sqrt_mul_self p positive := by
    show (Exact.sqrt? (p * p)).getD 0 = p
    rw [Exact.sqrt?_mul_self positive]
    rfl

open Classical in
noncomputable instance : ExactScalar Real where
  toField := inferInstance
  ofNat n := n
  ofDecimal d := d.digits * 10 ^ d.exponent
  pi := Real.pi
  infinity := 0
  nan := 0
  epsilon := 0
  smallestNormal := 0
  lt x y := decide (x < y)
  le x y := decide (x ≤ y)
  eq x y := decide (x = y)
  totalLe x y := decide (x ≤ y)
  isFinite _ := true
  abs x := |x|
  sqrt := Real.sqrt
  pow x y := x ^ y
  remainder x y := x - y * (if 0 ≤ x / y then ⌊x / y⌋ else ⌈x / y⌉ : Int)
  elementary _ _ := 0
  symmetricEigenvalues m := ⟨m.xx, m.yy, m.zz⟩
  symmetricEigen := Mat3.onAxes 0 1
  realEigenvalues m := ⟨m.xx, m.yy, m.zz⟩
  drawn _ _ positive := if positive then 1 else 0
  ofNat_eq _ := rfl

instance : OrderedScalar Real where
  lt_iff _ _ := decide_eq_true_iff
  le_iff _ _ := decide_eq_true_iff
  eq_iff _ _ := decide_eq_true_iff
  abs_eq _ := rfl
  sqrt_mul_self _ positive := Real.sqrt_mul_self positive

/-- Numbers that are sorted and searched in the order of the field. -/
class SortedScalar (α : Type) [ExactScalar α] [LinearOrder α] : Prop extends OrderedScalar α where
  totalLe_iff : ∀ x y : α, Scalar.totalLe x y = true ↔ x ≤ y

instance : SortedScalar Rat where
  totalLe_iff _ _ := decide_eq_true_iff

instance : SortedScalar Real where
  totalLe_iff _ _ := decide_eq_true_iff

end MeshLang
