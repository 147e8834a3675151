import Mathlib.Tactic.Ring
import MeshLang.Mesh.Block
import MeshLang.Proofs.Scalar.Ordered
import MeshLang.Proofs.Tensor.Space

namespace MeshLang

variable {α : Type}

namespace Vec3

variable [ExactScalar α] (v w : Vec3 α) (axis : Axis)

@[simp]
theorem add_entry : (v + w).entry axis = v.entry axis + w.entry axis := by cases axis <;> rfl

@[simp]
theorem sub_entry : (v - w).entry axis = v.entry axis - w.entry axis := by cases axis <;> rfl

@[simp]
theorem neg_entry : (-v).entry axis = -v.entry axis := by cases axis <;> rfl

@[simp]
theorem zero_entry : (0 : Vec3 α).entry axis = 0 := by rw [zero_def]; cases axis <;> rfl

@[simp]
theorem smul_entry (factor : α) : (factor • v).entry axis = factor * v.entry axis := by
  cases axis <;> exact mul_comm _ factor

theorem norm_neg : (-v).norm = v.norm := by
  simp [norm, normSquared, dot]

theorem dot_add (u : Vec3 α) : u.dot (v + w) = u.dot v + u.dot w := by
  simp only [dot, add_x, add_y, add_z]
  ring

end Vec3

section Along

variable [ExactScalar α]

def Axis.along (axis : Axis) (x : α) : Vec3 α :=
  match axis with
  | .x => ⟨x, 0, 0⟩
  | .y => ⟨0, x, 0⟩
  | .z => ⟨0, 0, x⟩

namespace Axis

variable (axis : Axis) (x y : α)

@[simp]
theorem along_entry : (axis.along x).entry axis = x := by cases axis <;> rfl

theorem along_entry_of_ne {other : Axis} (different : other ≠ axis) :
    (axis.along x).entry other = 0 := by
  cases axis <;> cases other <;> first | rfl | exact absurd rfl different

@[simp]
theorem along_next : (axis.along x).entry axis.next = 0 := by cases axis <;> rfl

@[simp]
theorem along_last : (axis.along x).entry axis.next.next = 0 := by cases axis <;> rfl

@[simp]
theorem entry_along_next : (axis.next.along x).entry axis = 0 := by cases axis <;> rfl

@[simp]
theorem entry_along_last : (axis.next.next.along x).entry axis = 0 := by cases axis <;> rfl

theorem smul_along : y • axis.along x = axis.along (y * x) := by
  cases axis <;> simp [along, Vec3.smul_def, mul_comm]

theorem along_dot (v : Vec3 α) : (axis.along x).dot v = x * v.entry axis := by
  cases axis <;> simp [along, Vec3.dot, Vec3.entry]

theorem dot_along (v : Vec3 α) : v.dot (axis.along x) = v.entry axis * x := by
  cases axis <;> simp [along, Vec3.dot, Vec3.entry]

theorem cross_along :
    (axis.next.along x).cross (axis.next.next.along y) = axis.along (x * y) := by
  cases axis <;> simp [along, next, Vec3.cross]

theorem norm_along [LinearOrder α] [OrderedScalar α] : (axis.along x).norm = |x| := by
  unfold Vec3.norm Vec3.normSquared
  rw [dot_along, along_entry, ← abs_mul_abs_self]
  exact OrderedScalar.sqrt_mul_self _ (abs_nonneg x)

theorem normalized_along [LinearOrder α] [OrderedScalar α] {x : α} (positive : 0 < x) :
    (axis.along x).normalized = axis.along 1 := by
  rw [Vec3.normalized, norm_along, abs_of_pos positive, Vec3.divide_def, smul_along,
    inv_mul_cancel₀ positive.ne']

end Axis

end Along

end MeshLang

namespace MeshLang

/-- Numbers of an ordered field where roots are not negative and multiply to what they are the roots
of. -/
class RootedScalar (α : Type) [ExactScalar α] [LinearOrder α] : Prop extends OrderedScalar α where
  sqrt_nonneg : ∀ x : α, 0 ≤ Scalar.sqrt x
  mul_self_sqrt : ∀ x : α, 0 ≤ x → Scalar.sqrt x * Scalar.sqrt x = x

instance : RootedScalar Real where
  sqrt_nonneg := Real.sqrt_nonneg
  mul_self_sqrt _ := Real.mul_self_sqrt

/-- Real numbers, with the spacing of double precision next to one as their tolerance. -/
def GuardedReal : Type := Real

namespace GuardedReal

noncomputable def tolerance : Real := ((2 ^ 52 : Nat) : Real)⁻¹

noncomputable instance : ExactScalar GuardedReal :=
  { (inferInstance : ExactScalar Real) with epsilon := tolerance }

noncomputable instance : LinearOrder GuardedReal := inferInstanceAs (LinearOrder Real)

instance : IsStrictOrderedRing GuardedReal := inferInstanceAs (IsStrictOrderedRing Real)

instance : RootedScalar GuardedReal :=
  { (inferInstance : RootedScalar Real) with }

theorem epsilon_pos : 0 < (Scalar.epsilon : GuardedReal) := by
  have positive : 0 < tolerance := by
    unfold tolerance
    positivity
  exact positive

end GuardedReal

end MeshLang

namespace MeshLang.Vec3

variable {α : Type} [ExactScalar α] [LinearOrder α] {v : Vec3 α}

section Ordered

variable [OrderedScalar α]

theorem normSquared_nonneg (v : Vec3 α) : 0 ≤ v.normSquared :=
  add_nonneg (add_nonneg (mul_self_nonneg v.x) (mul_self_nonneg v.y)) (mul_self_nonneg v.z)

theorem normSquared_eq_zero : v.normSquared = 0 ↔ v = 0 := by
  have x := mul_self_nonneg v.x
  have y := mul_self_nonneg v.y
  have z := mul_self_nonneg v.z
  show v.x * v.x + v.y * v.y + v.z * v.z = 0 ↔ v = 0
  rw [add_eq_zero_iff_of_nonneg (add_nonneg x y) z, add_eq_zero_iff_of_nonneg x y, mul_self_eq_zero,
    mul_self_eq_zero, mul_self_eq_zero, zero_def, Vec3.ext_iff, and_assoc]

end Ordered

variable [RootedScalar α]

theorem norm_nonneg (v : Vec3 α) : 0 ≤ v.norm := RootedScalar.sqrt_nonneg _

theorem norm_mul_self (v : Vec3 α) : v.norm * v.norm = v.normSquared :=
  RootedScalar.mul_self_sqrt _ v.normSquared_nonneg

theorem norm_eq_zero : v.norm = 0 ↔ v = 0 := by
  rw [← mul_self_eq_zero, norm_mul_self, normSquared_eq_zero]

theorem norm_pos (solid : v ≠ 0) : 0 < v.norm :=
  lt_of_le_of_ne v.norm_nonneg (Ne.symm fun flat => solid (norm_eq_zero.mp flat))

theorem normalized_dot_self (solid : v ≠ 0) : v.normalized.dot v.normalized = 1 := by
  have long : v.norm ≠ 0 := (norm_pos solid).ne'
  have squares : v.normalized.dot v.normalized = v.normSquared / (v.norm * v.norm) := by
    simp only [normalized, divide, map, dot, normSquared, div_mul_div_comm, add_div]
  rw [squares, norm_mul_self, div_self]
  exact fun flat => solid (normSquared_eq_zero.mp flat)

end MeshLang.Vec3
