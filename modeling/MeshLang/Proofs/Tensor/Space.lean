import Mathlib.Algebra.BigOperators.Group.List.Basic
import Mathlib.Algebra.Module.Defs
import MeshLang.Linear
import MeshLang.Proofs.Scalar.Exact

namespace MeshLang

attribute [ext] Vec3 Mat3

variable {α : Type} [ExactScalar α]

namespace Vec3

instance : Zero (Vec3 α) := ⟨zero⟩

instance : SMul α (Vec3 α) := ⟨fun factor v => v.scale factor⟩

theorem zero_def : (0 : Vec3 α) = ⟨0, 0, 0⟩ := by
  show zero = _
  simp only [zero, uniform, ExactScalar.zero_eq]

theorem smul_def (factor : α) (v : Vec3 α) :
    factor • v = ⟨v.x * factor, v.y * factor, v.z * factor⟩ := rfl

instance : AddCommGroup (Vec3 α) where
  add_assoc u v w := by ext <;> exact add_assoc _ _ _
  zero_add v := by rw [zero_def]; ext <;> exact zero_add _
  add_zero v := by rw [zero_def]; ext <;> exact add_zero _
  add_comm v w := by ext <;> exact add_comm _ _
  neg_add_cancel v := by rw [zero_def]; ext <;> exact neg_add_cancel _
  sub_eq_add_neg v w := by ext <;> exact sub_eq_add_neg _ _
  nsmul := nsmulRec
  zsmul := zsmulRec

instance : Module α (Vec3 α) where
  one_smul v := by ext <;> exact mul_one _
  mul_smul a b v := by ext <;> exact (mul_left_comm _ _ _).symm.trans (mul_comm _ _)
  smul_zero a := by simp only [smul_def, zero_def, zero_mul]
  smul_add a v w := by ext <;> exact add_mul _ _ _
  add_smul a b v := by ext <;> exact mul_add _ _ _
  zero_smul v := by simp only [smul_def, zero_def, mul_zero]

theorem scale_def (v : Vec3 α) (factor : α) : v.scale factor = factor • v := rfl

theorem divide_def (v : Vec3 α) (divisor : α) : v.divide divisor = divisor⁻¹ • v := by
  ext <;> exact div_eq_mul_inv _ _

end Vec3

namespace Mat3

instance : Zero (Mat3 α) := ⟨zero⟩

instance : SMul α (Mat3 α) := ⟨fun factor m => m.scale factor⟩

theorem zero_def : (0 : Mat3 α) = ⟨0, 0, 0, 0, 0, 0, 0, 0, 0⟩ := by
  show zero = _
  simp only [zero, ofRows, Vec3.zero, Vec3.uniform, ExactScalar.zero_eq]

instance : AddCommGroup (Mat3 α) where
  add_assoc m n k := by ext <;> exact add_assoc _ _ _
  zero_add m := by rw [zero_def]; ext <;> exact zero_add _
  add_zero m := by rw [zero_def]; ext <;> exact add_zero _
  add_comm m n := by ext <;> exact add_comm _ _
  neg_add_cancel m := by rw [zero_def]; ext <;> exact neg_add_cancel _
  sub_eq_add_neg m n := by ext <;> exact sub_eq_add_neg _ _
  nsmul := nsmulRec
  zsmul := zsmulRec

instance : Module α (Mat3 α) where
  one_smul m := by ext <;> exact mul_one _
  mul_smul a b m := by ext <;> exact (mul_left_comm _ _ _).symm.trans (mul_comm _ _)
  smul_zero a := by rw [zero_def]; ext <;> exact zero_mul _
  smul_add a m n := by ext <;> exact add_mul _ _ _
  add_smul a b m := by ext <;> exact mul_add _ _ _
  zero_smul m := by rw [zero_def]; ext <;> exact mul_zero _

end Mat3

/-- The operations of elements are those of a module over the numbers. -/
class LawfulElement (α : outParam Type) (ε : Type) [ExactScalar α] [Element α ε] [AddCommGroup ε]
    [Module α ε] : Prop where
  zero_eq : (Element.zero : ε) = 0
  add_eq : ∀ x y : ε, Element.add x y = x + y
  scale_eq : ∀ (x : ε) (a : α), Element.scale x a = a • x

instance : LawfulElement α α where
  zero_eq := ExactScalar.zero_eq
  add_eq _ _ := rfl
  scale_eq x a := mul_comm x a

instance : LawfulElement α (Vec3 α) where
  zero_eq := rfl
  add_eq _ _ := rfl
  scale_eq _ _ := rfl

instance : LawfulElement α (Mat3 α) where
  zero_eq := rfl
  add_eq _ _ := rfl
  scale_eq _ _ := rfl

def Element.sum {ε : Type} [Element α ε] (xs : List ε) : ε := xs.foldl Element.add Element.zero

attribute [simp] LawfulElement.zero_eq LawfulElement.add_eq LawfulElement.scale_eq

theorem Element.sum_eq {ε : Type} [Element α ε] [AddCommGroup ε] [Module α ε] [LawfulElement α ε]
    (xs : List ε) : Element.sum xs = xs.sum := by
  unfold Element.sum
  rw [List.sum_eq_foldl]
  simp only [LawfulElement.zero_eq]
  congr 1
  funext x y
  exact LawfulElement.add_eq x y

end MeshLang
