import Mathlib.Algebra.Module.LinearMap.Basic
import MeshLang.Calculus
import MeshLang.Mesh.Block
import MeshLang.Proofs.Tensor.Space

namespace MeshLang

variable {α : Type} [ExactScalar α]

section Maps

def Vec3.entryMap (axis : Axis) : Vec3 α →ₗ[α] α where
  toFun v := v.entry axis
  map_add' v w := by cases axis <;> rfl
  map_smul' factor v := by cases axis <;> exact mul_comm _ factor

@[simp]
theorem Vec3.entryMap_apply (axis : Axis) (v : Vec3 α) : entryMap axis v = v.entry axis := rfl

def Mat3.entryMap (row column : Axis) : Mat3 α →ₗ[α] α where
  toFun m := m.entry row column
  map_add' m n := by cases row <;> cases column <;> rfl
  map_smul' factor m := by cases row <;> cases column <;> exact mul_comm _ factor

@[simp]
theorem Mat3.entryMap_apply (row column : Axis) (m : Mat3 α) :
    entryMap row column m = m.entry row column := rfl

theorem Mat3.outer_entry (v w : Vec3 α) (row column : Axis) :
    (Mat3.outer v w).entry row column = v.entry row * w.entry column := by
  cases row <;> cases column <;> rfl

theorem Vec3.scale_entry (v : Vec3 α) (factor : α) (axis : Axis) :
    (v.scale factor).entry axis = v.entry axis * factor := by
  cases axis <;> rfl

theorem Vec3.cross_entry (v w : Vec3 α) (axis : Axis) :
    (v.cross w).entry axis =
      v.entry axis.next * w.entry axis.next.next - v.entry axis.next.next * w.entry axis.next := by
  cases axis <;> rfl

theorem Mat3.trace_eq (m : Mat3 α) :
    m.trace = m.entry .x .x + m.entry .y .y + m.entry .z .z := by
  unfold trace
  rw [ExactScalar.zero_eq, zero_add]
  rfl

def Mat3.traceMap : Mat3 α →ₗ[α] α := entryMap .x .x + entryMap .y .y + entryMap .z .z

theorem Mat3.traceMap_apply (m : Mat3 α) : traceMap m = m.trace := (Mat3.trace_eq m).symm

theorem Mat3.transpose_apply_entry (m : Mat3 α) (v : Vec3 α) (axis : Axis) :
    (m.transpose.apply v).entry axis =
      v.x * m.entry .x axis + v.y * m.entry .y axis + v.z * m.entry .z axis := by
  rw [mul_comm v.x, mul_comm v.y, mul_comm v.z]
  cases axis <;> rfl

end Maps

namespace Mesh

section Linear

variable {ε δ γ : Type} [Element α ε] [AddCommGroup ε] [Module α ε] [LawfulElement α ε]
variable [Element α δ] [AddCommGroup δ] [Module α δ] [LawfulElement α δ]
variable (mesh : Mesh α) (f : ε →ₗ[α] δ)

theorem map_getD (values : List ε) (index : Nat) :
    f (values.getD index Element.zero) = (values.map f).getD index Element.zero := by
  rw [List.getD_eq_getElem?_getD, List.getD_eq_getElem?_getD, List.getElem?_map]
  cases values[index]? with
  | none => simp
  | some x => rfl

theorem map_faceValue (values : List ε) (face : Face α) :
    f (mesh.faceValue values face) = mesh.faceValue (values.map f) face := by
  unfold faceValue
  cases face.neighbour? with
  | none => exact map_getD f values face.owner
  | some neighbour =>
    simp only [LawfulElement.add_eq, LawfulElement.scale_eq, map_add, map_smul, map_getD]

theorem map_faceValues (values : List ε) :
    (mesh.faceValues values).map f = mesh.faceValues (values.map f) := by
  unfold faceValues
  rw [List.map_map]
  exact List.map_congr_left fun face _ => map_faceValue mesh f values face

theorem map_addSide (sign : α) (contribution sum : ε) (side : Side) :
    f (addSide sign contribution sum side) = addSide sign (f contribution) (f sum) side := by
  cases side with
  | owner => simp only [addSide, LawfulElement.add_eq, map_add]
  | neighbour => simp only [addSide, LawfulElement.add_eq, LawfulElement.scale_eq, map_add, map_smul]

theorem map_cellSum (sign : α) (contributions : List ε) (cell : Nat) :
    f (mesh.cellSum sign contributions cell) = mesh.cellSum sign (contributions.map f) cell := by
  have start : f Element.zero = Element.zero := by
    rw [LawfulElement.zero_eq, LawfulElement.zero_eq, map_zero]
  unfold cellSum
  rw [List.zip_map_right, List.foldl_map, ← start]
  refine (List.foldl_hom f fun sum pair => ?_).symm
  exact List.foldl_hom f fun sum side => (map_addSide f sign pair.2 sum side).symm

theorem map_netOutflow (contributions : List ε) :
    (mesh.netOutflow contributions).map f = mesh.netOutflow (contributions.map f) := by
  unfold netOutflow accumulate
  rw [List.map_map]
  exact List.map_congr_left fun cell _ => map_cellSum mesh f _ contributions cell

theorem map_perVolume (values : List ε) :
    (mesh.perVolume values).map f = mesh.perVolume (values.map f) := by
  unfold perVolume
  rw [List.map_zipWith, List.zipWith_map_left]
  congr 1
  funext x volume
  rw [LawfulElement.scale_eq, LawfulElement.scale_eq, map_smul]

theorem map_gauss {ρ : Type} [Element α ρ] (product : Vec3 α → ρ → ε) (values : List ρ) :
    (mesh.gauss product values).map f = mesh.gauss (fun area x => f (product area x)) values := by
  unfold gauss
  rw [map_perVolume, map_netOutflow, List.map_zipWith]

theorem gauss_map [Element α γ] (product : Vec3 α → δ → γ) (values : List ε) :
    mesh.gauss product (values.map f) = mesh.gauss (fun area x => product area (f x)) values := by
  unfold gauss
  rw [← map_faceValues, List.zipWith_map_right]

end Linear

end Mesh

end MeshLang
