import Mathlib.Algebra.BigOperators.GroupWithZero.Action
import Mathlib.Tactic.Module
import MeshLang.Mesh.Geometry
import MeshLang.Proofs.Tensor.Space

namespace MeshLang

variable {α : Type} [ExactScalar α]

section Faces

def parallelogram (m u v : Vec3 α) : List (Vec3 α) := [m - u - v, m + u - v, m + u + v, m - u + v]

variable (m u v : Vec3 α)

theorem parallelogram_reverse : (parallelogram m u v).reverse = parallelogram m u (-v) := by
  simp [parallelogram, sub_eq_add_neg]

theorem loopEdges_parallelogram : loopEdges (parallelogram m u v) =
    [(-v, u), (u, v), (v, -u), (-u, -v)].map fun (a, b) => (m + a - b, m + a + b) := by
  simp [loopEdges, parallelogram, sub_eq_add_neg, add_right_comm]

theorem meanPoint_eq (points : List (Vec3 α)) :
    meanPoint points = (points.length : α)⁻¹ • points.sum := by
  rw [meanPoint, Vec3.divide_def, ExactScalar.ofNat_eq, List.sum_eq_foldl]
  rfl

variable [CharZero α]

theorem meanPoint_parallelogram : meanPoint (parallelogram m u v) = m := by
  have four : (4 : α) ≠ 0 := OfNat.ofNat_ne_zero 4
  have sum : (parallelogram m u v).sum = (4 : α) • m := by
    simp only [parallelogram, List.sum_cons, List.sum_nil]
    module
  rw [meanPoint_eq, sum]
  exact inv_smul_smul₀ four m

theorem add_side (sums : TriangleSums α) (a b : Vec3 α) :
    sums.add m (m + a - b, m + a + b) =
      ⟨sums.area + a.cross b, sums.weighted + (a.cross b).norm • (m + (2 / 3 : α) • a),
       sums.total + (a.cross b).norm⟩ := by
  have triangle : ((m + a - b - m).cross (m + a + b - m)).scale Scalar.half = a.cross b := by
    rw [ExactScalar.half_eq]
    ext <;> simp [Vec3.scale, Vec3.map, Vec3.cross] <;> ring
  have centre : (m + a - b + (m + a + b) + m).divide (Scalar.ofNat 3) = m + (2 / 3 : α) • a := by
    rw [Vec3.divide_def, ExactScalar.ofNat_eq]
    push_cast
    module
  unfold TriangleSums.add
  simp only [triangle, centre]
  rfl

theorem triangleSums_parallelogram : triangleSums (parallelogram m u v) =
    ⟨(4 : α) • u.cross v, (4 * (u.cross v).norm) • m, 4 * (u.cross v).norm⟩ := by
  have second : v.cross (-u) = u.cross v := by ext <;> simp [Vec3.cross] <;> ring
  have opposite (a b : Vec3 α) : (-a).cross (-b) = a.cross b := by ext <;> simp [Vec3.cross]
  have third : (-v).cross u = u.cross v := by rw [← second, ← opposite, neg_neg]
  -- All four triangles have the area vector of the first.
  unfold triangleSums
  rw [meanPoint_parallelogram, loopEdges_parallelogram]
  simp only [List.map_cons, List.map_nil, List.foldl_cons, List.foldl_nil, add_side, second, third,
    opposite, TriangleSums.zero, TriangleSums.mk.injEq, ExactScalar.zero_eq]
  have start : (Vec3.zero : Vec3 α) = 0 := rfl
  rw [start]
  refine ⟨?_, ?_, ?_⟩
  · module
  · module
  · ring

theorem faceArea_parallelogram : faceArea (parallelogram m u v) = (4 : α) • u.cross v := by
  rw [faceArea, triangleSums_parallelogram]

theorem faceCentre_parallelogram (solid : (u.cross v).norm ≠ 0) :
    faceCentre (parallelogram m u v) = m := by
  have total : 4 * (u.cross v).norm ≠ 0 := mul_ne_zero (OfNat.ofNat_ne_zero 4) solid
  unfold faceCentre
  rw [triangleSums_parallelogram, meanPoint_parallelogram]
  dsimp only
  -- Where the sums vanish, the mean of the corners is taken, and it is the middle too.
  rw [Vec3.divide_def, inv_smul_smul₀ total, ite_self]

end Faces

section Cells

/-- One for the owner of a face, minus one for the cell behind it. -/
def Side.sign : Side → α
  | .owner => 1
  | .neighbour => -1

theorem pyramidVolume_eq (middle : Vec3 α) (face : Face α) (side : Side) :
    pyramidVolume middle (face, side) =
      side.sign * face.area.dot (face.centre - middle) / 3 := by
  cases side <;> simp [pyramidVolume, Side.sign, ExactScalar.ofNat_eq]

variable {around : List (Face α × Side)}

theorem cellMiddle_eq (filled : around ≠ []) :
    cellMiddle around = (around.length : α)⁻¹ • (around.map (·.1.centre)).sum := by
  have nonempty : ¬ around.isEmpty = true := fun empty => filled (List.isEmpty_iff.mp empty)
  have mean : cellMiddle around =
      (around.foldl (fun sum side => sum + side.1.centre) Vec3.zero).divide
        (Scalar.ofNat around.length) := if_neg nonempty
  rw [mean, Vec3.divide_def, ExactScalar.ofNat_eq, List.sum_eq_foldl, List.foldl_map]
  rfl

theorem cellVolume_even {middle : Vec3 α} {size : α}
    (even : ∀ side ∈ around, pyramidVolume middle side = size) :
    cellVolume middle around = around.length * size := by
  have sizes : around.map (pyramidVolume middle) = List.replicate around.length size :=
    List.map_eq_replicate_iff.mpr even
  have sum : cellVolume middle around = (around.map (pyramidVolume middle)).sum := by
    rw [List.sum_eq_foldl, List.foldl_map, cellVolume, ExactScalar.zero_eq]
  rw [sum, sizes, List.sum_replicate, nsmul_eq_mul]

variable [CharZero α]

theorem sum_pyramidCentres (filled : around ≠ []) :
    (around.map fun side => pyramidCentre (cellMiddle around) side.1).sum =
      (around.length : α) • cellMiddle around := by
  have count : (around.length : α) ≠ 0 := Nat.cast_ne_zero.mpr (by simpa using filled)
  have bases : (around.map (·.1.centre)).sum = (around.length : α) • cellMiddle around := by
    rw [cellMiddle_eq filled, smul_inv_smul₀ count]
  have pyramid (side : Face α × Side) : pyramidCentre (cellMiddle around) side.1 =
      (3 / 4 : α) • side.1.centre + (1 / 4 : α) • cellMiddle around := by
    simp [pyramidCentre, Vec3.scale_def, ExactScalar.ofNat_eq]
  have part : (around.map fun side => (3 / 4 : α) • side.1.centre).sum =
      (3 / 4 : α) • (around.length : α) • cellMiddle around := by
    rw [← bases, List.smul_sum, List.map_map]
    rfl
  simp only [pyramid, List.sum_map_add, part, List.map_const', List.sum_replicate,
    ← Nat.cast_smul_eq_nsmul α]
  module

theorem cellCentre_even {size : α} (solid : size ≠ 0) (filled : around ≠ [])
    (even : ∀ side ∈ around, pyramidVolume (cellMiddle around) side = size) :
    cellCentre (cellMiddle around) around = cellMiddle around := by
  have count : (around.length : α) ≠ 0 := Nat.cast_ne_zero.mpr (by simpa using filled)
  have moment : around.foldl (fun sum side => sum +
      (pyramidCentre (cellMiddle around) side.1).scale (pyramidVolume (cellMiddle around) side))
      Vec3.zero = (around.length * size) • cellMiddle around := by
    calc _ = (around.map fun side => (pyramidCentre (cellMiddle around) side.1).scale
            (pyramidVolume (cellMiddle around) side)).sum := by
          rw [List.sum_eq_foldl, List.foldl_map]
          rfl
      _ = (around.map fun side => size • pyramidCentre (cellMiddle around) side.1).sum := by
          congr 1
          apply List.map_congr_left
          intro side member
          rw [even side member, Vec3.scale_def]
      _ = size • (around.map fun side => pyramidCentre (cellMiddle around) side.1).sum := by
          rw [List.smul_sum, List.map_map]
          rfl
      _ = _ := by
          rw [sum_pyramidCentres filled]
          module
  unfold cellCentre
  rw [moment, cellVolume_even even]
  dsimp only
  rw [Vec3.divide_def, inv_smul_smul₀ (mul_ne_zero count solid), ite_self]

end Cells

end MeshLang
