import MeshLang.Proofs.Conservation
import MeshLang.Proofs.Tensor.Inverses

namespace MeshLang

variable {α : Type} [ExactScalar α]

namespace Mat3

theorem add_row (m n : Mat3 α) (axis : Axis) : (m + n).row axis = m.row axis + n.row axis := by
  cases axis <;> rfl

theorem smul_row (factor : α) (m : Mat3 α) (axis : Axis) :
    (factor • m).row axis = factor • m.row axis := by
  cases axis <;> rfl

def applyMap (u : Vec3 α) : Mat3 α →ₗ[α] Vec3 α where
  toFun m := m.apply u
  map_add' m n := by
    ext <;> simp only [apply, add_row, Vec3.dot, Vec3.add_x, Vec3.add_y, Vec3.add_z] <;> ring
  map_smul' factor m := by
    ext <;> simp only [apply, smul_row, Vec3.dot, Vec3.smul_def, RingHom.id_apply] <;> ring

theorem outer_apply (v w u : Vec3 α) : (outer v w).apply u = v.scale (w.dot u) := by
  ext <;> simp only [apply, outer, row, Vec3.dot, Vec3.scale, Vec3.map] <;> ring

end Mat3

theorem Vec3.scale_normalized (area u : Vec3 α) :
    area.scale (area.normalized.dot u) = area.normalized.scale (area.dot u) := by
  ext <;> simp only [scale, map, normalized, divide, dot] <;> ring

namespace Mesh

def throughflow (mesh : Mesh α) (u : Vec3 α) (tag : Option (Dimensions α)) : Value α :=
  ⟨.scalar, some .surface, .scalar (mesh.faces.map fun face => face.area.dot u), tag⟩

def normalTensor (mesh : Mesh α) (cell : Nat) : Mat3 α :=
  ((facesAround mesh.faces cell).map fun side =>
    Mat3.outer side.1.area side.1.area.normalized).sum

/-- What becomes of a vector whose flow is taken and fitted again. Nothing else than the vector comes
out, and it does unless some cell has a normal tensor without an inverse. -/
structure Reconstructs (mesh : Mesh α) : Prop where
  flow : ∀ u : Vec3 α, (Value.vector .surface mesh.faceAreas).inner (.constantVector u) =
    .ok (mesh.throughflow u none)
  uniform : ∀ (u : Vec3 α) (tag : Option (Dimensions α)) (w : Value α),
    mesh.reconstruct (mesh.throughflow u tag) = .ok w →
    w = .vector .volume (List.replicate mesh.cells.length u)
  succeeds : ∀ (u : Vec3 α) (tag : Option (Dimensions α)),
    (∃ w, mesh.reconstruct (mesh.throughflow u tag) = .ok w) ↔
      ∀ cell < mesh.cells.length, (mesh.normalTensor cell).Invertible
  fails : ∀ (u : Vec3 α) (tag : Option (Dimensions α)) (error : FieldError α),
    mesh.reconstruct (mesh.throughflow u tag) = .error error ↔
      ∃ cell < mesh.cells.length, error = .singular "reconstruct" cell ∧
        ¬ (mesh.normalTensor cell).Invertible ∧
        ∀ earlier < cell, (mesh.normalTensor earlier).Invertible

variable {mesh : Mesh α} {u : Vec3 α} {tag : Option (Dimensions α)}

theorem areas_inner (mesh : Mesh α) (u : Vec3 α) :
    (Value.vector .surface mesh.faceAreas).inner (.constantVector u) =
      .ok (mesh.throughflow u none) := by
  have flows : zipSpread mesh.faceAreas.length Vec3.dot mesh.faceAreas [u] =
      mesh.faces.map fun face => face.area.dot u := by
    rw [zipSpread_one, faceAreas, List.map_map]
    rfl
  rw [throughflow, ← flows]
  rfl

theorem normalTensors_eq (mesh : Mesh α) :
    mesh.normalTensors = (List.range mesh.cells.length).map mesh.normalTensor := by
  unfold normalTensors faceAreas
  rw [List.map_map]
  exact mesh.total_faces _

/-- The normals of a cell times the flow of a vector are its normal tensor applied to the vector. -/
theorem normalFlows_eq (mesh : Mesh α) (u : Vec3 α) :
    mesh.total (List.zipWith (fun area rate => area.normalized.scale rate) mesh.faceAreas
      (mesh.faces.map fun face => face.area.dot u)) =
    mesh.normalTensors.map fun m => m.apply u := by
  have face (face : Face α) : face.area.normalized.scale (face.area.dot u) =
      Mat3.applyMap u (Mat3.outer face.area face.area.normalized) :=
    ((Mat3.outer_apply _ _ u).trans (Vec3.scale_normalized face.area u)).symm
  rw [faceAreas, List.zipWith_map, List.zipWith_self, total_faces, normalTensors_eq, List.map_map]
  apply List.map_congr_left
  intro cell _
  show _ = Mat3.applyMap u (mesh.normalTensor cell)
  simp only [face, normalTensor, map_list_sum, List.map_map]
  rfl

theorem normalTensors_getElem? (mesh : Mesh α) (cell : Nat) : mesh.normalTensors[cell]? =
    if cell < mesh.cells.length then some (mesh.normalTensor cell) else none := by
  rw [normalTensors_eq, List.getElem?_map]
  split
  · rw [List.getElem?_range ‹_›]
    rfl
  · rw [List.getElem?_eq_none (by rw [List.length_range]; omega)]
    rfl

theorem forall_normalTensors {P : Mat3 α → Prop} :
    (∀ m ∈ mesh.normalTensors, P m) ↔ ∀ cell < mesh.cells.length, P (mesh.normalTensor cell) := by
  simp only [normalTensors_eq, List.forall_mem_map, List.mem_range]

theorem firstSingular_iff {cell : Nat} : FirstSingular mesh.normalTensors cell ↔
    cell < mesh.cells.length ∧ ¬ (mesh.normalTensor cell).Invertible ∧
      ∀ earlier < cell, (mesh.normalTensor earlier).Invertible := by
  constructor
  · rintro ⟨⟨m, found, flat⟩, before⟩
    rw [normalTensors_getElem?, Option.ite_none_right_eq_some, Option.some.injEq] at found
    obtain ⟨below, rfl⟩ := found
    refine ⟨below, flat, fun earlier less => before earlier less _ ?_⟩
    rw [normalTensors_getElem?, if_pos (less.trans below)]
  · rintro ⟨below, flat, before⟩
    refine ⟨⟨_, by rw [normalTensors_getElem?, if_pos below], flat⟩, fun earlier less m found => ?_⟩
    rw [normalTensors_getElem?, if_pos (less.trans below), Option.some.injEq] at found
    exact found ▸ before earlier less

theorem reconstruct_throughflow (mesh : Mesh α) (u : Vec3 α) (tag : Option (Dimensions α)) :
    mesh.reconstruct (mesh.throughflow u tag) =
      (inverses "reconstruct" 0 mesh.normalTensors).map fun inverted =>
        .vector .volume (List.zipWith Mat3.apply inverted
          (mesh.normalTensors.map fun m => m.apply u)) := by
  have sized : (mesh.throughflow u tag).size = mesh.size .surface := List.length_map _
  unfold reconstruct
  rw [expect_of_size sized, ← normalFlows_eq]
  cases inverses "reconstruct" 0 mesh.normalTensors <;> rfl

section Ordered

variable [LinearOrder α] [OrderedScalar α]

/-- Either the vector comes back in every cell, or the first cell without an inverse is named. -/
theorem reconstruct_cases (mesh : Mesh α) (u : Vec3 α) (tag : Option (Dimensions α)) :
    ((∀ m ∈ mesh.normalTensors, m.Invertible) ∧
      mesh.reconstruct (mesh.throughflow u tag) =
        .ok (.vector .volume (List.replicate mesh.cells.length u))) ∨
    ∃ cell, FirstSingular mesh.normalTensors cell ∧
      mesh.reconstruct (mesh.throughflow u tag) = .error (.singular "reconstruct" cell) := by
  have count : mesh.normalTensors.length = mesh.cells.length := mesh.accumulate_length _ _
  rw [reconstruct_throughflow]
  rcases inverses_cases "reconstruct" 0 mesh.normalTensors with
    ⟨ns, made, inverted⟩ | ⟨cell, first, failed⟩
  · refine .inl ⟨inverted_invertible inverted, ?_⟩
    rw [made, ← count, ← inverted_apply inverted u]
    rfl
  · refine .inr ⟨cell, first, ?_⟩
    rw [failed, Nat.zero_add]
    rfl

/-- On every mesh and for every vector. Its cells may have any number of faces, and boundary faces
count like those between two cells. -/
theorem reconstructs_uniform (mesh : Mesh α) : mesh.Reconstructs where
  flow := areas_inner mesh
  uniform u tag w made := by
    rcases reconstruct_cases mesh u tag with ⟨-, back⟩ | ⟨cell, -, failed⟩
    · exact Except.ok.inj (made.symm.trans back)
    · cases made.symm.trans failed
  succeeds u tag := by
    rw [← forall_normalTensors]
    rcases reconstruct_cases mesh u tag with ⟨all, back⟩ | ⟨cell, first, failed⟩
    · exact ⟨fun _ => all, fun _ => ⟨_, back⟩⟩
    · obtain ⟨m, found, flat⟩ := first.here
      refine ⟨fun ⟨w, made⟩ => ?_, fun all => absurd (all m (List.mem_of_getElem? found)) flat⟩
      cases made.symm.trans failed
  fails u tag error := by
    rcases reconstruct_cases mesh u tag with ⟨all, back⟩ | ⟨cell, first, failed⟩
    · refine ⟨fun made => ?_, fun ⟨cell, below, _, flat, _⟩ => ?_⟩
      · cases back.symm.trans made
      · exact absurd (forall_normalTensors.mp all cell below) flat
    · refine ⟨fun made => ?_, fun ⟨other, below, named, flat, before⟩ => ?_⟩
      · obtain ⟨below, flat, before⟩ := firstSingular_iff.mp first
        exact ⟨cell, below, Except.error.inj (made.symm.trans failed), flat, before⟩
      · rw [named, failed, first.unique (firstSingular_iff.mpr ⟨below, flat, before⟩)]

end Ordered

/-- In two cubes side by side every vector comes back. -/
theorem reconstructs_uniform_pair : pair.Reconstructs ∧ ∀ u : Vec3 Rat,
    pair.reconstruct (pair.throughflow u none) = .ok (.vector .volume [u, u]) := by
  have laws : pair.Reconstructs := reconstructs_uniform pair
  have solid : ∀ cell < pair.cells.length, (pair.normalTensor cell).determinant ≠ 0 := by
    decide +kernel
  refine ⟨laws, fun u => ?_⟩
  obtain ⟨w, made⟩ := (laws.succeeds u none).mpr fun cell below =>
    Mat3.invertible_iff.mpr (solid cell below)
  rw [made, laws.uniform u none w made]
  rfl

end Mesh

end MeshLang
