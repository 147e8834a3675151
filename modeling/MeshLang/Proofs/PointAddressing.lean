import MeshLang.Proofs.Mesh.OnePass
import MeshLang.Proofs.Scalar.Exact

namespace MeshLang

variable {α : Type}

def Mesh.cellPoints (mesh : Mesh α) : List (List Nat) := mesh.cells.map (·.points)

/-- The points of each cell and the cells of each point. -/
structure Mesh.ExactIncidence (mesh : Mesh α) : Prop where
  onePass : Incidence.ofFaces mesh.faces (mesh.size .volume) (mesh.size .point) =
    ⟨mesh.cellPoints, mesh.pointCells⟩
  cellCount : mesh.cellPoints.length = mesh.size .volume
  pointCount : mesh.pointCells.length = mesh.size .point
  points : ∀ cell point,
    point ∈ mesh.cellPoints.getD cell [] ↔ Face.Incident mesh.faces cell point
  cells : ∀ cell point,
    cell ∈ mesh.pointCells.getD point [] ↔ point ∈ mesh.cellPoints.getD cell []
  increasing : ∀ list ∈ mesh.cellPoints ++ mesh.pointCells, list.Pairwise (· < ·)
  bareCell : ∀ cell < mesh.size .volume,
    (∀ face ∈ mesh.faces, face.owner ≠ cell ∧ face.neighbour? ≠ some cell) →
      mesh.cellPoints[cell]? = some []
  barePoint : ∀ point < mesh.size .point, (∀ face ∈ mesh.faces, point ∉ face.corners) →
    mesh.pointCells[point]? = some []

theorem Incidence.inOrder_cornersAround {faces : List (Face α)} {count cell : Nat}
    (inside : ∀ face ∈ faces, ∀ point ∈ face.corners, point < count) :
    inOrder (cornersAround faces cell) = pointsAround faces count cell := by
  have increasing : (pointsAround faces count cell).Pairwise (· < ·) :=
    List.pairwise_lt_range.filter _
  refine (inOrder_increasing _).eq_of_mem_iff increasing fun point => ?_
  rw [mem_inOrder, mem_cornersAround, mem_pointsAround, iff_and_self]
  rintro ⟨face, member, -, corner⟩
  exact inside face member point corner

theorem Incidence.ofFaces_increasing (faces : List (Face α)) (cells points : Nat) :
    ∀ list ∈ (ofFaces faces cells points).cellPoints ++ (ofFaces faces cells points).pointCells,
      list.Pairwise (· < ·) := by
  intro list member
  rw [ofFaces_cellPoints, ofFaces_pointCells] at member
  rcases List.mem_append.mp member with points | cells
  · obtain ⟨cell, -, rfl⟩ := List.mem_map.mp points
    exact inOrder_increasing _
  · obtain ⟨point, -, rfl⟩ := List.mem_map.mp cells
    exact List.pairwise_lt_range.filter _

theorem Incidence.getElem?_nil {table : List (List Nat)} {index : Nat} (below : index < table.length)
    (bare : ∀ x, x ∉ table.getD index []) : table[index]? = some [] := by
  rw [List.getD_eq_getElem?_getD, List.getElem?_eq_getElem below, Option.getD_some] at bare
  rw [List.getElem?_eq_getElem below, List.eq_nil_iff_forall_not_mem.mpr bare]

namespace Mesh

section Assemble

variable [Scalar α] {a : Addressing α}

theorem assemble_cellPoints : (assemble a).cellPoints =
    (List.range a.cellCount).map (pointsAround (assemble a).faces a.points.length) := by
  simp [cellPoints, assemble, Cell.ofFaces]

theorem assemble_onePass (wellFormed : a.WellFormed) :
    Incidence.ofFaces (assemble a).faces a.cellCount a.points.length =
      ⟨(assemble a).cellPoints, (assemble a).pointCells⟩ := by
  have inside (face : Face α) (member : face ∈ (assemble a).faces) :=
    assemble_inside wellFormed member
  have points : (Incidence.ofFaces (assemble a).faces a.cellCount a.points.length).cellPoints =
      (assemble a).cellPoints := by
    rw [Incidence.ofFaces_cellPoints, assemble_cellPoints]
    exact List.map_congr_left fun cell _ => Incidence.inOrder_cornersAround inside
  have cells : (Incidence.ofFaces (assemble a).faces a.cellCount a.points.length).pointCells =
      (assemble a).pointCells := by
    rw [Incidence.ofFaces_pointCells]
    apply List.ext_getElem?
    intro point
    by_cases below : point < a.points.length
    · rw [assemble_pointCells below, assemble_cellCount, List.getElem?_map,
        List.getElem?_range below, Option.map_some]
      congr 1
      apply List.filter_congr
      intro cell member
      rw [assemble_cell (List.mem_range.mp member), Option.map_some, Option.getD_some]
      rw [Bool.eq_iff_iff, List.contains_iff_mem, List.contains_iff_mem, Incidence.mem_cornersAround]
      exact (mem_pointsAround.trans (and_iff_right below)).symm
    · simp [assemble, below]
  rw [← points, ← cells]

theorem assemble_exactIncidence (wellFormed : a.WellFormed) : (assemble a).ExactIncidence := by
  have points (cell point : Nat) : point ∈ (assemble a).cellPoints.getD cell [] ↔
      Face.Incident (assemble a).faces cell point := by
    rw [← mem_assemble_points wellFormed, cellPoints, List.getD_eq_getElem?_getD, List.getElem?_map]
    cases (assemble a).cells[cell]? <;> simp
  have cells (cell point : Nat) : cell ∈ (assemble a).pointCells.getD point [] ↔
      Face.Incident (assemble a).faces cell point := by
    rw [← mem_assemble_cells wellFormed, List.getD_eq_getElem?_getD]
    cases (assemble a).pointCells[point]? <;> simp
  have cellCount : (assemble a).cellPoints.length = (assemble a).size .volume := List.length_map _
  have pointCount : (assemble a).pointCells.length = (assemble a).size .point := by
    simp [assemble, size]
  exact {
    onePass := by
      show Incidence.ofFaces _ (assemble a).cells.length _ = _
      rw [assemble_cellCount]
      exact assemble_onePass wellFormed
    cellCount
    pointCount
    points
    cells := fun cell point => (cells cell point).trans (points cell point).symm
    increasing := by
      have increasing :=
        Incidence.ofFaces_increasing (assemble a).faces a.cellCount a.points.length
      rwa [assemble_onePass wellFormed] at increasing
    bareCell := fun cell below bare => by
      refine Incidence.getElem?_nil (cellCount ▸ below) fun point member => ?_
      obtain ⟨face, listed, lies, -⟩ := (points cell point).mp member
      exact lies.elim (bare face listed).1 (bare face listed).2
    barePoint := fun point below bare => by
      refine Incidence.getElem?_nil (pointCount ▸ below) fun cell member => ?_
      obtain ⟨face, listed, -, corner⟩ := (cells cell point).mp member
      exact bare face listed corner }

end Assemble

/-- In every mesh that a checked description gives, the tables of points and cells are inverse to each
other, exact and in order. -/
theorem incidence_exact [Scalar α] {mesh : Mesh α} (built : mesh.Built) : mesh.ExactIncidence := by
  obtain ⟨a, wellFormed, selections, rfl⟩ := built.exists_assemble
  exact { assemble_exactIncidence wellFormed with }

def ragged : Addressing Rat where
  points := [⟨0, 0, 0⟩, ⟨1, 0, 0⟩, ⟨0, 1, 0⟩, ⟨0, 0, 1⟩, ⟨1, 1, 1⟩]
  faces := [[3, 1, 3], [0, 1, 0], [1, 2, 3]]
  owners := [2, 0, 2]
  neighbours := [0]
  patches := [⟨"rim", 1, 2⟩]

theorem incidence_exact_ragged : (assemble ragged).Built ∧ (assemble ragged).ExactIncidence := by
  have built : (assemble ragged).Built := .ofAddressing (a := ragged) (by decide +kernel)
  exact ⟨built, incidence_exact built⟩

example : (assemble ragged).cellPoints = [[0, 1, 3], [], [1, 2, 3]] ∧
    (assemble ragged).pointCells = [[0], [0, 2], [2], [0, 2], []] := by decide +kernel

end Mesh

end MeshLang
