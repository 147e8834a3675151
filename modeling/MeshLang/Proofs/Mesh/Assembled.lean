import MeshLang.Proofs.Repository.Built

namespace MeshLang

variable {α : Type}

theorem Face.mem_sides {cell : Nat} {face : Face α} {side : Side} : side ∈ face.sides cell ↔
    (side = .owner ∧ face.owner = cell) ∨ (side = .neighbour ∧ face.neighbour? = some cell) := by
  unfold Face.sides
  cases side <;> simp

/-- A point and a cell belong to one face. -/
def Face.Incident (faces : List (Face α)) (cell point : Nat) : Prop :=
  ∃ face ∈ faces, (face.owner = cell ∨ face.neighbour? = some cell) ∧ point ∈ face.corners

theorem mem_facesAround {faces : List (Face α)} {cell : Nat} {face : Face α} {side : Side} :
    (face, side) ∈ facesAround faces cell ↔ face ∈ faces ∧ side ∈ face.sides cell := by
  simp [facesAround]

theorem incident_iff_around {faces : List (Face α)} {cell point : Nat} :
    Face.Incident faces cell point ↔ ∃ side ∈ facesAround faces cell, point ∈ side.1.corners := by
  constructor
  · rintro ⟨face, member, owner | neighbour, corner⟩
    · have lies : Side.owner ∈ face.sides cell := Face.mem_sides.mpr (.inl ⟨rfl, owner⟩)
      exact ⟨(face, .owner), mem_facesAround.mpr ⟨member, lies⟩, corner⟩
    · have lies : Side.neighbour ∈ face.sides cell := Face.mem_sides.mpr (.inr ⟨rfl, neighbour⟩)
      exact ⟨(face, .neighbour), mem_facesAround.mpr ⟨member, lies⟩, corner⟩
  · rintro ⟨⟨face, side⟩, around, corner⟩
    obtain ⟨member, lies⟩ := mem_facesAround.mp around
    exact ⟨face, member, (Face.mem_sides.mp lies).imp And.right And.right, corner⟩

theorem mem_pointsAround {faces : List (Face α)} {count cell point : Nat} :
    point ∈ pointsAround faces count cell ↔ point < count ∧ Face.Incident faces cell point := by
  unfold pointsAround
  simp only [List.mem_filter, List.mem_range, List.any_eq_true, List.contains_iff_mem,
    incident_iff_around]

theorem getElem?_filterMap {β γ : Type} {f : β → Option γ} {xs : List β} {index : Nat}
    (before : ∀ other ≤ index, ∀ x, xs[other]? = some x → (f x).isSome = true) :
    (xs.filterMap f)[index]? = xs[index]?.bind f := by
  induction xs generalizing index with
  | nil => rfl
  | cons x rest ih =>
    obtain ⟨y, made⟩ := Option.isSome_iff_exists.mp (before 0 (Nat.zero_le index) x rfl)
    rw [List.filterMap_cons_some made]
    cases index with
    | zero => exact made.symm
    | succ index =>
      exact ih fun other below z found => before (other + 1) (Nat.succ_le_succ below) z found

namespace Mesh

variable [Scalar α]

theorem weights_length (mesh : Mesh α) : mesh.weights.length = mesh.internalCount := by
  simp only [weights, internalCount, List.length_filterMap_eq_countP, Option.isSome_map]
  rfl

section Assemble

variable {a : Addressing α}

theorem assemble_faces (index : Nat) : (assemble a).faces[index]? =
    (a.faces.zip a.owners)[index]?.map fun (corners, owner) =>
      Face.ofCorners a.points corners owner a.neighbours[index]? := by
  simp [assemble]

theorem assemble_corners (owners : a.owners.length = a.faces.length) :
    (assemble a).faces.map (·.corners) = a.faces := by
  have zipped : (assemble a).faces.map (·.corners) = (a.faces.zip a.owners).map (·.1) := by
    apply List.ext_getElem?
    intro index
    rw [List.getElem?_map, assemble_faces, List.getElem?_map, Option.map_map]
    rfl
  rw [zipped, List.map_fst_zip (Nat.le_of_eq owners.symm)]

theorem assemble_owners (owners : a.owners.length = a.faces.length) :
    (assemble a).faces.map (·.owner) = a.owners := by
  have zipped : (assemble a).faces.map (·.owner) = (a.faces.zip a.owners).map (·.2) := by
    apply List.ext_getElem?
    intro index
    rw [List.getElem?_map, assemble_faces, List.getElem?_map, Option.map_map]
    rfl
  rw [zipped, List.map_snd_zip (Nat.le_of_eq owners)]

theorem assemble_length (owners : a.owners.length = a.faces.length) :
    (assemble a).faces.length = a.faces.length := by
  have kept := congrArg List.length (assemble_corners owners)
  rwa [List.length_map] at kept

theorem assemble_neighbours (owners : a.owners.length = a.faces.length)
    (neighbours : a.neighbours.length ≤ a.faces.length) :
    (assemble a).faces.map (·.neighbour?) = a.neighbours.map some ++
      List.replicate (a.faces.length - a.neighbours.length) none := by
  apply List.ext_getElem?
  intro index
  rw [List.getElem?_map]
  by_cases below : index < a.faces.length
  · have face : (assemble a).faces[index]?.map (·.neighbour?) = some a.neighbours[index]? := by
      have zipped : index < (a.faces.zip a.owners).length := by simp [owners, below]
      rw [assemble_faces, List.getElem?_eq_getElem zipped]
      rfl
    rw [face]
    by_cases inner : index < a.neighbours.length
    · rw [List.getElem?_append_left (by simpa using inner), List.getElem?_map,
        List.getElem?_eq_getElem inner]
      rfl
    · rw [List.getElem?_append_right (by simpa using inner), List.length_map,
        List.getElem?_replicate_of_lt (by omega), List.getElem?_eq_none (Nat.not_lt.mp inner)]
  · rw [List.getElem?_eq_none (by rw [assemble_length owners]; omega), Option.map_none,
      List.getElem?_eq_none (by simp only [List.length_append, List.length_map,
        List.length_replicate]; omega)]

theorem assemble_internalCount (owners : a.owners.length = a.faces.length)
    (neighbours : a.neighbours.length ≤ a.faces.length) :
    (assemble a).internalCount = a.neighbours.length := by
  have counted : (assemble a).internalCount =
      ((assemble a).faces.map (·.neighbour?)).countP Option.isSome := by
    rw [List.countP_map]
    rfl
  rw [counted, assemble_neighbours owners neighbours, List.countP_append, List.countP_map]
  simp [List.countP_replicate]

theorem assemble_isInternal (owners : a.owners.length = a.faces.length)
    (neighbours : a.neighbours.length ≤ a.faces.length) {index : Nat} {face : Face α}
    (found : (assemble a).faces[index]? = some face) :
    face.isInternal = decide (index < (assemble a).internalCount) := by
  have here : ((assemble a).faces.map (·.neighbour?))[index]? = some face.neighbour? := by
    rw [List.getElem?_map, found]
    rfl
  rw [assemble_neighbours owners neighbours] at here
  rw [assemble_internalCount owners neighbours]
  unfold Face.isInternal
  by_cases inner : index < a.neighbours.length
  · rw [List.getElem?_append_left (by simpa using inner), List.getElem?_map,
      List.getElem?_eq_getElem inner] at here
    rw [← Option.some.inj here]
    simp [inner]
  · rw [List.getElem?_append_right (by simpa using inner)] at here
    rw [(List.mem_replicate.mp (List.mem_of_getElem? here)).2]
    simp [inner]

theorem assemble_cellCount : (assemble a).cells.length = a.cellCount := by simp [assemble]

theorem assemble_inside (wellFormed : a.WellFormed) {face : Face α}
    (member : face ∈ (assemble a).faces) : ∀ point ∈ face.corners, point < a.points.length := by
  apply wellFormed.corners
  rw [← assemble_corners wellFormed.owners]
  exact List.mem_map.mpr ⟨face, member, rfl⟩

theorem assemble_incident (wellFormed : a.WellFormed) {cell point : Nat}
    (incident : Face.Incident (assemble a).faces cell point) :
    cell < a.cellCount ∧ point < a.points.length := by
  obtain ⟨face, member, lies, corner⟩ := incident
  obtain ⟨owner, neighbour⟩ := assemble_beside member
  refine ⟨?_, assemble_inside wellFormed member point corner⟩
  rcases lies with rfl | found
  · exact owner
  · exact neighbour cell found

theorem assemble_cell {cell : Nat} (below : cell < a.cellCount) :
    (assemble a).cells[cell]? = some (Cell.ofFaces (assemble a).faces a.points.length cell) := by
  simp [assemble, below]

theorem mem_assemble_points (wellFormed : a.WellFormed) {cell point : Nat} :
    (∃ c, (assemble a).cells[cell]? = some c ∧ point ∈ c.points) ↔
      Face.Incident (assemble a).faces cell point := by
  constructor
  · rintro ⟨c, found, member⟩
    have below := (List.getElem?_eq_some_iff.mp found).1
    rw [assemble_cellCount] at below
    cases Option.some.inj (found.symm.trans (assemble_cell below))
    exact (mem_pointsAround.mp member).2
  · intro incident
    obtain ⟨below, inside⟩ := assemble_incident wellFormed incident
    exact ⟨_, assemble_cell below, mem_pointsAround.mpr ⟨inside, incident⟩⟩

theorem assemble_pointCells {point : Nat} (inside : point < a.points.length) :
    (assemble a).pointCells[point]? = some ((List.range (assemble a).cells.length).filter fun cell =>
      ((assemble a).cells[cell]?.map (·.points.contains point)).getD false) := by
  simp [assemble, inside]

theorem mem_assemble_cells (wellFormed : a.WellFormed) {cell point : Nat} :
    (∃ around, (assemble a).pointCells[point]? = some around ∧ cell ∈ around) ↔
      Face.Incident (assemble a).faces cell point := by
  rw [← mem_assemble_points wellFormed]
  have counts : ((assemble a).cells[cell]?.map (·.points.contains point)).getD false = true ↔
      ∃ c, (assemble a).cells[cell]? = some c ∧ point ∈ c.points := by
    cases (assemble a).cells[cell]? <;> simp
  constructor
  · rintro ⟨around, found, member⟩
    have below := (List.getElem?_eq_some_iff.mp found).1
    have inside : point < a.points.length := by simpa [assemble] using below
    cases Option.some.inj (found.symm.trans (assemble_pointCells inside))
    exact counts.mp (List.mem_filter.mp member).2
  · intro listed
    obtain ⟨below, inside⟩ := assemble_incident wellFormed ((mem_assemble_points wellFormed).mp listed)
    rw [← assemble_cellCount] at below
    exact ⟨_, assemble_pointCells inside,
      List.mem_filter.mpr ⟨List.mem_range.mpr below, counts.mpr listed⟩⟩

end Assemble

theorem Built.exists_assemble {mesh : Mesh α} (built : mesh.Built) :
    ∃ a : Addressing α, a.WellFormed ∧ ∃ selections, mesh = { assemble a with selections } := by
  induction built with
  | @ofAddressing a mesh assembled =>
    unfold Mesh.ofAddressing at assembled
    cases passed : a.check with
    | error error => rw [passed] at assembled; cases assembled
    | ok _ =>
      rw [passed] at assembled
      cases assembled
      exact ⟨a, Addressing.check_iff_wellFormed.mp passed, _, rfl⟩
  | @select mesh after kind name indices built added ih =>
    unfold Mesh.select at added
    dsimp only at added
    split at added
    · cases added
    · cases added
      obtain ⟨a, wellFormed, selections, rfl⟩ := ih
      exact ⟨a, wellFormed, _, rfl⟩

namespace Built

variable {mesh : Mesh α} {cell point : Nat}

theorem incident_lt (built : mesh.Built) (incident : Face.Incident mesh.faces cell point) :
    cell < mesh.cells.length ∧ point < mesh.points.length := by
  obtain ⟨a, wellFormed, selections, rfl⟩ := built.exists_assemble
  obtain ⟨below, inside⟩ := assemble_incident wellFormed incident
  rw [← assemble_cellCount] at below
  exact ⟨below, inside⟩

theorem mem_points (built : mesh.Built) {c : Cell α} (found : mesh.cells[cell]? = some c) :
    point ∈ c.points ↔ Face.Incident mesh.faces cell point := by
  obtain ⟨a, wellFormed, selections, rfl⟩ := built.exists_assemble
  refine Iff.trans ?_ (mem_assemble_points wellFormed)
  exact ⟨fun member => ⟨c, found, member⟩, fun ⟨_, here, member⟩ =>
    Option.some.inj (here.symm.trans found) ▸ member⟩

theorem nodup_points (built : mesh.Built) {c : Cell α} (found : mesh.cells[cell]? = some c) :
    c.points.Nodup := by
  obtain ⟨a, wellFormed, selections, rfl⟩ := built.exists_assemble
  have below := (List.getElem?_eq_some_iff.mp found).1
  rw [assemble_cellCount] at below
  cases Option.some.inj (found.symm.trans (assemble_cell below))
  exact List.nodup_range.filter _

theorem mem_pointCells (built : mesh.Built) {around : List Nat}
    (found : mesh.pointCells[point]? = some around) :
    cell ∈ around ↔ Face.Incident mesh.faces cell point := by
  obtain ⟨a, wellFormed, selections, rfl⟩ := built.exists_assemble
  refine Iff.trans ?_ (mem_assemble_cells wellFormed)
  exact ⟨fun member => ⟨around, found, member⟩, fun ⟨_, here, member⟩ =>
    Option.some.inj (here.symm.trans found) ▸ member⟩

theorem nodup_pointCells (built : mesh.Built) {around : List Nat}
    (found : mesh.pointCells[point]? = some around) : around.Nodup := by
  obtain ⟨a, wellFormed, selections, rfl⟩ := built.exists_assemble
  have inside : point < a.points.length := by
    simpa [assemble] using (List.getElem?_eq_some_iff.mp found).1
  cases Option.some.inj (found.symm.trans (assemble_pointCells inside))
  exact List.nodup_range.filter _

theorem pointCells_length (built : mesh.Built) : mesh.pointCells.length = mesh.points.length := by
  obtain ⟨a, wellFormed, selections, rfl⟩ := built.exists_assemble
  simp [assemble]

theorem corners (built : mesh.Built) {face : Face α} (member : face ∈ mesh.faces) :
    3 ≤ face.corners.length := by
  obtain ⟨a, wellFormed, selections, rfl⟩ := built.exists_assemble
  apply wellFormed.degrees
  rw [← assemble_corners wellFormed.owners]
  exact List.mem_map.mpr ⟨face, member, rfl⟩

end Built

end Mesh

end MeshLang
