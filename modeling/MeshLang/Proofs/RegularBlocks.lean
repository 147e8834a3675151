import MeshLang.Proofs.Mesh.BlockGeometry

namespace MeshLang

/-- A face that is a rectangle across an axis, with its corners in order: the centre is the middle of
the corners, and the area vector is along the axis and as long as the rectangle is large. -/
structure Face.Rectangle {α : Type} [ExactScalar α] (points : List (Vec3 α)) (face : Face α)
    (axis : Axis) (p q r s : Vec3 α) : Prop where
  corners : face.corners.map (points[·]?) = [some p, some q, some r, some s]
  flat : ∀ corner ∈ [p, q, r, s], corner.entry axis = face.centre.entry axis
  opposite : q - p = r - s
  right : (q - p).dot (s - p) = 0
  centre : face.centre = (p + q + r + s).divide 4
  aligned : face.area.entry axis.next = 0 ∧ face.area.entry axis.next.next = 0
  size : face.area.norm = (q - p).norm * (s - p).norm

namespace Block

variable {α : Type} [ExactScalar α] [LinearOrder α]

def Outward (block : Block α) (mesh : Mesh α) (axis : Axis) (face : Face α) : Prop :=
  match face.neighbour? with
  | some neighbour => ∃ factor : α, 0 < factor ∧
      mesh.centreOf neighbour - mesh.centreOf face.owner = face.area.scale factor
  | none =>
    (face.area.entry axis < 0 ∧ face.centre.entry axis = block.low.entry axis) ∨
      (0 < face.area.entry axis ∧ face.centre.entry axis = block.high.entry axis)

/-- The mesh of a box that is cut into equal cells. The part of the box that belongs to the cell of a
place reaches from the point at the place to the point one step further along every axis. -/
structure Regular (block : Block α) (mesh : Mesh α) : Prop where
  points : ∀ place : Vec3 Nat, place.Below block.pointCounts →
    mesh.points[block.pointIndex place]? = some (block.position place)
  count : mesh.cells.length = block.cells.x * block.cells.y * block.cells.z
  cells : ∀ (index : Nat) (cell : Cell α), mesh.cells[index]? = some cell →
    ∃ place : Vec3 Nat, place.Below block.cells ∧ block.cellIndex place = index ∧
      cell.centre = (block.position place + block.position (place.map (· + 1))).divide 2 ∧
      cell.volume = block.boxVolume / (block.cells.x * block.cells.y * block.cells.z)
  total : mesh.volumes.sum = block.boxVolume
  faces : ∀ face ∈ mesh.faces, ∃ axis p q r s,
    face.Rectangle mesh.points axis p q r s ∧ block.Outward mesh axis face
  weights : mesh.weights = List.replicate mesh.internalCount (1 / 2)

variable [OrderedScalar α]

section Parts

variable {block : Block α} {site : Site}
variable (solid : ∀ axis, 1 ≤ block.cells.entry axis)
variable (apart : ∀ axis, block.low.entry axis < block.high.entry axis)
include solid apart

theorem cells_regular {index : Nat} {cell : Cell α}
    (found : block.mesh.cells[index]? = some cell) :
    ∃ place : Vec3 Nat, place.Below block.cells ∧ block.cellIndex place = index ∧
      cell.centre = block.middle place ∧ cell.volume = block.cellSize := by
  obtain ⟨place, below, rfl⟩ := exists_place solid found
  obtain ⟨cell', here, centre, volume⟩ := cells_getElem? (spacing_pos solid apart) solid below
  cases Option.some.inj (found.symm.trans here)
  exact ⟨place, below, rfl, centre, volume⟩

theorem volumes_sum : block.mesh.volumes.sum = block.boxVolume := by
  have count : block.mesh.volumes.length =
      block.cells.x * block.cells.y * block.cells.z := by
    rw [Mesh.volumes, List.length_map, Mesh.assemble_cellCount, cellCount_eq solid]
  have volumes : block.mesh.volumes =
      List.replicate (block.cells.x * block.cells.y * block.cells.z) block.cellSize := by
    refine List.eq_replicate_iff.mpr ⟨count, fun volume member => ?_⟩
    obtain ⟨cell, here, rfl⟩ := List.mem_map.mp member
    obtain ⟨index, found⟩ := List.mem_iff_getElem?.mp here
    obtain ⟨-, -, -, -, size⟩ := cells_regular solid apart found
    exact size
  have parts : (block.cells.x * block.cells.y * block.cells.z : α) ≠ 0 :=
    mul_ne_zero (mul_ne_zero (cells_ne_zero solid .x) (cells_ne_zero solid .y))
      (cells_ne_zero solid .z)
  rw [volumes, List.sum_replicate, nsmul_eq_mul, cellSize_eq]
  push_cast
  exact mul_div_cancel₀ _ parts

theorem face_rectangle (member : site ∈ block.sites) : ∃ p q r s,
    (block.face site).Rectangle block.points site.axis p q r s := by
  -- Faces at the lower end are listed the other way round, which turns the second side over.
  let m := block.faceMiddle site
  let u := block.half site.axis.next
  let v := (site.sense : α) • block.half site.axis.next.next
  have centre : (block.face site).centre = m := face_centre (spacing_pos solid apart) member
  have first : m + u - v - (m - u - v) = site.axis.next.along (block.spacing site.axis.next) := by
    rw [← twice_half]
    module
  have second : m - u + v - (m - u - v) =
      site.axis.next.next.along (site.sense * block.spacing site.axis.next.next) := by
    rw [← Axis.smul_along, ← twice_half]
    module
  refine ⟨m - u - v, m + u - v, m + u + v, m - u + v, ?_⟩
  exact {
    corners := places_corners member
    flat := by
      have across : u.entry site.axis = 0 := site.axis.entry_along_next _
      have across' : v.entry site.axis = 0 := by simp [v, half]
      rw [centre]
      simp [across, across']
    opposite := by abel
    right := by rw [first, second, Axis.along_dot, Axis.entry_along_next, mul_zero]
    centre := by
      rw [centre, Vec3.divide_def]
      module
    aligned := by
      rw [face_area member]
      exact ⟨site.axis.along_next _, site.axis.along_last _⟩
    size := by
      rw [face_area member, first, second, Axis.norm_along, Axis.norm_along, Axis.norm_along, ← abs_mul,
        squareSize, mul_left_comm] }

theorem face_outward (member : site ∈ block.sites) :
    block.Outward block.mesh site.axis (block.face site) := by
  have spread := spacing_pos solid apart
  have size := squareSize_pos spread site.axis
  unfold Outward
  cases found : (block.face site).neighbour? with
  | some neighbour =>
    obtain ⟨place, behind, rfl⟩ := Option.map_eq_some_iff.mp found
    obtain ⟨inner, rfl⟩ := Site.neighbour?_eq_some.mp behind
    refine ⟨block.spacing site.axis / block.squareSize site.axis, div_pos (spread site.axis) size, ?_⟩
    rw [centreOf_owner spread solid member, centreOf_cell spread solid (site.behind_below member inner),
      Site.behind_eq_step inner, middle_step, add_sub_cancel_left, face_area member, Vec3.scale_def,
      Axis.smul_along, Site.sense_of_inner inner, one_mul, div_mul_cancel₀ _ size.ne']
  | none =>
    have outer : ¬ site.isInner block = true := fun inner => by
      have behind := Site.neighbour?_eq_some.mpr ⟨inner, rfl⟩
      have neighbour := congrArg (Option.map block.cellIndex) behind
      cases found.symm.trans neighbour
    have low := (mem_sites.mp member).1
    simp only [Site.isInner, Bool.and_eq_true, decide_eq_true_eq] at outer
    show _ ∨ _
    rw [face_area member, face_centre spread member, faceMiddle_entry, Axis.along_entry]
    by_cases lower : site.level = 0
    · left
      rw [Site.sense, if_pos lower, lower, coordinate_zero]
      exact ⟨by rw [neg_one_mul]; exact neg_neg_of_pos size, rfl⟩
    · right
      have upper : site.level = block.cells.entry site.axis := by omega
      rw [Site.sense, if_neg lower, upper, coordinate_last solid]
      exact ⟨by rwa [one_mul], rfl⟩

theorem weights_regular : block.mesh.weights =
    List.replicate block.mesh.internalCount (1 / 2) := by
  refine List.eq_replicate_iff.mpr ⟨Mesh.weights_length _, fun weight member => ?_⟩
  obtain ⟨face, here, found⟩ := List.mem_filterMap.mp member
  rw [assemble_faces solid] at here
  obtain ⟨site, inside, rfl⟩ := List.mem_map.mp here
  obtain ⟨neighbour, next, rfl⟩ := Option.map_eq_some_iff.mp found
  obtain ⟨place, behind, rfl⟩ := Option.map_eq_some_iff.mp next
  obtain ⟨inner, rfl⟩ := Site.neighbour?_eq_some.mp behind
  exact weight_eq (spacing_pos solid apart) solid inside inner

end Parts

/-- In exact arithmetic, a box with cells along each axis and with bounds that are apart gives a mesh
of equal cells. -/
theorem ofBlock_regular (block : Block α) (solid : ∀ axis, 1 ≤ block.cells.entry axis)
    (apart : ∀ axis, block.low.entry axis < block.high.entry axis) :
    ∃ mesh, Mesh.ofBlock block = .ok mesh ∧ block.Regular mesh := by
  refine ⟨block.mesh, ofBlock_eq solid apart, ?_⟩
  exact {
    points := fun _ below => getElem?_points below
    count := by rw [Mesh.assemble_cellCount, cellCount_eq solid]
    cells := fun index cell found => by
      obtain ⟨place, below, here, centre, volume⟩ := cells_regular solid apart found
      refine ⟨place, below, here, ?_, volume.trans cellSize_eq⟩
      rw [centre, Vec3.divide_def]
      rfl
    total := volumes_sum solid apart
    faces := fun face member => by
      rw [assemble_faces solid] at member
      obtain ⟨site, inside, rfl⟩ := List.mem_map.mp member
      obtain ⟨p, q, r, s, rectangle⟩ := face_rectangle solid apart inside
      exact ⟨site.axis, p, q, r, s, rectangle, face_outward solid apart inside⟩
    weights := weights_regular solid apart }

noncomputable def diagonalBox : Block Real := ⟨⟨3, 2, 1⟩, ⟨0, 0, -1⟩, ⟨1, √(2 : Nat), 1⟩⟩

theorem ofBlock_regular_diagonalBox : (∀ axis, 1 ≤ diagonalBox.cells.entry axis) ∧
    (∀ axis, diagonalBox.low.entry axis < diagonalBox.high.entry axis) ∧
    ∃ mesh, Mesh.ofBlock diagonalBox = .ok mesh ∧ diagonalBox.Regular mesh := by
  have solid : ∀ axis, 1 ≤ diagonalBox.cells.entry axis := by
    intro axis
    cases axis <;> decide
  have apart : ∀ axis, diagonalBox.low.entry axis < diagonalBox.high.entry axis := by
    intro axis
    cases axis <;> norm_num [diagonalBox, Vec3.entry]
  exact ⟨solid, apart, ofBlock_regular diagonalBox solid apart⟩

end Block

end MeshLang
