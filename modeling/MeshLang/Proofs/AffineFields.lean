import MeshLang.Proofs.Mesh.AffineSamples

namespace MeshLang

variable {α : Type} [ExactScalar α]

def Mesh.affine (mesh : Mesh α) (slope : Vec3 α) (offset : α) : Value α :=
  .scalar .volume (mesh.samples slope offset)

namespace Block

/-- A cell has no point on the two sides of the box across an axis. -/
def Clear (block : Block α) (mesh : Mesh α) (axis : Axis) (cell : Cell α) : Prop :=
  ∀ point ∈ cell.points, ∀ position, mesh.points[point]? = some position →
    position.entry axis ≠ block.low.entry axis ∧ position.entry axis ≠ block.high.entry axis

/-- What the derivatives of an affine function are on the mesh of a block: exact along every axis
along which a cell has cells on both sides, exact across faces between cells, and nothing diffuses
inside. -/
structure AffineExact (block : Block α) (mesh : Mesh α) : Prop where
  gradient : ∀ slope offset, ∃ slopes : List (Vec3 α),
    mesh.grad (mesh.affine slope offset) = .ok (.vector .volume slopes) ∧
      slopes.length = mesh.cells.length ∧
      ∀ (index : Nat) (cell : Cell α) (axis : Axis), mesh.cells[index]? = some cell →
        block.Clear mesh axis cell →
          ∃ v : Vec3 α, slopes[index]? = some v ∧ v.entry axis = slope.entry axis
  normal : ∀ slope offset, mesh.snGrad (mesh.affine slope offset) =
    .ok (.scalar .surface (mesh.faces.map fun face =>
      if face.isInternal then slope.dot face.area.normalized else 0))
  diffusion : ∀ slope offset, ∃ values : List α,
    mesh.laplacian none (mesh.affine slope offset) = .ok (.scalar .volume values) ∧
      values.length = mesh.cells.length ∧
      ∀ index < mesh.cells.length,
        (∀ face ∈ mesh.faces, face.owner = index → face.isInternal = true) →
          values[index]? = some 0

section Parts

variable {block : Block α} {site : Site} {p : Vec3 Nat}

theorem face_isInternal (block : Block α) (site : Site) :
    (block.face site).isInternal = site.isInner block := by
  show ((site.neighbour? block).map block.cellIndex).isSome = _
  unfold Site.neighbour?
  split <;> simp [*]

omit [ExactScalar α] in
theorem behind_mem_corners : block.pointIndex site.behind ∈ site.corners block := by
  have square : block.pointIndex site.behind ∈
      block.square site.axis site.level site.a site.b := by
    simp [square, Site.behind]
  unfold Site.corners
  dsimp only
  split
  · exact List.mem_reverse.mpr square
  · exact square

variable (solid : ∀ axis, 1 ≤ block.cells.entry axis) (below : p.Below block.cells)
include solid below

theorem exists_point {side : Side} (lies : (site, side) ∈ around p) {cell : Cell α}
    (found : block.mesh.cells[block.cellIndex p]? = some cell) :
    ∃ point ∈ cell.points, ∃ position, block.mesh.points[point]? = some position ∧
      position.entry site.axis = block.coordinate site.axis site.level := by
  have member := mem_sites_of_around below lies
  obtain ⟨level, a, b⟩ := mem_sites.mp member
  have inside : site.behind.Below block.pointCounts := by
    refine (Axis.forall_entries site.axis).mpr ?_
    simp only [Site.behind, pointCounts_entry, Axis.place_entry, Axis.place_next, Axis.place_last]
    omega
  have incident : Face.Incident block.mesh.faces (block.cellIndex p)
      (block.pointIndex site.behind) := by
    refine ⟨block.face site, ?_, ?_, behind_mem_corners⟩
    · rw [assemble_faces solid]
      exact List.mem_map.mpr ⟨site, member, rfl⟩
    · exact (Face.mem_sides.mp ((mem_sides_face solid below member).mpr lies)).imp And.right And.right
  have wellFormed := Addressing.check_iff_wellFormed.mp (check_ok solid)
  obtain ⟨cell', here, listed⟩ := (Mesh.mem_assemble_points wellFormed).mpr incident
  cases Option.some.inj (found.symm.trans here)
  refine ⟨_, listed, _, getElem?_points inside, ?_⟩
  rw [position_entry, Site.behind, Axis.place_entry]

theorem within_of_clear [CharZero α] {axis : Axis} {cell : Cell α}
    (found : block.mesh.cells[block.cellIndex p]? = some cell)
    (clear : block.Clear block.mesh axis cell) : block.Within axis p := by
  have small := below axis
  have lies : (Site.before axis p, lowerSide axis p) ∈ around p := mem_around.mpr (.inl ⟨rfl, rfl⟩)
  have lies' : (Site.after axis p, .owner) ∈ around p := mem_around.mpr (.inr ⟨rfl, rfl⟩)
  constructor
  · obtain ⟨point, listed, position, here, level⟩ := exists_point solid below lies found
    have apart := (clear point listed position here).1
    refine Nat.pos_of_ne_zero fun low => apart ?_
    have first : (Site.before axis p).level = 0 := low
    rw [first, coordinate_zero] at level
    exact level
  · obtain ⟨point, listed, position, here, level⟩ := exists_point solid below lies' found
    have apart := (clear point listed position here).2
    refine Nat.lt_of_le_of_ne small fun high => apart ?_
    have last : (Site.after axis p).level = block.cells.entry axis := high
    rw [last] at level
    exact level.trans (coordinate_last solid axis)

theorem within_of_internal
    (internal : ∀ face ∈ block.mesh.faces, face.owner = block.cellIndex p → face.isInternal = true)
    (axis : Axis) : block.Within axis p := by
  have inner {site : Site} (member : site ∈ block.sites) (owner : site.owner = p) :
      0 < site.level ∧ site.level < block.cells.entry site.axis := by
    have listed : block.face site ∈ block.mesh.faces := by
      rw [assemble_faces solid]
      exact List.mem_map.mpr ⟨site, member, rfl⟩
    have between := internal _ listed (congrArg block.cellIndex owner)
    rw [face_isInternal] at between
    simpa [Site.isInner] using between
  constructor
  · refine Nat.pos_of_ne_zero fun low => ?_
    have owner : (Site.before axis p).owner = p := Site.owner_eq_iff.mpr (.inr ⟨rfl, low⟩)
    exact absurd (inner (Site.before_mem below axis) owner).1 (Nat.not_lt.mpr (Nat.le_of_eq low))
  · have owner : (Site.after axis p).owner = p := Site.owner_eq_iff.mpr (.inl rfl)
    exact (inner (Site.after_mem below axis) owner).2

end Parts

section Ordered

variable {block : Block α} [LinearOrder α] [OrderedScalar α]
variable (solid : ∀ axis, 1 ≤ block.cells.entry axis) (spread : ∀ axis, 0 < block.spacing axis)
variable (slope : Vec3 α) (offset : α)
include solid spread

theorem gradient_affine : ∃ slopes : List (Vec3 α),
    block.mesh.grad (block.mesh.affine slope offset) = .ok (.vector .volume slopes) ∧
      slopes.length = block.mesh.cells.length ∧
      ∀ (index : Nat) (cell : Cell α) (axis : Axis), block.mesh.cells[index]? = some cell →
        block.Clear block.mesh axis cell →
          ∃ v : Vec3 α, slopes[index]? = some v ∧ v.entry axis = slope.entry axis := by
  refine ⟨_, Mesh.grad_scalars (block.mesh.samples_length slope offset) .scalar none,
    block.mesh.gauss_length _ _, fun index cell axis found clear => ?_⟩
  obtain ⟨place, below, rfl⟩ := exists_place solid found
  have within := within_of_clear solid below found clear
  have part := gradient_samples solid spread slope offset below within
  rw [List.getElem?_map] at part
  exact Option.map_eq_some_iff.mp part

theorem normal_affine : block.mesh.snGrad (block.mesh.affine slope offset) =
    .ok (.scalar .surface (block.mesh.faces.map fun face =>
      if face.isInternal then slope.dot face.area.normalized else 0)) := by
  have accepted : block.mesh.expect .volume (block.mesh.affine slope offset) = .ok () :=
    Mesh.expect_of_size (block.mesh.samples_length slope offset)
  have slopes : block.mesh.normalGradients (block.mesh.samples slope offset) =
      block.mesh.faces.map fun face =>
        if face.isInternal then slope.dot face.area.normalized else 0 := by
    apply List.map_congr_left
    intro face listed
    rw [assemble_faces solid] at listed
    obtain ⟨site, member, rfl⟩ := List.mem_map.mp listed
    rw [face_isInternal]
    by_cases inner : site.isInner block = true
    · rw [if_pos inner, normalGradient_samples solid spread slope offset member inner,
        area_normalized spread member inner, Axis.dot_along, mul_one]
    · have outer : (block.face site).neighbour? = none :=
        congrArg (Option.map block.cellIndex) (if_neg inner)
      rw [if_neg inner, Mesh.normalGradient, outer]
      exact ExactScalar.zero_eq
  unfold Mesh.snGrad
  rw [accepted, ← slopes]
  rfl

theorem diffusion_affine : ∃ values : List α,
    block.mesh.laplacian none (block.mesh.affine slope offset) = .ok (.scalar .volume values) ∧
      values.length = block.mesh.cells.length ∧
      ∀ index < block.mesh.cells.length,
        (∀ face ∈ block.mesh.faces, face.owner = index → face.isInternal = true) →
          values[index]? = some 0 := by
  refine ⟨_, block.mesh.laplacian_eq (block.mesh.samples_length slope offset),
    block.mesh.outflow_length _, fun index inside internal => ?_⟩
  obtain ⟨place, below, rfl⟩ := exists_place solid (List.getElem?_eq_getElem inside)
  exact diffusion_samples solid spread slope offset below (within_of_internal solid below internal)

end Ordered

/-- In exact arithmetic, derivatives are exact for affine functions on the mesh of any block. -/
theorem ofBlock_affineExact [LinearOrder α] [OrderedScalar α] (block : Block α)
    (solid : ∀ axis, 1 ≤ block.cells.entry axis)
    (apart : ∀ axis, block.low.entry axis < block.high.entry axis) :
    ∃ mesh, Mesh.ofBlock block = .ok mesh ∧ block.AffineExact mesh := by
  have spread := spacing_pos solid apart
  exact ⟨block.mesh, ofBlock_eq solid apart, {
    gradient := gradient_affine solid spread
    normal := normal_affine solid spread
    diffusion := diffusion_affine solid spread }⟩

def bricks : Block Rat := ⟨⟨3, 3, 4⟩, ⟨0, 0, -1⟩, ⟨1, 2, 3⟩⟩

theorem ofBlock_affineExact_bricks : (∀ axis, 1 ≤ bricks.cells.entry axis) ∧
    (∀ axis, bricks.low.entry axis < bricks.high.entry axis) ∧
    ∃ mesh, Mesh.ofBlock bricks = .ok mesh ∧ bricks.AffineExact mesh := by
  have solid : ∀ axis, 1 ≤ bricks.cells.entry axis := by
    intro axis
    cases axis <;> decide
  have apart : ∀ axis, bricks.low.entry axis < bricks.high.entry axis := by
    intro axis
    cases axis <;> decide +kernel
  exact ⟨solid, apart, ofBlock_affineExact bricks solid apart⟩

end Block

end MeshLang
