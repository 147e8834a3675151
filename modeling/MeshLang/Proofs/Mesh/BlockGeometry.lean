import Mathlib.Tactic.LinearCombination
import MeshLang.Proofs.Mesh.BlockFaces
import MeshLang.Proofs.Mesh.Shapes
import MeshLang.Proofs.Tensor.Vectors

namespace MeshLang

theorem getElem?_flatMap_range {γ : Type} {f : Nat → List γ} {width count row column : Nat}
    (each : ∀ row, (f row).length = width) (inside : row < count) (within : column < width) :
    ((List.range count).flatMap f)[column + width * row]? = (f row)[column]? := by
  have whole (rows : Nat) : ((List.range rows).flatMap f).length = width * rows := by
    simp [List.length_flatMap, each, Nat.mul_comm]
  induction count with
  | zero => exact absurd inside (Nat.not_lt_zero row)
  | succ rows ih =>
    rw [List.range_succ, List.flatMap_append, List.flatMap_singleton]
    rcases Nat.lt_succ_iff_lt_or_eq.mp inside with earlier | rfl
    · have first : column + width * row < width * rows := Vec3.digit_lt within earlier
      rw [List.getElem?_append_left (by rwa [whole]), ih earlier]
    · rw [List.getElem?_append_right (by rw [whole]; omega), whole, Nat.add_sub_cancel]

namespace Axis

variable (axis : Axis) (level a b : Nat)

theorem step_place_next : axis.next.step (axis.place level a b) = axis.place level (a + 1) b := by
  cases axis <;> rfl

theorem step_place_last :
    axis.next.next.step (axis.place level a b) = axis.place level a (b + 1) := by
  cases axis <;> rfl

end Axis

namespace Block

variable {α : Type} [ExactScalar α] {block : Block α} {site : Site} {p : Vec3 Nat}

section Points

def coordinate (block : Block α) (axis : Axis) (level : Nat) : α :=
  block.low.entry axis + block.extent.entry axis * (level / block.cells.entry axis)

def position (block : Block α) (place : Vec3 Nat) : Vec3 α :=
  ⟨block.coordinate .x place.x, block.coordinate .y place.y, block.coordinate .z place.z⟩

def spacing (block : Block α) (axis : Axis) : α :=
  block.extent.entry axis / block.cells.entry axis

theorem coordinate_succ (axis : Axis) (level : Nat) :
    block.coordinate axis (level + 1) = block.coordinate axis level + block.spacing axis := by
  unfold coordinate spacing
  push_cast
  ring

theorem position_entry (place : Vec3 Nat) (axis : Axis) :
    (block.position place).entry axis = block.coordinate axis (place.entry axis) := by
  cases axis <;> rfl

theorem position_step (axis : Axis) (place : Vec3 Nat) :
    block.position (axis.step place) = block.position place + axis.along (block.spacing axis) := by
  cases axis <;> ext <;>
    simp [position, Axis.step, Axis.place, Axis.next, Axis.along, Vec3.entry, coordinate_succ]

theorem getElem?_points (below : p.Below block.pointCounts) :
    block.points[block.pointIndex p]? = some (block.position p) := by
  have x : p.x < block.cells.x + 1 := below .x
  have y : p.y < block.cells.y + 1 := below .y
  have z : p.z < block.cells.z + 1 := below .z
  have index : block.pointIndex p = p.x + (block.cells.x + 1) * p.y +
      (block.cells.x + 1) * (block.cells.y + 1) * p.z := by
    unfold pointIndex
    ring
  unfold points
  dsimp only
  rw [index, getElem?_flatMap_range (fun _ => by simp [List.length_flatMap, Nat.mul_comm]) z
    (Vec3.digit_lt x y), getElem?_flatMap_range (fun _ => by simp) y x]
  simp [x, position, coordinate, ExactScalar.ofNat_eq, Vec3.entry]

end Points

section Bounds

abbrev mesh (block : Block α) : Mesh α := Mesh.assemble block.addressing

theorem extent_entry (axis : Axis) :
    block.extent.entry axis = block.high.entry axis - block.low.entry axis :=
  Vec3.sub_entry _ _ axis

theorem coordinate_zero (axis : Axis) : block.coordinate axis 0 = block.low.entry axis := by
  simp [coordinate]

def boxVolume (block : Block α) : α := block.extent.x * block.extent.y * block.extent.z

def cellSize (block : Block α) : α := block.spacing .x * block.spacing .y * block.spacing .z

theorem cellSize_eq : block.cellSize =
    block.boxVolume / (block.cells.x * block.cells.y * block.cells.z) := by
  unfold cellSize boxVolume spacing
  rw [div_mul_div_comm, div_mul_div_comm]
  rfl

variable (solid : ∀ axis, 1 ≤ block.cells.entry axis)
include solid

theorem cells_ne_zero [CharZero α] (axis : Axis) : (block.cells.entry axis : α) ≠ 0 :=
  Nat.cast_ne_zero.mpr (Nat.ne_of_gt (solid axis))

theorem coordinate_last [CharZero α] (axis : Axis) :
    block.coordinate axis (block.cells.entry axis) = block.high.entry axis := by
  unfold coordinate
  rw [div_self (cells_ne_zero solid axis), mul_one, extent_entry, add_sub_cancel]

variable [LinearOrder α] [OrderedScalar α]
variable (apart : ∀ axis, block.low.entry axis < block.high.entry axis)
include apart

theorem spacing_pos (axis : Axis) : 0 < block.spacing axis := by
  have cells : (0 : α) < block.cells.entry axis := Nat.cast_pos.mpr (solid axis)
  unfold spacing
  rw [extent_entry]
  exact div_pos (sub_pos.mpr (apart axis)) cells

theorem ofBlock_eq : Mesh.ofBlock block = .ok block.mesh := by
  have extent (axis : Axis) : Scalar.le (block.extent.entry axis) Scalar.zero = false := by
    rw [Bool.eq_false_iff, Ne, OrderedScalar.le_iff, ExactScalar.zero_eq, extent_entry]
    exact not_le.mpr (sub_pos.mpr (apart axis))
  unfold Mesh.ofBlock Mesh.ofAddressing
  rw [isEmpty_eq_false solid extent, check_ok solid]
  rfl

end Bounds

section Middles

def middle (block : Block α) (place : Vec3 Nat) : Vec3 α :=
  (2 : α)⁻¹ • (block.position place + block.position (place.map (· + 1)))

def half (block : Block α) (axis : Axis) : Vec3 α := axis.along (block.spacing axis / 2)

def faceMiddle (block : Block α) (site : Site) : Vec3 α :=
  block.position site.behind + block.half site.axis.next + block.half site.axis.next.next

theorem faceMiddle_entry (site : Site) :
    (block.faceMiddle site).entry site.axis = block.coordinate site.axis site.level := by
  simp [faceMiddle, half, position_entry, Site.behind]

variable [CharZero α]

theorem twice_half (axis : Axis) : (2 : α) • block.half axis = axis.along (block.spacing axis) := by
  rw [half, Axis.smul_along, mul_div_cancel₀ _ two_ne_zero]

theorem middle_eq (axis : Axis) (place : Vec3 Nat) : block.middle place =
    block.position place + block.half axis + block.half axis.next + block.half axis.next.next := by
  have opposite : place.map (· + 1) = axis.step (axis.next.step (axis.next.next.step place)) := by
    cases axis <;> rfl
  unfold middle
  rw [opposite, position_step, position_step, position_step, ← twice_half, ← twice_half, ← twice_half]
  module

theorem middle_step (axis : Axis) (place : Vec3 Nat) :
    block.middle (axis.step place) = block.middle place + axis.along (block.spacing axis) := by
  rw [middle_eq axis, middle_eq axis, position_step]
  abel

theorem faceMiddle_eq (site : Site) :
    block.faceMiddle site = block.middle site.behind - block.half site.axis := by
  rw [middle_eq site.axis, faceMiddle]
  abel

theorem faceMiddle_before (axis : Axis) (place : Vec3 Nat) :
    block.faceMiddle (.before axis place) = block.middle place - block.half axis := by
  have behind : (Site.before axis place).behind = place := axis.place_entries place
  rw [faceMiddle_eq, behind]
  rfl

theorem faceMiddle_step {place : Vec3 Nat} (next : site.behind = site.axis.step place) :
    block.faceMiddle site = block.middle place + block.half site.axis := by
  rw [faceMiddle_eq, next, middle_step, ← twice_half]
  module

theorem faceMiddle_after (axis : Axis) (place : Vec3 Nat) :
    block.faceMiddle (.after axis place) = block.middle place + block.half axis :=
  faceMiddle_step rfl

end Middles

section Senses

/-- One where normals point along their axis, minus one at the lower end, where they point out of the
box. -/
def Site.sense (site : Site) : α := if site.level = 0 then -1 else 1

theorem Site.sense_of_inner (inner : site.isInner block = true) : (site.sense : α) = 1 := by
  simp only [isInner, Bool.and_eq_true, decide_eq_true_eq] at inner
  exact if_neg (Nat.ne_of_gt inner.1)

theorem Site.sense_ne_zero (site : Site) : (site.sense : α) ≠ 0 := by
  unfold sense
  split
  · exact neg_ne_zero.mpr one_ne_zero
  · exact one_ne_zero

theorem sign_before (axis : Axis) (place : Vec3 Nat) :
    (lowerSide axis place).sign * (Site.before axis place).sense = (-1 : α) := by
  unfold lowerSide Site.sense
  show _ * (if place.entry axis = 0 then _ else _) = _
  split <;> simp [Side.sign]

theorem sign_after (axis : Axis) (place : Vec3 Nat) :
    Side.owner.sign * (Site.after axis place).sense = (1 : α) := by
  simp [Side.sign, Site.sense, Site.after]

variable [CharZero α]

theorem sign_offset (block : Block α) {side : Side} (lies : (site, side) ∈ around p) :
    side.sign * site.sense * (block.faceMiddle site - block.middle p).entry site.axis =
      block.spacing site.axis / 2 := by
  have reach (axis : Axis) : (block.half axis).entry axis = block.spacing axis / 2 :=
    axis.along_entry _
  rcases mem_around.mp lies with ⟨same, rfl⟩ | ⟨same, rfl⟩
  · have sign : (lowerSide site.axis p).sign * site.sense = (-1 : α) := by
      rw [same]
      exact sign_before site.axis p
    have offset : block.faceMiddle site - block.middle p = -block.half site.axis := by
      rw [same, faceMiddle_before, sub_sub_cancel_left]
      rfl
    rw [sign, offset, Vec3.neg_entry, reach, neg_one_mul, neg_neg]
  · have sign : Side.owner.sign * site.sense = (1 : α) := by
      rw [same]
      exact sign_after site.axis p
    have offset : block.faceMiddle site - block.middle p = block.half site.axis := by
      rw [same, faceMiddle_after, add_sub_cancel_left]
      rfl
    rw [sign, offset, reach, one_mul]

end Senses

section Faces

def squareSize (block : Block α) (axis : Axis) : α :=
  block.spacing axis.next * block.spacing axis.next.next

theorem squareSize_mul (block : Block α) (axis : Axis) :
    block.squareSize axis * block.spacing axis = block.cellSize := by
  unfold squareSize cellSize
  cases axis <;> simp only [Axis.next] <;> ring

variable [CharZero α]

theorem places_square (member : site ∈ block.sites) :
    (block.square site.axis site.level site.a site.b).map (block.points[·]?) =
      (parallelogram (block.faceMiddle site) (block.half site.axis.next)
        (block.half site.axis.next.next)).map some := by
  obtain ⟨level, a, b⟩ := mem_sites.mp member
  have found {c d : Nat} (next : c ≤ site.a + 1) (last : d ≤ site.b + 1) :
      block.points[block.pointIndex (site.axis.place site.level c d)]? =
        some (block.position (site.axis.place site.level c d)) := by
    refine getElem?_points ((Axis.forall_entries site.axis).mpr ?_)
    simp only [pointCounts_entry, Axis.place_entry, Axis.place_next, Axis.place_last]
    omega
  have next (c d : Nat) : block.position (site.axis.place site.level (c + 1) d) =
      block.position (site.axis.place site.level c d) + (2 : α) • block.half site.axis.next := by
    rw [← Axis.step_place_next, position_step, twice_half]
  have last (c d : Nat) : block.position (site.axis.place site.level c (d + 1)) =
      block.position (site.axis.place site.level c d) + (2 : α) • block.half site.axis.next.next := by
    rw [← Axis.step_place_last, position_step, twice_half]
  -- The middle is half a step along both axes across from the first corner.
  have here := Nat.le_succ site.a
  have there := Nat.le_succ site.b
  simp only [square, parallelogram, List.map_cons, List.map_nil, found here there, found le_rfl there,
    found here le_rfl, found le_rfl le_rfl, next, last, faceMiddle, Site.behind, List.cons.injEq,
    Option.some.injEq, and_true]
  refine ⟨?_, ?_, ?_, ?_⟩ <;> module

theorem places_corners (member : site ∈ block.sites) :
    (site.corners block).map (block.points[·]?) =
      (parallelogram (block.faceMiddle site) (block.half site.axis.next)
        ((site.sense : α) • block.half site.axis.next.next)).map some := by
  unfold Site.corners Site.sense
  dsimp only
  split
  · rw [List.map_reverse, places_square member, ← List.map_reverse, parallelogram_reverse, neg_one_smul]
  · rw [places_square member, one_smul]

theorem face_places (member : site ∈ block.sites) :
    (site.corners block).map (block.points.getD · Vec3.zero) =
      parallelogram (block.faceMiddle site) (block.half site.axis.next)
        ((site.sense : α) • block.half site.axis.next.next) := by
  have found := congrArg (List.map (·.getD Vec3.zero)) (places_corners member)
  simpa [Function.comp_def] using found

theorem half_cross (axis : Axis) (sense : α) :
    (block.half axis.next).cross (sense • block.half axis.next.next) =
      axis.along (sense * block.squareSize axis / 4) := by
  unfold half squareSize
  rw [Axis.smul_along, Axis.cross_along]
  congr 1
  ring

theorem face_area (member : site ∈ block.sites) :
    (block.face site).area = site.axis.along (site.sense * block.squareSize site.axis) := by
  show faceArea ((site.corners block).map _) = _
  rw [face_places member, faceArea_parallelogram, half_cross, Axis.smul_along,
    mul_div_cancel₀ _ (OfNat.ofNat_ne_zero 4)]

end Faces

section Cells

variable [LinearOrder α] [OrderedScalar α] (spread : ∀ axis, 0 < block.spacing axis)
include spread

theorem squareSize_pos (axis : Axis) : 0 < block.squareSize axis :=
  mul_pos (spread axis.next) (spread axis.next.next)

theorem cellSize_pos : 0 < block.cellSize := mul_pos (mul_pos (spread .x) (spread .y)) (spread .z)

theorem area_norm (member : site ∈ block.sites) :
    (block.face site).area.norm = block.squareSize site.axis := by
  have unit : |(site.sense : α)| = 1 := by
    unfold Site.sense
    split
    · rw [abs_neg, abs_one]
    · exact abs_one
  rw [face_area member, Axis.norm_along, abs_mul, unit, one_mul,
    abs_of_pos (squareSize_pos spread site.axis)]

theorem area_ne_zero (member : site ∈ block.sites) : (block.face site).area ≠ 0 := by
  intro flat
  have size := (squareSize_pos spread site.axis).ne'
  have entry := congrArg (·.entry site.axis) flat
  simp only [face_area member, Axis.along_entry, Vec3.zero_entry] at entry
  exact mul_ne_zero site.sense_ne_zero size entry

theorem area_normalized (member : site ∈ block.sites) (inner : site.isInner block = true) :
    (block.face site).area.normalized = site.axis.along 1 := by
  rw [face_area member, Site.sense_of_inner inner, one_mul]
  exact Axis.normalized_along site.axis (squareSize_pos spread site.axis)

theorem face_centre (member : site ∈ block.sites) :
    (block.face site).centre = block.faceMiddle site := by
  have area : (site.sense * block.squareSize site.axis / 4 : α) ≠ 0 :=
    div_ne_zero (mul_ne_zero site.sense_ne_zero (squareSize_pos spread site.axis).ne') four_ne_zero
  show faceCentre ((site.corners block).map _) = _
  rw [face_places member]
  apply faceCentre_parallelogram
  rw [half_cross, Axis.norm_along]
  exact abs_ne_zero.mpr area

variable (solid : ∀ axis, 1 ≤ block.cells.entry axis) (below : p.Below block.cells)
include solid below

omit spread [LinearOrder α] [OrderedScalar α] in
/-- Sums over the faces around a cell go over the axes, with two faces for each. -/
theorem sum_around {ε : Type} [AddCommMonoid ε] (f : Face α × Side → ε) :
    ((facesAround (block.sites.map block.face) (block.cellIndex p)).map f).sum =
      (Axis.all.map fun axis => f (block.face (.before axis p), lowerSide axis p) +
        f (block.face (.after axis p), .owner)).sum := by
  rw [((facesAround_perm solid below).map f).sum_eq]
  simp [around, Axis.all, add_assoc]

omit spread [LinearOrder α] [OrderedScalar α] in
theorem facesAround_length :
    (facesAround (block.sites.map block.face) (block.cellIndex p)).length = 6 :=
  (facesAround_perm solid below).length_eq

theorem cellMiddle_block :
    cellMiddle (facesAround (block.sites.map block.face) (block.cellIndex p)) = block.middle p := by
  have six := facesAround_length solid below
  have pairs (axis : Axis) :
      (block.face (.before axis p)).centre + (block.face (.after axis p)).centre =
        (2 : α) • block.middle p := by
    rw [face_centre spread (Site.before_mem below axis), face_centre spread (Site.after_mem below axis),
      faceMiddle_before, faceMiddle_after]
    module
  rw [cellMiddle_eq (List.ne_nil_of_length_eq_add_one six), sum_around solid below, six]
  simp only [pairs, Axis.all, List.map_cons, List.map_nil, List.sum_cons, List.sum_nil]
  push_cast
  module

theorem pyramidVolume_block {side : Face α × Side}
    (member : side ∈ facesAround (block.sites.map block.face) (block.cellIndex p)) :
    pyramidVolume (block.middle p) side = block.cellSize / 6 := by
  obtain ⟨⟨site, lies⟩, here, rfl⟩ :=
    List.mem_map.mp ((facesAround_perm solid below).mem_iff.mp member)
  have inside := mem_sites_of_around below here
  have size := squareSize_mul block site.axis
  have offset := sign_offset block here
  -- The base times half a step along the axis is half of the cell, and a pyramid is a third of that.
  rw [pyramidVolume_eq, face_area inside, face_centre spread inside, Axis.along_dot]
  linear_combination size / 6 + block.squareSize site.axis * offset / 3

theorem cell_block (count : Nat) :
    (Cell.ofFaces (block.sites.map block.face) count (block.cellIndex p)).centre = block.middle p ∧
      (Cell.ofFaces (block.sites.map block.face) count (block.cellIndex p)).volume =
        block.cellSize := by
  have six := facesAround_length solid below
  have middle := cellMiddle_block spread solid below
  have even : ∀ side ∈ facesAround (block.sites.map block.face) (block.cellIndex p),
      pyramidVolume (cellMiddle (facesAround (block.sites.map block.face) (block.cellIndex p))) side =
        block.cellSize / 6 := by
    rw [middle]
    exact fun side member => pyramidVolume_block spread solid below member
  have solidSize : block.cellSize / 6 ≠ 0 := div_ne_zero (cellSize_pos spread).ne' (OfNat.ofNat_ne_zero 6)
  constructor
  · show cellCentre _ _ = _
    rw [cellCentre_even solidSize (List.ne_nil_of_length_eq_add_one six) even, middle]
  · show cellVolume _ _ = _
    rw [cellVolume_even even, six]
    push_cast
    ring

end Cells

section Meshes

variable [LinearOrder α] [OrderedScalar α] (spread : ∀ axis, 0 < block.spacing axis)
variable (solid : ∀ axis, 1 ≤ block.cells.entry axis)
include spread

omit spread [LinearOrder α] [OrderedScalar α] in
include solid in
theorem exists_place {index : Nat} {cell : Cell α} (found : block.mesh.cells[index]? = some cell) :
    ∃ place : Vec3 Nat, place.Below block.cells ∧ block.cellIndex place = index := by
  have small := (List.getElem?_eq_some_iff.mp found).1
  rw [Mesh.assemble_cellCount, cellCount_eq solid] at small
  exact Vec3.exists_number small

omit spread [LinearOrder α] [OrderedScalar α] in
include solid in
theorem mesh_built : block.mesh.Built :=
  .ofAddressing (a := block.addressing) (by rw [Mesh.ofAddressing, check_ok solid])

include solid in
theorem areas_ne_zero : ∀ face ∈ block.mesh.faces, face.area ≠ 0 := by
  intro face listed
  rw [assemble_faces solid] at listed
  obtain ⟨site, member, rfl⟩ := List.mem_map.mp listed
  exact area_ne_zero spread member

theorem half_norm (axis : Axis) : (block.half axis).norm = block.spacing axis / 2 := by
  rw [half, Axis.norm_along]
  exact abs_of_pos (half_pos (spread axis))

include solid

theorem cells_getElem? (below : p.Below block.cells) :
    ∃ cell, block.mesh.cells[block.cellIndex p]? = some cell ∧
      cell.centre = block.middle p ∧ cell.volume = block.cellSize := by
  have small : block.cellIndex p < block.addressing.cellCount := by
    rw [cellCount_eq solid]
    exact Vec3.number_lt below
  refine ⟨_, Mesh.assemble_cell small, ?_⟩
  rw [assemble_faces solid]
  exact cell_block spread solid below _

theorem centreOf_cell (below : p.Below block.cells) :
    block.mesh.centreOf (block.cellIndex p) = block.middle p := by
  obtain ⟨cell, found, centre, -⟩ := cells_getElem? spread solid below
  rw [Mesh.centreOf, found]
  exact centre

theorem centreOf_owner (member : site ∈ block.sites) :
    block.mesh.centreOf (block.face site).owner = block.middle site.owner :=
  centreOf_cell spread solid (site.owner_below solid member)

theorem weight_eq (member : site ∈ block.sites) (inner : site.isInner block = true) :
    block.mesh.weight (block.face site) (block.cellIndex site.behind) =
      1 / 2 := by
  have step := Site.behind_eq_step inner
  have owner : (block.face site).centre - block.middle site.owner = block.half site.axis := by
    rw [face_centre spread member, faceMiddle_step step, add_sub_cancel_left]
  have behind : (block.face site).centre - block.middle site.behind = -block.half site.axis := by
    rw [face_centre spread member, faceMiddle_eq, sub_sub_cancel_left]
  have reach := (half_pos (spread site.axis)).ne'
  -- Both distances are half a step; the one over the other is a half, whatever the step is.
  unfold Mesh.weight
  rw [centreOf_owner spread solid member,
    centreOf_cell spread solid (site.behind_below member inner), owner, behind, Vec3.norm_neg, half_norm spread]
  dsimp only
  rw [ExactScalar.half_eq, ← two_mul, ← one_div, div_mul_cancel_right₀ reach, one_div, ite_self]

end Meshes

end Block

end MeshLang
