import Mathlib.Tactic.FieldSimp
import MeshLang.Proofs.Derivatives
import MeshLang.Proofs.Mesh.BlockGeometry
import MeshLang.Proofs.Mesh.FaceSums

namespace MeshLang

theorem Axis.sum_all {ε : Type} [AddCommMonoid ε] {f : Axis → ε} (axis : Axis)
    (others : ∀ other, other ≠ axis → f other = 0) : (all.map f).sum = f axis := by
  cases axis <;> simp [all, others]

variable {α : Type} [ExactScalar α]

def Mesh.samples (mesh : Mesh α) (slope : Vec3 α) (offset : α) : List α :=
  mesh.cellCentres.map fun centre => slope.dot centre + offset

theorem Mesh.samples_length (mesh : Mesh α) (slope : Vec3 α) (offset : α) :
    (mesh.samples slope offset).length = mesh.size .volume := by
  rw [samples, cellCentres, List.length_map, List.length_map]
  rfl

theorem Mesh.gauss_eq {ε δ : Type} [Element α ε] [Element α δ] (mesh : Mesh α)
    (product : Vec3 α → δ → ε) (values : List δ) : mesh.gauss product values =
      mesh.perVolume (mesh.netOutflow (mesh.faces.map fun face =>
        product face.area (mesh.faceValue values face))) := by
  unfold gauss faceAreas faceValues
  rw [List.zipWith_map, List.zipWith_self]

theorem Mesh.laplacian_eq (mesh : Mesh α) {values : List α}
    (all : values.length = mesh.size .volume) :
    mesh.laplacian none (.scalar .volume values) =
      .ok (.scalar .volume (mesh.perVolume (mesh.netOutflow (mesh.faces.map fun face =>
        mesh.normalGradient values face * face.area.norm)))) := by
  have accepted : mesh.expect .volume (.scalar .volume values) = .ok () := expect_of_size all
  have ones : List.zipWith (· * ·) (mesh.faces.map fun _ => (Scalar.one : α)) mesh.areaSizes =
      mesh.faces.map fun face => face.area.norm := by
    unfold areaSizes faceAreas
    rw [List.map_map, List.zipWith_map, List.zipWith_self]
    simp
  unfold laplacian snGrad faceDiffusivities
  rw [accepted]
  show Except.ok (Value.scalar .volume (mesh.perVolume (mesh.netOutflow
    (List.zipWith (fun x k => Element.scale x k) (mesh.normalGradients values) _)))) = _
  rw [ones, normalGradients, List.zipWith_map, List.zipWith_self]
  rfl

namespace Block

variable {block : Block α} {site : Site} {p : Vec3 Nat}

/-- A place with places on both sides along an axis. -/
def Within (block : Block α) (axis : Axis) (place : Vec3 Nat) : Prop :=
  0 < place.entry axis ∧ place.entry axis + 1 < block.cells.entry axis

omit [ExactScalar α] in
theorem Within.before {axis : Axis} (within : block.Within axis p) :
    (Site.before axis p).isInner block = true := by
  simp [Site.isInner, Site.before, within.1, Nat.lt_of_succ_lt within.2]

omit [ExactScalar α] in
theorem Within.after {axis : Axis} (within : block.Within axis p) :
    (Site.after axis p).isInner block = true := by
  simp [Site.isInner, Site.after, within.2]

theorem face_neighbour (inner : site.isInner block = true) :
    (block.face site).neighbour? = some (block.cellIndex site.behind) :=
  congrArg (Option.map block.cellIndex) (Site.neighbour?_eq_some.mpr ⟨inner, rfl⟩)

variable (solid : ∀ axis, 1 ≤ block.cells.entry axis)
include solid

theorem cellSum_block {ε : Type} [Element α ε] [AddCommGroup ε] [Module α ε] [LawfulElement α ε]
    (below : p.Below block.cells) (f : Face α → ε) :
    block.mesh.cellSum (-Scalar.one) (block.mesh.faces.map f) (block.cellIndex p) =
      (Axis.all.map fun axis => ((lowerSide axis p).sign : α) • f (block.face (.before axis p)) +
        f (block.face (.after axis p))).sum := by
  rw [Mesh.cellSum_faces, assemble_faces solid, sum_around solid below]
  simp only [Side.sign, one_smul]

/-- What flows along an axis leaves a cell through the face after its place and enters it through the
face before. -/
theorem cellSum_along [CharZero α] (below : p.Below block.cells) (axis : Axis) (value : Face α → α) :
    block.mesh.cellSum (-Scalar.one)
        (block.mesh.faces.map fun face => face.area.entry axis * value face) (block.cellIndex p) =
      block.squareSize axis *
        (value (block.face (.after axis p)) - value (block.face (.before axis p))) := by
  -- Faces across other axes have no area along this one.
  have others (other : Axis) (different : other ≠ axis) :
      ((lowerSide other p).sign : α) • ((block.face (.before other p)).area.entry axis *
          value (block.face (.before other p))) +
        (block.face (.after other p)).area.entry axis * value (block.face (.after other p)) =
          (0 : α) := by
    have before : (block.face (.before other p)).area.entry axis = 0 := by
      rw [face_area (Site.before_mem below other)]
      exact other.along_entry_of_ne _ different.symm
    have after : (block.face (.after other p)).area.entry axis = 0 := by
      rw [face_area (Site.after_mem below other)]
      exact other.along_entry_of_ne _ different.symm
    rw [before, after, zero_mul, zero_mul, smul_zero, add_zero]
  have before : (block.face (.before axis p)).area.entry axis =
      (Site.before axis p).sense * block.squareSize axis := by
    rw [face_area (Site.before_mem below axis)]
    exact axis.along_entry _
  have after : (block.face (.after axis p)).area.entry axis =
      (Site.after axis p).sense * block.squareSize axis := by
    rw [face_area (Site.after_mem below axis)]
    exact axis.along_entry _
  have enters : (lowerSide axis p).sign * (Site.before axis p).sense = (-1 : α) := sign_before axis p
  have leaves : Side.owner.sign * (Site.after axis p).sense = (1 : α) := sign_after axis p
  rw [Side.sign, one_mul] at leaves
  rw [cellSum_block solid below, axis.sum_all others, before, after, leaves, smul_eq_mul]
  linear_combination block.squareSize axis * value (block.face (.before axis p)) * enters

variable [LinearOrder α] [OrderedScalar α] (spread : ∀ axis, 0 < block.spacing axis)
variable (slope : Vec3 α) (offset : α)
include spread

theorem samples_getD (below : p.Below block.cells) :
    (block.mesh.samples slope offset).getD (block.cellIndex p) Element.zero =
      slope.dot (block.middle p) + offset := by
  obtain ⟨cell, found, centre, -⟩ := cells_getElem? spread solid below
  have here : (block.mesh.samples slope offset)[block.cellIndex p]? =
      some (slope.dot (block.middle p) + offset) := by
    rw [Mesh.samples, Mesh.cellCentres, List.map_map, List.getElem?_map, found, ← centre]
    rfl
  rw [List.getD_eq_getElem?_getD, here]
  rfl

variable (member : site ∈ block.sites)
include member

theorem samples_owner :
    (block.mesh.samples slope offset).getD (block.face site).owner Element.zero =
      slope.dot (block.middle site.owner) + offset :=
  samples_getD solid spread slope offset (site.owner_below solid member)

variable (inner : site.isInner block = true)
include inner

theorem samples_behind :
    (block.mesh.samples slope offset).getD (block.cellIndex site.behind) Element.zero =
      slope.dot (block.middle site.owner) + slope.entry site.axis * block.spacing site.axis +
        offset := by
  rw [samples_getD solid spread slope offset (site.behind_below member inner),
    Site.behind_eq_step inner, middle_step, Vec3.dot_add, Axis.dot_along]

theorem faceValue_samples : block.mesh.faceValue (block.mesh.samples slope offset) (block.face site) =
    slope.dot (block.faceMiddle site) + offset := by
  have middle : slope.dot (block.faceMiddle site) = slope.dot (block.middle site.owner) +
      slope.entry site.axis * block.spacing site.axis / 2 := by
    rw [faceMiddle_step (Site.behind_eq_step inner), Vec3.dot_add, half, Axis.dot_along, mul_div_assoc]
  unfold Mesh.faceValue
  simp only [face_neighbour inner, samples_owner solid spread slope offset member,
    samples_behind solid spread slope offset member inner, weight_eq spread solid member inner, middle,
    LawfulElement.add_eq, LawfulElement.scale_eq, ExactScalar.one_eq, smul_eq_mul]
  ring

theorem normalGradient_samples :
    block.mesh.normalGradient (block.mesh.samples slope offset) (block.face site) =
      slope.entry site.axis := by
  have way : block.mesh.centreOf (block.cellIndex site.behind) -
      block.mesh.centreOf (block.face site).owner = site.axis.along (block.spacing site.axis) := by
    rw [centreOf_owner spread solid member,
      centreOf_cell spread solid (site.behind_below member inner), Site.behind_eq_step inner, middle_step,
      add_sub_cancel_left]
  have apart := (spread site.axis).ne'
  unfold Mesh.normalGradient
  simp only [face_neighbour inner, samples_owner solid spread slope offset member,
    samples_behind solid spread slope offset member inner, way, area_normalized spread member inner, Axis.dot_along,
    Axis.along_entry, LawfulElement.scale_eq, ExactScalar.one_eq, smul_eq_mul]
  show 1 / (1 * _) * (_ - _) = _
  field_simp
  ring

omit member inner

variable (below : p.Below block.cells)
include below

theorem gradient_samples {axis : Axis} (within : block.Within axis p) :
    ((block.mesh.scalarGradients (block.mesh.samples slope offset)).map (·.entry axis))[
      block.cellIndex p]? = some (slope.entry axis) := by
  have parts := block.mesh.slopes_entry LinearMap.id (block.mesh.samples slope offset) axis
  simp only [LinearMap.id_coe, List.map_id, id_eq] at parts
  obtain ⟨cell, found, -, volume⟩ := cells_getElem? spread solid below
  -- The values on the two faces differ by the slope times the step between them.
  have apart : block.faceMiddle (.after axis p) =
      block.faceMiddle (.before axis p) + axis.along (block.spacing axis) := by
    rw [faceMiddle_after, faceMiddle_before, ← twice_half]
    module
  have flow : block.mesh.cellSum (-Scalar.one) (block.mesh.faces.map fun face =>
      face.area.entry axis * block.mesh.faceValue (block.mesh.samples slope offset) face)
      (block.cellIndex p) = block.cellSize * slope.entry axis := by
    rw [cellSum_along solid below,
      faceValue_samples solid spread slope offset (Site.before_mem below axis) within.before,
      faceValue_samples solid spread slope offset (Site.after_mem below axis) within.after, apart,
      Vec3.dot_add, Axis.dot_along, ← squareSize_mul block axis]
    ring
  rw [parts, Mesh.gauss_eq, Mesh.getElem?_outflow block.mesh _ found, flow, volume, smul_eq_mul,
    inv_mul_cancel_left₀ (cellSize_pos spread).ne']

theorem diffusion_samples (within : ∀ axis, block.Within axis p) :
    (block.mesh.perVolume (block.mesh.netOutflow (block.mesh.faces.map fun face =>
      block.mesh.normalGradient (block.mesh.samples slope offset) face * face.area.norm)))[
      block.cellIndex p]? = some 0 := by
  obtain ⟨cell, found, -⟩ := cells_getElem? spread solid below
  -- The slope is the same on two opposite faces, so as much goes in as goes out.
  have pair (axis : Axis) : ((lowerSide axis p).sign : α) •
        (block.mesh.normalGradient (block.mesh.samples slope offset) (block.face (.before axis p)) *
          (block.face (.before axis p)).area.norm) +
      block.mesh.normalGradient (block.mesh.samples slope offset) (block.face (.after axis p)) *
          (block.face (.after axis p)).area.norm = 0 := by
    have behind : lowerSide axis p = .neighbour := if_neg (Nat.ne_of_gt (within axis).1)
    rw [normalGradient_samples solid spread slope offset (Site.before_mem below axis) (within axis).before,
      normalGradient_samples solid spread slope offset (Site.after_mem below axis) (within axis).after,
      area_norm spread (Site.before_mem below axis), area_norm spread (Site.after_mem below axis), behind,
      Side.sign, neg_one_smul]
    exact neg_add_cancel _
  rw [Mesh.getElem?_outflow block.mesh _ found, cellSum_block solid below]
  simp only [pair, Axis.all, List.map_cons, List.map_nil, List.sum_cons, List.sum_nil, add_zero,
    smul_zero]

end Block

end MeshLang
