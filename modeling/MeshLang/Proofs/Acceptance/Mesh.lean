import MeshLang.Proofs.Acceptance.Functions

namespace MeshLang

variable {α : Type}

theorem Value.Fits.shape_of {mesh : Mesh α} {v : Value α} (fits : v.Fits mesh) {location : Location}
    {kinds : List Kind} (placed : v.isAt location kinds = true) {P : Shape → Prop}
    (all : ∀ kind ∈ kinds, P kind.shape) : P v.data.shape := by
  rw [fits.shape]
  exact all _ (Value.isAt_iff.mp placed).2

namespace Mesh

variable {mesh : Mesh α} {v flow : Value α}

theorem expect_accepts {location : Location} {kinds : List Kind} (fits : v.Fits mesh)
    (placed : v.isAt location kinds = true) : Accepts (mesh.expect location v) := by
  have sized : v.size = mesh.size location := by
    have sized := fits.sized
    rwa [(Value.isAt_iff.mp placed).1] at sized
  rw [expect_of_size sized]
  exact .ok trivial

variable [Scalar α]

section Fields

variable {kinds : List Kind} (fits : v.Fits mesh)

include fits

theorem surfaceIntegrate_accepts (placed : v.isAt .surface kinds = true) :
    Accepts (mesh.surfaceIntegrate v) :=
  .bind (expect_accepts fits placed) fun _ _ => .ok trivial

theorem surfaceSum_accepts (placed : v.isAt .surface kinds = true) : Accepts (mesh.surfaceSum v) :=
  .bind (expect_accepts fits placed) fun _ _ => .ok trivial

theorem interpolate_accepts (placed : v.isAt .volume kinds = true) : Accepts (mesh.interpolate v) :=
  .bind (expect_accepts fits placed) fun _ _ => .ok trivial

theorem interpolateToPoint_accepts (placed : v.isAt .volume kinds = true) :
    Accepts (mesh.interpolateToPoint v) :=
  .bind (expect_accepts fits placed) fun _ _ => .ok trivial

theorem interpolateToCell_accepts (placed : v.isAt .point kinds = true) :
    Accepts (mesh.interpolateToCell v) :=
  .bind (expect_accepts fits placed) fun _ _ => .ok trivial

theorem faceAverage_accepts (placed : v.isAt .surface kinds = true) : Accepts (mesh.faceAverage v) :=
  .bind (expect_accepts fits placed) fun _ _ => .ok trivial

theorem snGrad_accepts (placed : v.isAt .volume kinds = true) : Accepts (mesh.snGrad v) :=
  .bind (expect_accepts fits placed) fun _ _ => .ok trivial

theorem grad_accepts (placed : v.isAt .volume [.scalar, .vector] = true) : Accepts (mesh.grad v) := by
  have apart : v.data.shape ≠ .matrix :=
    fits.shape_of placed (P := fun shape => shape ≠ .matrix) (by decide)
  refine .bind (expect_accepts fits placed) fun _ _ => ?_
  cases held : v.data with
  | scalar _ | vector _ => exact .ok trivial
  | tensor _ => exact absurd (congrArg Data.shape held) apart

theorem div_accepts (placed : (v.isAt .volume [.vector, .tensor, .symmTensor, .sphericalTensor] ||
    v.isAt .surface [.scalar, .vector]) = true) : Accepts (mesh.div v) := by
  unfold div
  rcases Bool.or_eq_true_iff.mp placed with cells | faces
  · have apart : v.data.shape ≠ .number :=
      fits.shape_of cells (P := fun shape => shape ≠ .number) (by decide)
    have inside : v.location ≠ some .surface := by
      rw [(Value.isAt_iff.mp cells).1]
      decide
    rw [if_neg inside]
    refine .bind (expect_accepts fits cells) fun _ _ => ?_
    cases held : v.data with
    | vector _ | tensor _ => exact .ok trivial
    | scalar _ => exact absurd (congrArg Data.shape held) apart
  · rw [if_pos (Value.isAt_iff.mp faces).1]
    exact .map (surfaceIntegrate_accepts fits faces)

theorem curl_accepts (placed : v.isAt .volume [.vector] = true) : Accepts (mesh.curl v) := by
  have vector : v.data.shape = .vector :=
    fits.shape_of placed (P := fun shape => shape = .vector) (by decide)
  obtain ⟨values, held⟩ := Data.of_vector vector
  refine .bind (expect_accepts fits placed) fun _ _ => ?_
  rw [held]
  exact .ok trivial

theorem magSqrGradGrad_accepts (placed : v.isAt .volume [.scalar] = true) :
    Accepts (mesh.magSqrGradGrad v) := by
  have number : v.data.shape = .number :=
    fits.shape_of placed (P := fun shape => shape = .number) (by decide)
  obtain ⟨values, held⟩ := Data.of_number number
  have slopes : Meets (fun u => u.data.shape = .vector) (fun error => ¬ error.IsRefusal)
      (mesh.grad v) := by
    refine .bind (expect_accepts fits placed) fun _ _ => ?_
    rw [held]
    exact .ok rfl
  refine .bind slopes fun u vector => ?_
  obtain ⟨rows, found⟩ := Data.of_vector vector
  rw [found]
  exact .ok trivial

theorem laplacian_accepts {diffusivity? : Option (Value α)}
    (diffusivities : Accepts (mesh.faceDiffusivities diffusivity?))
    (placed : v.isAt .volume kinds = true) : Accepts (mesh.laplacian diffusivity? v) :=
  .bind diffusivities fun _ _ => .bind (snGrad_accepts fits placed) fun _ _ => .ok trivial

theorem faceDiffusivities_accepts (placed : (v.isAt .volume [.scalar, .tensor, .symmTensor] ||
    v.isAt .surface [.scalar]) = true) : Accepts (mesh.faceDiffusivities (some v)) := by
  unfold faceDiffusivities
  dsimp only
  rcases Bool.or_eq_true_iff.mp placed with cells | faces
  · have apart : v.data.shape ≠ .vector :=
      fits.shape_of cells (P := fun shape => shape ≠ .vector) (by decide)
    have inside : v.location ≠ some .surface := by
      rw [(Value.isAt_iff.mp cells).1]
      decide
    rw [if_neg inside]
    refine .bind (expect_accepts fits cells) fun _ _ => ?_
    cases held : v.data with
    | scalar _ | tensor _ => exact .ok trivial
    | vector _ => exact absurd (congrArg Data.shape held) apart
  · have number : v.data.shape = .number :=
      fits.shape_of faces (P := fun shape => shape = .number) (by decide)
    obtain ⟨values, held⟩ := Value.scalars?_of_shape number
    rw [if_pos (Value.isAt_iff.mp faces).1]
    refine .bind (expect_accepts fits faces) fun _ _ => ?_
    rw [held]
    exact .ok trivial

theorem reconstruct_accepts (placed : v.isAt .surface [.scalar] = true) :
    Accepts (mesh.reconstruct v) := by
  have number : v.data.shape = .number :=
    fits.shape_of placed (P := fun shape => shape = .number) (by decide)
  obtain ⟨rates, held⟩ := Value.scalars?_of_shape number
  refine .bind (expect_accepts fits placed) fun _ _ => ?_
  rw [held]
  exact .bind (inverses_accepts _ 0 _) fun _ _ => .ok trivial

end Fields

omit [Scalar α] in
theorem rates_fits {rates : List α} (fits : flow.Fits mesh)
    (surface : flow.isAt .surface [.scalar] = true) (held : flow.scalars? = some rates) :
    (Value.scalar .surface rates).Fits mesh := by
  have size := fits.scalars_length (fits.shape.symm.trans
    (fits.shape_of surface (P := fun shape => shape = .number) (by decide)))
  rw [held, (Value.isAt_iff.mp surface).1] at size
  exact .of_shape rfl size

theorem interpolate_meets {kinds : List Kind} (fits : v.Fits mesh)
    (placed : v.isAt .volume kinds = true) :
    Meets (fun faces => faces.Fits mesh ∧ faces.location = some .surface)
      (fun error => ¬ error.IsRefusal) (mesh.interpolate v) := by
  refine .bind (expect_accepts fits placed) fun _ _ => .ok ⟨?_, rfl⟩
  exact placed_fits fits.shape mesh.faceValues_length

omit [Scalar α] in
theorem rates_together {rates : List α} {faces : Value α} (located : faces.location = some .surface) :
    (Value.scalar .surface rates).Together faces := by
  intro here there atLeft atRight
  cases atLeft
  cases located.symm.trans atRight
  rfl

theorem flux_meets {kinds : List Kind} (through : flow.Fits mesh)
    (surface : flow.isAt .surface [.scalar] = true) (fits : v.Fits mesh)
    (placed : v.isAt .volume kinds = true) :
    Meets (fun u => u.Fits mesh ∧ u.location = some .surface) (fun error => ¬ error.IsRefusal)
      (mesh.flux flow v) := by
  obtain ⟨rates, held⟩ := Value.scalars?_of_shape
    (through.shape_of surface (P := fun shape => shape = .number) (by decide))
  have carrier := rates_fits through surface held
  refine .bind (expect_accepts through surface) fun _ _ => ?_
  rw [held]
  refine .bind (interpolate_meets fits placed) fun faces made => ?_
  have together : (Value.scalar .surface rates).Together faces := rates_together made.2
  have product := (Value.mul_made carrier made.1).within
    (Value.mul_accepts carrier made.1 together (.inl rfl))
  have located : Meets (fun u => u.location = some .surface) (fun error => ¬ error.IsRefusal)
      ((Value.scalar .surface rates).mul faces) := by
    refine .bind (Value.domain_accepts carrier made.1 together) fun place shared => ?_
    subst shared
    exact .ok rfl
  exact .bind (product.and located) fun u both => .ok ⟨both.1.1.untagged, both.2⟩

theorem divFlux_accepts {kinds : List Kind} (rates : flow.Fits mesh)
    (surface : flow.isAt .surface [.scalar] = true) (fits : v.Fits mesh)
    (placed : v.isAt .volume kinds = true) : Accepts (mesh.divFlux flow v) := by
  refine .bind (flux_meets rates surface fits placed) fun carried made => .map ?_
  have through : carried.isAt .surface [carried.kind] = true :=
    Value.isAt_iff.mpr ⟨made.2, List.mem_singleton_self _⟩
  exact surfaceIntegrate_accepts made.1 through

theorem mapCells_accepts {source : Mesh α} (target : Mesh α) (order : MappingOrder) (fits : v.Fits source)
    (placed : v.location = some .volume) : Accepts (source.mapCells target order v) := by
  have sized : v.size = source.cells.length := by
    have sized := fits.sized
    rwa [placed] at sized
  unfold mapCells
  rw [if_neg (not_not.mpr sized)]
  dsimp only
  split <;> exact .ok trivial

end Mesh

end MeshLang
