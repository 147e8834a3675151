import Mathlib.Algebra.Field.Basic
import MeshLang.Proofs.Conservation
import MeshLang.Proofs.Mesh.BlockGeometry
import MeshLang.Proofs.Mesh.LinearMaps
import MeshLang.Proofs.Mesh.Means
import MeshLang.Proofs.Tensor.Matrices
import MeshLang.Proofs.Tensor.Vectors

namespace MeshLang

variable {α : Type} [ExactScalar α]

namespace Mesh

def faceSizes (mesh : Mesh α) : Value α := .scalar .surface mesh.areaSizes

def unitNormals (mesh : Mesh α) : Value α := .vector .surface (mesh.faceAreas.map Vec3.normalized)

/-- One number for the diffusivity on each face: a constant or a number on the face as it is, numbers
in cells interpolated, and of matrices in cells, interpolated, the part along the normal. -/
def faceRates (mesh : Mesh α) (diffusivity : Value α) : Except (FieldError α) (Value α) :=
  match diffusivity.location with
  | none => .ok (diffusivity.broadcastTo .surface (mesh.size .surface))
  | some .surface => .ok diffusivity
  | some _ => do
    let faces ← mesh.interpolate diffusivity
    if diffusivity.kind = .scalar then return faces
    else mesh.unitNormals.inner (← faces.inner mesh.unitNormals)

def slopeOutflow (mesh : Mesh α) (diffusivity v : Value α) : Except (FieldError α) (Value α) := do
  let rates ← mesh.faceRates diffusivity
  let weights ← rates.mul mesh.faceSizes
  mesh.surfaceIntegrate (← weights.mul (← mesh.snGrad v))

def Diffusivity (mesh : Mesh α) (diffusivity : Value α) : Prop :=
  mesh.Diffuses diffusivity ∨
    diffusivity.Fits mesh ∧ diffusivity.location = none ∧ diffusivity.kind = .scalar

/-- A diffusivity that is a number wherever it is asked for. -/
inductive Amounts (mesh : Mesh α) (k : α) : Value α → Prop where
  | constant (tag : Option (Dimensions α)) : Amounts mesh k ⟨.scalar, none, .scalar [k], tag⟩
  | cells (tag : Option (Dimensions α)) :
      Amounts mesh k ⟨.scalar, some .volume, .scalar (List.replicate mesh.cells.length k), tag⟩
  | faces (tag : Option (Dimensions α)) :
      Amounts mesh k ⟨.scalar, some .surface, .scalar (List.replicate mesh.faces.length k), tag⟩
  | matrices (kind : Kind) (tag : Option (Dimensions α)) : kind = .tensor ∨ kind = .symmTensor →
      Amounts mesh k
        ⟨kind, some .volume, .tensor (List.replicate mesh.cells.length (Mat3.isotropic k)), tag⟩

/-- A call of the Laplacian gives the elements of the composition, and multiples of the plain one. -/
structure DiffusesAlike (mesh : Mesh α) : Prop where
  composed : ∀ (env : Environment α) (function : Token) (diffusivity v : Argument α),
    env.mesh = mesh → mesh.Diffusivity diffusivity.value →
    v.value.Fits mesh → v.value.isAt .volume Kind.numeric = true →
    ∃ w, mesh.slopeOutflow diffusivity.value v.value = .ok w ∧ w.Fits mesh ∧
      w.isAt .volume [v.value.kind] = true ∧
      env.applyLaplacian function diffusivity v = .ok w.untagged
  multiples : ∀ (env : Environment α) (function : Token) (k : α) (diffusivity v : Argument α),
    env.mesh = mesh → mesh.Amounts k diffusivity.value →
    v.value.Fits mesh → v.value.isAt .volume Kind.numeric = true →
    ∃ plain w, env.applyOne .laplacian function v = .ok plain ∧
      (Value.constantScalar k).mul plain = .ok w ∧
      env.applyLaplacian function diffusivity v = .ok w

section Values

variable {kind other : Kind} {location place : Location} {tag tag' : Option (Dimensions α)}

theorem mul_numbers {factors : List α} {data : Data α} (same : factors.length = data.size) :
    (⟨kind, some location, .scalar factors, tag⟩ : Value α).mul ⟨other, some place, data, tag'⟩ =
      .ok ⟨other, some location,
        data.lift fun xs => List.zipWith (fun x k => Element.scale x k) xs factors,
        Value.productTag tag tag'⟩ := by
  have shared : Value.domain ⟨kind, some location, .scalar factors, tag⟩
      (⟨other, some place, data, tag'⟩ : Value α) = .ok (some location, factors.length) :=
    if_pos same
  have scaled : Value.scaleBy factors.length factors data =
      data.lift fun xs => List.zipWith (fun x k => Element.scale x k) xs factors := by
    apply Data.lift_lawful
    intro ε _ _ _ _ xs whole
    exact zipSpread_of_length _ (whole.trans same.symm) rfl
  unfold Value.mul
  rw [shared, ← scaled]
  rfl

theorem mul_number {k : α} {data : Data α} :
    (⟨kind, none, .scalar [k], tag⟩ : Value α).mul ⟨other, some place, data, tag'⟩ =
      .ok ⟨other, some place, data.lift fun xs => xs.map (Element.scale · k),
        Value.productTag tag tag'⟩ := by
  have scaled : Value.scaleBy data.size [k] data = data.lift fun xs => xs.map (Element.scale · k) := by
    apply Data.lift_lawful
    intro ε _ _ _ _ xs whole
    rw [← whole, zipSpread_one]
  rw [← scaled]
  rfl

theorem inner_vectors {xs ys : List (Vec3 α)} (same : xs.length = ys.length) :
    (⟨kind, some location, .vector xs, tag⟩ : Value α).inner
        ⟨other, some place, .vector ys, tag'⟩ =
      .ok ⟨.scalar, some location, .scalar (List.zipWith Vec3.dot xs ys),
        Value.productTag tag tag'⟩ := by
  have shared : Value.domain ⟨kind, some location, .vector xs, tag⟩
      (⟨other, some place, .vector ys, tag'⟩ : Value α) = .ok (some location, xs.length) :=
    if_pos same
  unfold Value.inner
  rw [shared, ← zipSpread_of_length Vec3.dot rfl same.symm]
  rfl

theorem inner_matrices {ms : List (Mat3 α)} {ys : List (Vec3 α)} (same : ms.length = ys.length) :
    (⟨kind, some location, .tensor ms, tag⟩ : Value α).inner
        ⟨other, some place, .vector ys, tag'⟩ =
      .ok ⟨.vector, some location, .vector (List.zipWith Mat3.apply ms ys),
        Value.productTag tag tag'⟩ := by
  have shared : Value.domain ⟨kind, some location, .tensor ms, tag⟩
      (⟨other, some place, .vector ys, tag'⟩ : Value α) = .ok (some location, ms.length) :=
    if_pos same
  unfold Value.inner
  rw [shared, ← zipSpread_of_length Mat3.apply rfl same.symm]
  rfl

end Values

section Rates

variable {mesh : Mesh α} {v diffusivity : Value α} {rates : List α}

def diffused (mesh : Mesh α) (rates : List α) (v : Value α) : Value α :=
  ⟨v.kind, some .volume, (v.data.lift mesh.normalGradients).lift fun slopes =>
    mesh.perVolume (mesh.netOutflow (List.zipWith (fun x k => Element.scale x k) slopes
      (List.zipWith (· * ·) rates mesh.areaSizes))), none⟩

theorem laplacian_rates {diffusivity? : Option (Value α)} (fits : v.Fits mesh)
    (placed : v.isAt .volume Kind.numeric = true)
    (known : mesh.faceDiffusivities diffusivity? = .ok rates) :
    mesh.laplacian diffusivity? v = .ok (mesh.diffused rates v) := by
  unfold laplacian snGrad
  rw [known, expect_ok fits placed]
  rfl

theorem rates_sizes {tag : Option (Dimensions α)} (all : rates.length = mesh.size .surface) :
    (⟨.scalar, some .surface, .scalar rates, tag⟩ : Value α).mul mesh.faceSizes =
      .ok ⟨.scalar, some .surface, .scalar (List.zipWith (· * ·) rates mesh.areaSizes),
        Value.productTag tag none⟩ := by
  have same : rates.length = (Data.scalar mesh.areaSizes).size :=
    all.trans mesh.areaSizes_length.symm
  have order : List.zipWith (· * ·) rates mesh.areaSizes =
      List.zipWith (fun x k => Element.scale x k) mesh.areaSizes rates := by
    rw [List.zipWith_comm]
    congr 1
    funext size rate
    exact mul_comm rate size
  rw [order]
  exact mul_numbers same

theorem weighed_outflow {weights : List α} {slopes : Data α} {kind : Kind}
    {tag : Option (Dimensions α)} (count : weights.length = mesh.size .surface)
    (all : slopes.size = mesh.size .surface) :
    ((⟨.scalar, some .surface, .scalar weights, tag⟩ : Value α).mul
        ⟨kind, some .surface, slopes, none⟩ >>= mesh.surfaceIntegrate) =
      .ok ⟨kind, some .volume, slopes.lift fun xs => mesh.perVolume (mesh.netOutflow
        (List.zipWith (fun x k => Element.scale x k) xs weights)), Value.productTag tag none⟩ := by
  let carried := slopes.lift fun xs => List.zipWith (fun x k => Element.scale x k) xs weights
  have entries : carried.size = mesh.size .surface := by
    refine Data.lift_size fun xs whole => ?_
    rw [List.length_zipWith, whole, all, count, Nat.min_self]
  have integrated (tag : Option (Dimensions α)) :
      mesh.surfaceIntegrate ⟨kind, some .surface, carried, tag⟩ = .ok ⟨kind, some .volume,
        carried.lift fun xs => mesh.perVolume (mesh.netOutflow xs), tag⟩ := by
    unfold surfaceIntegrate
    rw [expect_of_size (v := ⟨kind, some .surface, carried, tag⟩) entries]
    rfl
  rw [mul_numbers (count.trans all.symm)]
  refine (integrated _).trans ?_
  exact congrArg (fun data => Except.ok (⟨kind, some .volume, data, Value.productTag tag none⟩ :
    Value α)) (Data.lift_lift slopes)

theorem slopeOutflow_rates {tag : Option (Dimensions α)} (fits : v.Fits mesh)
    (placed : v.isAt .volume Kind.numeric = true) (all : rates.length = mesh.size .surface)
    (known : mesh.faceRates diffusivity = .ok ⟨.scalar, some .surface, .scalar rates, tag⟩) :
    ∃ tag', mesh.slopeOutflow diffusivity v = .ok ((mesh.diffused rates v).withDimensions tag') := by
  have count : (List.zipWith (· * ·) rates mesh.areaSizes).length = mesh.size .surface := by
    rw [List.length_zipWith, all, mesh.areaSizes_length, Nat.min_self]
  have slopes : (v.data.lift mesh.normalGradients).size = mesh.size .surface :=
    Data.lift_size fun values _ => mesh.normalGradients_length values
  have sloped : mesh.snGrad v = .ok ⟨v.kind, some .surface, v.data.lift mesh.normalGradients, none⟩ := by
    unfold snGrad
    rw [expect_ok fits placed]
    rfl
  refine ⟨Value.productTag (Value.productTag tag none) none, ?_⟩
  unfold slopeOutflow
  rw [known, sloped]
  show ((⟨.scalar, some .surface, .scalar rates, tag⟩ : Value α).mul mesh.faceSizes >>= _) = _
  rw [rates_sizes all]
  exact weighed_outflow count slopes

theorem diffused_uniform (mesh : Mesh α) (k : α) (v : Value α) :
    mesh.diffused (mesh.faces.map fun _ => k) v = ⟨v.kind, some .volume,
      (mesh.diffused (mesh.faces.map fun _ => Scalar.one) v).data.lift fun xs =>
        xs.map (Element.scale · k), none⟩ := by
  let weights := List.zipWith (· * ·) (mesh.faces.map fun _ => Scalar.one) mesh.areaSizes
  have multiples : List.zipWith (· * ·) (mesh.faces.map fun _ => k) mesh.areaSizes =
      weights.map (k * ·) := by
    simp only [weights, areaSizes, faceAreas, List.map_map, List.zipWith_map, List.zipWith_self,
      ExactScalar.one_eq, one_mul, Function.comp_def]
  unfold diffused
  congr 1
  dsimp only
  rw [multiples, Data.lift_lift, Data.lift_lift, Data.lift_lift]
  apply Data.lift_lawful
  intro ε _ _ _ _ values _
  let multiple : ε →ₗ[α] ε := DistribSMul.toLinearMap α ε k
  have scaled (x : ε) : Element.scale x k = multiple x := LawfulElement.scale_eq x k
  have moved (x : ε) (weight : α) : Element.scale x (k * weight) = multiple (Element.scale x weight) := by
    simp only [LawfulElement.scale_eq, mul_smul]
    rfl
  rw [List.zipWith_map_right]
  simp only [moved, scaled]
  rw [map_perVolume, map_netOutflow, List.map_zipWith]

/-- A located diffusivity is taken as one number on each face, by a Laplacian and by the composition
alike. -/
structure TakenAs (mesh : Mesh α) (diffusivity : Value α) (rates : List α) : Prop where
  count : rates.length = mesh.size .surface
  known : mesh.faceDiffusivities (some diffusivity) = .ok rates
  composed : ∃ tag, mesh.faceRates diffusivity = .ok ⟨.scalar, some .surface, .scalar rates, tag⟩

theorem takenAs_faces {tag : Option (Dimensions α)} (all : rates.length = mesh.size .surface) :
    mesh.TakenAs ⟨.scalar, some .surface, .scalar rates, tag⟩ rates := by
  have accepted := expect_of_size (v := ⟨.scalar, some .surface, .scalar rates, tag⟩) all
  refine ⟨all, ?_, tag, rfl⟩
  simp only [faceDiffusivities, accepted]
  rfl

theorem takenAs_cells {values : List α} {tag : Option (Dimensions α)}
    (all : values.length = mesh.size .volume) :
    mesh.TakenAs ⟨.scalar, some .volume, .scalar values, tag⟩ (mesh.faceValues values) := by
  have accepted := expect_of_size (v := ⟨.scalar, some .volume, .scalar values, tag⟩) all
  refine ⟨mesh.faceValues_length values, ?_, tag, ?_⟩
  · simp only [faceDiffusivities, accepted]
    rfl
  · simp only [faceRates, interpolate, accepted]
    rfl

def alongNormals (mesh : Mesh α) (ms : List (Mat3 α)) : List α :=
  List.zipWith (fun m area => area.normalized.dot (m.apply area.normalized)) ms mesh.faceAreas

theorem normals_inner {ms : List (Mat3 α)} (kind : Kind) (tag : Option (Dimensions α))
    (all : ms.length = mesh.size .surface) : ∃ tag',
    (do mesh.unitNormals.inner (← (⟨kind, some .surface, .tensor ms, tag⟩ : Value α).inner
      mesh.unitNormals)) =
      .ok ⟨.scalar, some .surface, .scalar (mesh.alongNormals ms), tag'⟩ := by
  have areas : mesh.faceAreas.length = mesh.size .surface := List.length_map _
  have normals : (mesh.faceAreas.map Vec3.normalized).length = mesh.size .surface :=
    (List.length_map _).trans areas
  have carried : (List.zipWith Mat3.apply ms (mesh.faceAreas.map Vec3.normalized)).length =
      mesh.size .surface := by
    rw [List.length_zipWith, all, normals, Nat.min_self]
  have parts : List.zipWith Vec3.dot (mesh.faceAreas.map Vec3.normalized)
      (List.zipWith Mat3.apply ms (mesh.faceAreas.map Vec3.normalized)) = mesh.alongNormals ms := by
    apply List.ext_getElem
    · simp only [alongNormals, List.length_zipWith, List.length_map, all, areas, Nat.min_self]
    · intro index _ _
      simp only [alongNormals, List.getElem_zipWith, List.getElem_map]
  refine ⟨Value.productTag none (Value.productTag tag none), ?_⟩
  unfold unitNormals Value.vector
  rw [inner_matrices (all.trans normals.symm), ← parts]
  exact inner_vectors (normals.trans carried.symm)

theorem takenAs_matrices {values : List (Mat3 α)} {kind : Kind} {tag : Option (Dimensions α)}
    (matrices : kind ≠ .scalar) (all : values.length = mesh.size .volume) :
    mesh.TakenAs ⟨kind, some .volume, .tensor values, tag⟩
      (mesh.alongNormals (mesh.faceValues values)) := by
  have accepted := expect_of_size (v := ⟨kind, some .volume, .tensor values, tag⟩) all
  have count := mesh.faceValues_length values
  obtain ⟨tag', along⟩ := normals_inner kind tag count
  refine ⟨?_, ?_, tag', ?_⟩
  · rw [alongNormals, List.length_zipWith, count, faceAreas, List.length_map]
    exact Nat.min_self _
  · simp only [faceDiffusivities, accepted]
    rfl
  · rw [← along]
    simp only [faceRates, interpolate, accepted, matrices]
    rfl

theorem Diffuses.takenAs (diffuses : mesh.Diffuses diffusivity) :
    ∃ rates, mesh.TakenAs diffusivity rates := by
  obtain ⟨fits, placed⟩ := diffuses
  obtain ⟨kind, location, data, tag⟩ := diffusivity
  have shape := fits.shape
  rcases placed with cells | faces
  · obtain ⟨located, kinds⟩ := Value.isAt_iff.mp cells
    cases located
    simp only [List.mem_cons, List.not_mem_nil, or_false] at kinds
    have matrices (different : kind ≠ .scalar) (like : kind.shape = .matrix) :
        ∃ rates, mesh.TakenAs ⟨kind, some .volume, data, tag⟩ rates := by
      obtain ⟨values, rfl⟩ := Data.of_matrix (shape.trans like)
      exact ⟨_, takenAs_matrices different fits.sized⟩
    rcases kinds with rfl | rfl | rfl
    · obtain ⟨values, rfl⟩ := Data.of_number shape
      exact ⟨_, takenAs_cells fits.sized⟩
    · exact matrices Kind.noConfusion rfl
    · exact matrices Kind.noConfusion rfl
  · obtain ⟨located, kinds⟩ := Value.isAt_iff.mp faces
    cases located
    cases List.mem_singleton.mp kinds
    obtain ⟨values, rfl⟩ := Data.of_number shape
    exact ⟨_, takenAs_faces fits.sized⟩

theorem diffused_fits (fits : v.Fits mesh) : (mesh.diffused rates v).Fits mesh :=
  placed_fits ((Data.lift_shape v.data).trans fits.shape) fun _ => mesh.outflow_length _

theorem diffused_isAt (mesh : Mesh α) (rates : List α) (v : Value α) :
    (mesh.diffused rates v).isAt .volume [v.kind] = true := by
  simp [diffused, Value.isAt]

theorem faceRates_constant (mesh : Mesh α) (k : α) (tag : Option (Dimensions α)) :
    mesh.faceRates ⟨.scalar, none, .scalar [k], tag⟩ =
      .ok ⟨.scalar, some .surface, .scalar (mesh.faces.map fun _ => k), tag⟩ := by
  rw [List.map_const', ← List.append_nil (List.replicate mesh.faces.length k)]
  rfl

theorem number_mul_plain (mesh : Mesh α) (k : α) (v : Value α) :
    (Value.constantScalar k).mul (mesh.diffused (mesh.faces.map fun _ => Scalar.one) v) =
      .ok (mesh.diffused (mesh.faces.map fun _ => k) v) := by
  rw [diffused_uniform mesh k]
  exact mul_number

end Rates

section Calls

variable {mesh : Mesh α} {env : Environment α} {function : Token} {diffusivity v : Argument α}

theorem applyLaplacian_constant {k : α} {tag : Option (Dimensions α)} (same : env.mesh = mesh)
    (constant : diffusivity.value = ⟨.scalar, none, .scalar [k], tag⟩) (fits : v.value.Fits mesh)
    (placed : v.value.isAt .volume Kind.numeric = true) :
    env.applyLaplacian function diffusivity v =
      .ok (mesh.diffused (mesh.faces.map fun _ => k) v.value) := by
  have volume : v.requireAt function .volume Kind.numeric ["volume field"] = .ok () := if_pos placed
  let plain := mesh.diffused (mesh.faces.map fun _ => Scalar.one) v.value
  have made : mesh.laplacian none v.value = .ok plain := laplacian_rates fits placed rfl
  unfold Environment.applyLaplacian
  rw [volume, same, constant, made]
  show (do return (← ofField ((Value.constantScalar k).mul plain)).untagged) = _
  rw [number_mul_plain]
  rfl

theorem applyLaplacian_located {rates : List α} (same : env.mesh = mesh)
    (diffuses : mesh.Diffuses diffusivity.value) (taken : mesh.TakenAs diffusivity.value rates)
    (fits : v.value.Fits mesh) (placed : v.value.isAt .volume Kind.numeric = true) :
    env.applyLaplacian function diffusivity v = .ok (mesh.diffused rates v.value) := by
  have volume : v.requireAt function .volume Kind.numeric ["volume field"] = .ok () := if_pos placed
  have varied : diffusivity.value.isConstant = false := by
    rcases diffuses.placed with cells | faces
    · simp [Value.isConstant, (Value.isAt_iff.mp cells).1]
    · simp [Value.isConstant, (Value.isAt_iff.mp faces).1]
  have accepts := diffuses.placed
  rw [← Bool.or_eq_true] at accepts
  unfold Environment.applyLaplacian
  rw [volume, same]
  simp only [varied, accepts, laplacian_rates fits placed taken.known, Argument.require,
    Bool.false_and, Bool.false_eq_true, if_false, if_true]
  rfl

omit [ExactScalar α] in
theorem constant_number {g : Value α} (fits : g.Fits mesh) (nowhere : g.location = none)
    (number : g.kind = .scalar) : ∃ k tag, g = ⟨.scalar, none, .scalar [k], tag⟩ := by
  obtain ⟨kind, location, data, tag⟩ := g
  cases nowhere
  cases number
  obtain ⟨values, rfl⟩ := Data.of_number fits.shape
  obtain ⟨k, rfl⟩ := List.length_eq_one_iff.mp fits.sized
  exact ⟨k, tag, rfl⟩

theorem laplacian_composed (same : env.mesh = mesh) (taken : mesh.Diffusivity diffusivity.value)
    (fits : v.value.Fits mesh) (placed : v.value.isAt .volume Kind.numeric = true) :
    ∃ w, mesh.slopeOutflow diffusivity.value v.value = .ok w ∧ w.Fits mesh ∧
      w.isAt .volume [v.value.kind] = true ∧
      env.applyLaplacian function diffusivity v = .ok w.untagged := by
  obtain ⟨rates, count, ⟨tag, known⟩, called⟩ : ∃ rates, rates.length = mesh.size .surface ∧
      (∃ tag, mesh.faceRates diffusivity.value =
        .ok ⟨.scalar, some .surface, .scalar rates, tag⟩) ∧
      env.applyLaplacian function diffusivity v = .ok (mesh.diffused rates v.value) := by
    rcases taken with diffuses | ⟨constant, nowhere, number⟩
    · obtain ⟨rates, taken⟩ := diffuses.takenAs
      exact ⟨rates, taken.count, taken.composed,
        applyLaplacian_located same diffuses taken fits placed⟩
    · obtain ⟨k, tag, held⟩ := constant_number constant nowhere number
      refine ⟨mesh.faces.map fun _ => k, List.length_map _, ⟨tag, ?_⟩,
        applyLaplacian_constant same held fits placed⟩
      rw [held, faceRates_constant]
  obtain ⟨tag', made⟩ := slopeOutflow_rates fits placed count known
  exact ⟨_, made, (diffused_fits fits).withDimensions tag', diffused_isAt mesh rates v.value, called⟩

section Uniform

variable [LinearOrder α] [RootedScalar α] {k : α}

theorem alongNormals_isotropic (solid : ∀ face ∈ mesh.faces, face.area ≠ 0) (k : α) :
    mesh.alongNormals (List.replicate mesh.faces.length (Mat3.isotropic k)) =
      mesh.faces.map fun _ => k := by
  have along (normal : Vec3 α) :
      normal.dot ((Mat3.isotropic k).apply normal) = k * normal.dot normal := by
    simp only [Mat3.isotropic_eq, Mat3.apply, Mat3.row, Vec3.dot]
    ring
  rw [alongNormals, faceAreas, ← List.map_const', List.zipWith_map, List.zipWith_self]
  apply List.map_congr_left
  intro face member
  rw [along, Vec3.normalized_dot_self (solid face member), mul_one]

theorem Amounts.diffuses_takenAs {g : Value α}
    (beside : ∀ face ∈ mesh.faces, face.Beside mesh.cells.length)
    (solid : ∀ face ∈ mesh.faces, face.area ≠ 0) (amounts : mesh.Amounts k g) :
    (∃ tag, g = ⟨.scalar, none, .scalar [k], tag⟩) ∨
      mesh.Diffuses g ∧ mesh.TakenAs g (mesh.faces.map fun _ => k) := by
  cases amounts with
  | constant tag => exact .inl ⟨tag, rfl⟩
  | cells tag =>
    have all : (List.replicate mesh.cells.length k).length = mesh.size .volume := List.length_replicate
    refine .inr ⟨⟨.of_shape rfl all, .inl rfl⟩, ?_⟩
    rw [List.map_const', ← faceValues_uniform beside k]
    exact takenAs_cells all
  | faces tag =>
    have all : (List.replicate mesh.faces.length k).length = mesh.size .surface := List.length_replicate
    refine .inr ⟨⟨.of_shape rfl all, .inr rfl⟩, ?_⟩
    rw [List.map_const']
    exact takenAs_faces all
  | matrices kind tag either =>
    have all : (List.replicate mesh.cells.length (Mat3.isotropic k)).length = mesh.size .volume :=
      List.length_replicate
    have matrices : kind.shape = .matrix ∧ kind ≠ .scalar ∧
        kind ∈ [Kind.scalar, .tensor, .symmTensor] := by
      rcases either with rfl | rfl <;> decide
    refine .inr ⟨⟨.of_shape matrices.1.symm all, .inl ?_⟩, ?_⟩
    · exact Value.isAt_iff.mpr ⟨rfl, matrices.2.2⟩
    · rw [← alongNormals_isotropic solid k, ← faceValues_uniform beside]
      exact takenAs_matrices matrices.2.1 all

theorem laplacian_multiple (beside : ∀ face ∈ mesh.faces, face.Beside mesh.cells.length)
    (solid : ∀ face ∈ mesh.faces, face.area ≠ 0) (same : env.mesh = mesh)
    (amounts : mesh.Amounts k diffusivity.value) (fits : v.value.Fits mesh)
    (placed : v.value.isAt .volume Kind.numeric = true) :
    ∃ plain w, env.applyOne .laplacian function v = .ok plain ∧
      (Value.constantScalar k).mul plain = .ok w ∧
      env.applyLaplacian function diffusivity v = .ok w := by
  have volume : v.requireAt function .volume Kind.numeric ["volume field"] = .ok () := if_pos placed
  refine ⟨mesh.diffused (mesh.faces.map fun _ => Scalar.one) v.value, _, ?_,
    number_mul_plain mesh k v.value, ?_⟩
  · unfold Environment.applyOne
    dsimp only
    rw [volume, same, laplacian_rates fits placed rfl]
    rfl
  · rcases amounts.diffuses_takenAs beside solid with ⟨tag, constant⟩ | ⟨diffuses, taken⟩
    · exact applyLaplacian_constant same constant fits placed
    · exact applyLaplacian_located same diffuses taken fits placed

/-- On every mesh that a checked description gives, if its faces have areas. -/
theorem laplacian_diffusesAlike (built : mesh.Built) (solid : ∀ face ∈ mesh.faces, face.area ≠ 0) :
    mesh.DiffusesAlike where
  composed _ _ _ _ same taken fits placed := laplacian_composed same taken fits placed
  multiples _ _ _ _ _ same amounts fits placed :=
    laplacian_multiple built.beside solid same amounts fits placed

end Uniform

end Calls

noncomputable def slab : Block Real := ⟨⟨2, 1, 1⟩, ⟨0, 0, 0⟩, ⟨√(2 : Nat), 1, 1⟩⟩

theorem laplacian_diffusesAlike_slab : slab.mesh.Built ∧
    (∀ face ∈ slab.mesh.faces, face.area ≠ 0) ∧ slab.mesh.DiffusesAlike := by
  have solid : ∀ axis, 1 ≤ slab.cells.entry axis := by
    intro axis
    cases axis <;> decide
  have apart : ∀ axis, slab.low.entry axis < slab.high.entry axis := by
    intro axis
    cases axis <;> norm_num [slab, Vec3.entry]
  have built : slab.mesh.Built := Block.mesh_built solid
  have areas := Block.areas_ne_zero (Block.spacing_pos solid apart) solid
  exact ⟨built, areas, laplacian_diffusesAlike built areas⟩

end Mesh

end MeshLang
