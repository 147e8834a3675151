import MeshLang.Evaluation.Call
import MeshLang.Mesh.Block
import MeshLang.Proofs.Evaluation.Closure
import MeshLang.Proofs.Mesh.FaceSums

namespace MeshLang

variable {α : Type}

theorem Data.lift_lawful [ExactScalar α] {f g : {ε : Type} → [Element α ε] → List ε → List ε}
    (data : Data α) (same : ∀ {ε : Type} [Element α ε] [AddCommGroup ε] [Module α ε]
      [LawfulElement α ε] (xs : List ε), xs.length = data.size → f xs = g xs) :
    data.lift f = data.lift g := by
  cases data with
  | scalar xs => exact congrArg Data.scalar (same xs rfl)
  | vector xs => exact congrArg Data.vector (same xs rfl)
  | tensor xs => exact congrArg Data.tensor (same xs rfl)

theorem Data.lift_lift [Scalar α] {f g : {ε : Type} → [Element α ε] → List ε → List ε}
    (data : Data α) : (data.lift f).lift g = data.lift fun xs => g (f xs) := by
  cases data <;> rfl

namespace Mesh

section Values

variable [ExactScalar α]

def integral (mesh : Mesh α) (data : Data α) : Data α :=
  data.lift fun xs => [Element.sum (List.zipWith Element.scale xs mesh.volumes)]

/-- The diffusivities that a Laplacian takes face by face: numbers on faces or in cells, and
matrices in cells. -/
structure Diffuses (mesh : Mesh α) (diffusivity : Value α) : Prop where
  fits : diffusivity.Fits mesh
  placed : diffusivity.isAt .volume [.scalar, .tensor, .symmTensor] = true ∨
    diffusivity.isAt .surface [.scalar] = true

/-- Sums over all cells of a mesh are sums over its faces. Volume integrals of net outflows are what
leaves through the boundary, plain sums count each inner face twice, and diffusion makes and loses
nothing. -/
structure Conserves (mesh : Mesh α) : Prop where
  outflow : ∀ v : Value α, v.Fits mesh → v.isAt .surface Kind.numeric = true →
    ∃ w, mesh.surfaceIntegrate v = .ok w ∧ w.Fits mesh ∧ w.isAt .volume [v.kind] = true ∧
      mesh.integral w.data = v.data.lift fun xs => [Element.sum (mesh.boundary xs)]
  total : ∀ v : Value α, v.Fits mesh → v.isAt .surface Kind.numeric = true →
    ∃ w, mesh.surfaceSum v = .ok w ∧ w.Fits mesh ∧ w.isAt .volume [v.kind] = true ∧
      (w.data.lift fun xs => [Element.sum xs]) = v.data.lift fun xs =>
        [Element.add (Element.scale (Element.sum (mesh.interior xs)) (Scalar.ofNat 2))
          (Element.sum (mesh.boundary xs))]
  diffusion : ∀ (diffusivity? : Option (Value α)) (v : Value α),
    (∀ diffusivity, diffusivity? = some diffusivity → mesh.Diffuses diffusivity) →
    v.Fits mesh → v.isAt .volume Kind.numeric = true →
    ∃ w, mesh.laplacian diffusivity? v = .ok w ∧ w.Fits mesh ∧ w.isAt .volume [v.kind] = true ∧
      mesh.integral w.data = v.data.lift fun _ => [Element.zero]
  called : ∀ (env : Environment α) (function : Token) (diffusivity v : Argument α),
    env.mesh = mesh → mesh.Diffuses diffusivity.value ∨
      (diffusivity.value.Fits mesh ∧ diffusivity.value.location = none ∧
        diffusivity.value.kind = .scalar) →
    v.value.Fits mesh → v.value.isAt .volume Kind.numeric = true →
    ∃ w, env.applyLaplacian function diffusivity v = .ok w ∧ w.Fits mesh ∧
      w.isAt .volume [v.value.kind] = true ∧
      mesh.integral w.data = v.value.data.lift fun _ => [Element.zero]

variable {mesh : Mesh α} {v : Value α}

omit [ExactScalar α] in
theorem expect_ok {location : Location} {kinds : List Kind} (fits : v.Fits mesh)
    (placed : v.isAt location kinds = true) : mesh.expect location v = .ok () := by
  have sized := fits.sized
  rw [(Value.isAt_iff.mp placed).1] at sized
  exact expect_of_size sized

theorem integral_outflow (beside : ∀ face ∈ mesh.faces, face.Beside mesh.cells.length)
    (solid : ∀ volume ∈ mesh.volumes, volume ≠ 0) (data : Data α) :
    mesh.integral (data.lift fun xs => mesh.perVolume (mesh.netOutflow xs)) =
      data.lift fun xs => [Element.sum (mesh.boundary xs)] := by
  unfold integral
  rw [Data.lift_lift]
  apply Data.lift_lawful
  intro ε _ _ _ _ xs _
  rw [Element.sum_eq, Element.sum_eq, sum_outflow beside solid]

theorem surfaceIntegrate_conserves (beside : ∀ face ∈ mesh.faces, face.Beside mesh.cells.length)
    (solid : ∀ volume ∈ mesh.volumes, volume ≠ 0) (fits : v.Fits mesh)
    (placed : v.isAt .surface Kind.numeric = true) :
    ∃ w, mesh.surfaceIntegrate v = .ok w ∧ w.Fits mesh ∧ w.isAt .volume [v.kind] = true ∧
      mesh.integral w.data = v.data.lift fun xs => [Element.sum (mesh.boundary xs)] := by
  have made : mesh.surfaceIntegrate v = .ok ⟨v.kind, some .volume,
      v.data.lift fun xs => mesh.perVolume (mesh.netOutflow xs), v.dimensions⟩ := by
    unfold surfaceIntegrate
    rw [expect_ok fits placed]
    rfl
  exact ⟨_, made, placed_fits fits.shape mesh.outflow_length, by simp [Value.isAt],
    integral_outflow beside solid v.data⟩

theorem surfaceSum_conserves (beside : ∀ face ∈ mesh.faces, face.Beside mesh.cells.length)
    (fits : v.Fits mesh) (placed : v.isAt .surface Kind.numeric = true) :
    ∃ w, mesh.surfaceSum v = .ok w ∧ w.Fits mesh ∧ w.isAt .volume [v.kind] = true ∧
      (w.data.lift fun xs => [Element.sum xs]) = v.data.lift fun xs =>
        [Element.add (Element.scale (Element.sum (mesh.interior xs)) (Scalar.ofNat 2))
          (Element.sum (mesh.boundary xs))] := by
  have made : mesh.surfaceSum v = .ok ⟨v.kind, some .volume, v.data.lift mesh.total, v.dimensions⟩ := by
    unfold surfaceSum
    rw [expect_ok fits placed]
    rfl
  refine ⟨_, made, placed_fits fits.shape (mesh.accumulate_length _), by simp [Value.isAt], ?_⟩
  rw [Data.lift_lift]
  apply Data.lift_lawful
  intro ε _ _ _ _ xs _
  have two : (Scalar.ofNat 2 : α) = 2 := ExactScalar.ofNat_eq 2
  rw [Element.sum_eq, Element.sum_eq, Element.sum_eq, sum_total beside, LawfulElement.add_eq,
    LawfulElement.scale_eq, two]

theorem Diffuses.faceDiffusivities {diffusivity : Value α} (diffuses : mesh.Diffuses diffusivity) :
    ∃ factors, mesh.faceDiffusivities (some diffusivity) = .ok factors := by
  have shape := diffuses.fits.shape
  unfold Mesh.faceDiffusivities
  rcases diffuses.placed with cells | faces
  · obtain ⟨location, kind⟩ := Value.isAt_iff.mp cells
    simp only [location, expect_ok diffuses.fits cells, Option.some.injEq, reduceCtorEq, if_false]
    cases held : diffusivity.data with
    | scalar values => exact ⟨_, rfl⟩
    | tensor values => exact ⟨_, rfl⟩
    | vector values =>
      rw [held] at shape
      simp only [List.mem_cons, List.not_mem_nil, or_false] at kind
      rcases kind with same | same | same <;> rw [same] at shape <;> cases shape
  · obtain ⟨location, kind⟩ := Value.isAt_iff.mp faces
    rw [List.mem_singleton.mp kind] at shape
    obtain ⟨values, held⟩ := Data.of_number shape
    simp only [location, expect_ok diffuses.fits faces, if_true, Value.scalars?, held]
    exact ⟨_, rfl⟩

theorem laplacian_conserves (beside : ∀ face ∈ mesh.faces, face.Beside mesh.cells.length)
    (solid : ∀ volume ∈ mesh.volumes, volume ≠ 0) (diffusivity? : Option (Value α))
    (diffuses : ∀ diffusivity, diffusivity? = some diffusivity → mesh.Diffuses diffusivity)
    (fits : v.Fits mesh) (placed : v.isAt .volume Kind.numeric = true) :
    ∃ w, mesh.laplacian diffusivity? v = .ok w ∧ w.Fits mesh ∧ w.isAt .volume [v.kind] = true ∧
      mesh.integral w.data = v.data.lift fun _ => [Element.zero] := by
  have known : ∃ factors, mesh.faceDiffusivities diffusivity? = .ok factors := by
    cases diffusivity? with
    | none => exact ⟨_, rfl⟩
    | some diffusivity => exact (diffuses diffusivity rfl).faceDiffusivities
  obtain ⟨factors, known⟩ := known
  have made : mesh.laplacian diffusivity? v = .ok ⟨v.kind, some .volume,
      (v.data.lift mesh.normalGradients).lift fun values => mesh.perVolume (mesh.netOutflow
        (List.zipWith (fun x k => Element.scale x k) values
          (List.zipWith (· * ·) factors mesh.areaSizes))), none⟩ := by
    unfold laplacian snGrad
    rw [known, expect_ok fits placed]
    rfl
  refine ⟨_, made, ?_, by simp [Value.isAt], ?_⟩
  · exact placed_fits ((Data.lift_shape _).trans fits.shape) fun values => mesh.outflow_length _
  · unfold integral
    dsimp only
    rw [Data.lift_lift, Data.lift_lift]
    apply Data.lift_lawful
    intro ε _ _ _ _ xs _
    rw [Element.sum_eq, sum_outflow beside solid, boundary_slopes, LawfulElement.zero_eq]

theorem zipSpread_one {ε δ γ : Type} (f : ε → δ → γ) (xs : List ε) (y : δ) :
    zipSpread xs.length f xs [y] = xs.map (f · y) := by
  rw [zipSpread, spread_of_length rfl]
  apply List.ext_getElem
  · simp [spread]
  · intro index _ _
    simp [spread]

theorem integral_scaleBy (mesh : Mesh α) (k : α) (data : Data α) :
    mesh.integral (Value.scaleBy data.size [k] data) =
      (mesh.integral data).lift fun sums => sums.map (Element.scale · k) := by
  unfold integral Value.scaleBy
  rw [Data.lift_lift, Data.lift_lift]
  apply Data.lift_lawful
  intro ε _ _ _ _ xs whole
  have moved (x : ε) (volume : α) :
      Element.scale (Element.scale x k) volume = k • Element.scale x volume := by
    simp only [LawfulElement.scale_eq]
    exact smul_comm volume k x
  rw [← whole, zipSpread_one, List.map_singleton, LawfulElement.scale_eq, Element.sum_eq,
    Element.sum_eq, List.smul_sum, List.zipWith_map_left, List.map_zipWith]
  simp only [moved]

theorem constant_conserves (beside : ∀ face ∈ mesh.faces, face.Beside mesh.cells.length)
    (solid : ∀ volume ∈ mesh.volumes, volume ≠ 0) {diffusivity : Value α}
    (constant : diffusivity.Fits mesh) (nowhere : diffusivity.location = none)
    (number : diffusivity.kind = .scalar) (fits : v.Fits mesh)
    (placed : v.isAt .volume Kind.numeric = true) :
    ∃ plain w, mesh.laplacian none v = .ok plain ∧ diffusivity.untagged.mul plain = .ok w ∧
      w.Fits mesh ∧ w.isAt .volume [v.kind] = true ∧
      mesh.integral w.data = v.data.lift fun _ => [Element.zero] := by
  obtain ⟨plain, made, plainFits, plainPlaced, still⟩ :=
    laplacian_conserves beside solid none (fun _ absent => by cases absent) fits placed
  obtain ⟨located, kind⟩ := Value.isAt_iff.mp plainPlaced
  have shape := constant.shape
  have single := constant.sized
  rw [number] at shape
  obtain ⟨factors, held⟩ := Data.of_number shape
  rw [nowhere] at single
  unfold Value.size at single
  rw [held] at single
  obtain ⟨k, rfl⟩ := List.length_eq_one_iff.mp single
  have scaled : diffusivity.untagged.mul plain = .ok ⟨plain.kind, some .volume,
      Value.scaleBy plain.data.size [k] plain.data, Value.productTag none plain.dimensions⟩ := by
    unfold Value.mul Value.domain Value.untagged
    simp only [nowhere, located, held]
    rfl
  refine ⟨plain, _, made, scaled, ?_, ?_, ?_⟩
  · exact ((Value.mul_made constant.untagged plainFits).of_ok scaled).1
  · simp [Value.isAt, List.mem_singleton.mp kind]
  · dsimp only
    rw [integral_scaleBy, still, Data.lift_lift]
    apply Data.lift_lawful
    intro ε _ _ _ _ xs _
    rw [List.map_singleton, LawfulElement.scale_eq, LawfulElement.zero_eq, smul_zero]

/-- Every mesh that a checked description gives, if none of its cells is flat, conserves what flows
through its faces. -/
theorem gauss_theorem (built : mesh.Built) (solid : ∀ volume ∈ mesh.volumes, volume ≠ 0) :
    mesh.Conserves where
  outflow v fits placed := surfaceIntegrate_conserves built.beside solid fits placed
  total v fits placed := surfaceSum_conserves built.beside fits placed
  diffusion diffusivity? v diffuses fits placed :=
    laplacian_conserves built.beside solid diffusivity? diffuses fits placed
  called env function diffusivity v same accepted fits placed := by
    have volume : v.requireAt function .volume Kind.numeric ["volume field"] = .ok () :=
      if_pos placed
    unfold Environment.applyLaplacian
    rw [volume, same]
    rcases accepted with diffuses | ⟨constant, nowhere, number⟩
    · obtain ⟨w, made, rest⟩ := laplacian_conserves built.beside solid
        (some diffusivity.value) (fun _ given => by cases given; exact diffuses) fits placed
      have varied : diffusivity.value.isConstant = false := by
        rcases diffuses.placed with cells | faces
        · simp [Value.isConstant, (Value.isAt_iff.mp cells).1]
        · simp [Value.isConstant, (Value.isAt_iff.mp faces).1]
      have accepts := diffuses.placed
      rw [← Bool.or_eq_true] at accepts
      refine ⟨w, ?_, rest⟩
      simp only [varied, accepts, made, Argument.require, Bool.false_and, Bool.false_eq_true, if_false,
        if_true]
      rfl
    · obtain ⟨plain, w, made, scaled, wFits, wPlaced, still⟩ :=
        constant_conserves built.beside solid constant nowhere number fits placed
      have single : diffusivity.value.isConstant = true := by simp [Value.isConstant, nowhere]
      refine ⟨w.untagged, ?_, wFits.untagged, wPlaced, still⟩
      simp only [single, number, made, Bool.true_and, decide_true, if_true]
      show (do return (← ofField (diffusivity.value.untagged.mul plain)).untagged) = _
      rw [scaled]
      rfl

def pair : Mesh Rat := assemble (Block.mk ⟨2, 1, 1⟩ ⟨0, 0, 0⟩ ⟨2, 1, 1⟩).addressing

theorem gauss_theorem_pair : pair.Built ∧ (∀ volume ∈ pair.volumes, volume ≠ 0) ∧ pair.Conserves := by
  have built : pair.Built :=
    .ofAddressing (a := (Block.mk ⟨2, 1, 1⟩ ⟨0, 0, 0⟩ ⟨2, 1, 1⟩).addressing) (by decide +kernel)
  have solid : ∀ volume ∈ pair.volumes, volume ≠ 0 := by decide +kernel
  exact ⟨built, solid, gauss_theorem built solid⟩

end Values

end Mesh

end MeshLang
