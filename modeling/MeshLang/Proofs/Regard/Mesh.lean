import MeshLang.Proofs.Mesh.Operators
import MeshLang.Proofs.Regard.Functions

namespace MeshLang.Regard

variable {α : Type} [Scalar α] {regard : Regard} {mesh : Mesh α} {v v' w w' flow flow' : Value α}

omit [Scalar α] in
theorem expected {β : Type} {Q : β → β → Prop} (alike : v.Alike regard w) (mesh : Mesh α)
    (location : Location) {next next' : Unit → Except (FieldError α) β}
    (rest : Agree Q regard.tolerance (next ()) (next' ())) :
    Agree Q regard.tolerance (mesh.expect location v >>= next) (mesh.expect location w >>= next') := by
  unfold Mesh.expect
  rw [alike.size]
  split
  · exact rest
  · exact .error trivial

omit [Scalar α] in
theorem Lists.filled {ε δ : Type} {f : List ε → List δ} {n : Nat} {xs ys : List ε}
    (alike : regard.Lists xs ys) (length : ∀ values, (f values).length = n) :
    regard.Lists (f xs) (f ys) :=
  alike.congr fun _ => (length xs).trans (length ys).symm

theorem placed_agree {f : {ε : Type} → [Element α ε] → List ε → List ε} {n : Nat}
    (alike : v.Alike regard w) (before after : Location)
    (length : ∀ {ε : Type} [Element α ε] (values : List ε), (f values).length = n) :
    regard.Results
      (do
        mesh.expect before v
        return ⟨v.kind, some after, v.data.lift f, v.dimensions⟩)
      (do
        mesh.expect before w
        return ⟨w.kind, some after, w.data.lift f, w.dimensions⟩) := by
  refine expected alike mesh before (.ok ⟨alike.kind, rfl, ?_, alike.tags⟩)
  exact alike.data.lift (f := f) (g := f) fun _ _ lists => lists.filled length

theorem interpolate_agree (alike : v.Alike regard w) :
    regard.Results (mesh.interpolate v) (mesh.interpolate w) :=
  placed_agree alike .volume .surface mesh.faceValues_length

theorem interpolateToPoint_agree (alike : v.Alike regard w) :
    regard.Results (mesh.interpolateToPoint v) (mesh.interpolateToPoint w) :=
  placed_agree alike .volume .point fun _ => List.length_zipWith

theorem interpolateToCell_agree (alike : v.Alike regard w) :
    regard.Results (mesh.interpolateToCell v) (mesh.interpolateToCell w) :=
  placed_agree alike .point .volume mesh.cellValues_length

theorem faceAverage_agree (alike : v.Alike regard w) :
    regard.Results (mesh.faceAverage v) (mesh.faceAverage w) :=
  placed_agree alike .surface .volume mesh.areaAverages_length

theorem surfaceIntegrate_agree (alike : v.Alike regard w) :
    regard.Results (mesh.surfaceIntegrate v) (mesh.surfaceIntegrate w) :=
  placed_agree alike .surface .volume mesh.outflow_length

theorem surfaceSum_agree (alike : v.Alike regard w) :
    regard.Results (mesh.surfaceSum v) (mesh.surfaceSum w) :=
  placed_agree alike .surface .volume (mesh.accumulate_length Scalar.one)

theorem snGrad_agree (alike : v.Alike regard w) :
    regard.Results (mesh.snGrad v) (mesh.snGrad w) := by
  refine expected alike mesh .volume (.ok ⟨alike.kind, rfl, ?_, .none⟩)
  exact alike.data.lift (f := mesh.normalGradients) (g := mesh.normalGradients) fun _ _ lists =>
    lists.filled mesh.normalGradients_length

theorem grad_agree (alike : v.Alike regard w) : regard.Results (mesh.grad v) (mesh.grad w) := by
  have data := alike.data
  refine expected alike mesh .volume ?_
  rw [alike.kind]
  generalize v.data = a at data ⊢
  generalize w.data = b at data ⊢
  cases data with
  | scalar lists => exact .ok ⟨rfl, rfl, .vector (lists.filled (mesh.gauss_length _)), .none⟩
  | vector lists => exact .ok ⟨rfl, rfl, .tensor (lists.filled (mesh.gauss_length _)), .none⟩
  | tensor _ => exact .error trivial

theorem curl_agree (alike : v.Alike regard w) : regard.Results (mesh.curl v) (mesh.curl w) := by
  have data := alike.data
  refine expected alike mesh .volume ?_
  rw [alike.kind]
  generalize v.data = a at data ⊢
  generalize w.data = b at data ⊢
  cases data with
  | vector lists => exact .ok ⟨rfl, rfl, .vector (lists.filled (mesh.gauss_length _)), .none⟩
  | scalar _ | tensor _ => exact .error trivial

theorem divergence_agree (alike : v.Alike regard w) : regard.Results (mesh.div v) (mesh.div w) := by
  unfold Mesh.div
  rw [alike.location]
  split
  · exact (surfaceIntegrate_agree alike).map fun _ _ made => made.untagged
  · have data := alike.data
    refine expected alike mesh .volume ?_
    rw [alike.kind]
    generalize v.data = a at data ⊢
    generalize w.data = b at data ⊢
    cases data with
    | scalar _ => exact .error trivial
    | vector lists => exact .ok ⟨rfl, rfl, .scalar (lists.filled (mesh.gauss_length _)), .none⟩
    | tensor lists => exact .ok ⟨rfl, rfl, .vector (lists.filled (mesh.gauss_length _)), .none⟩

theorem magSqrGradGrad_agree (alike : v.Alike regard w) :
    regard.Results (mesh.magSqrGradGrad v) (mesh.magSqrGradGrad w) := by
  refine .bind (grad_agree alike) fun slopes slopes' made => ?_
  have data := made.data
  rw [alike.kind]
  generalize slopes.data = a at data ⊢
  generalize slopes'.data = b at data ⊢
  cases data with
  | vector lists =>
    have seconds : regard.Lists (mesh.vectorGradients _) (mesh.vectorGradients _) :=
      lists.filled (mesh.gauss_length _)
    exact .ok ⟨rfl, rfl, .scalar (seconds.map _), .none⟩
  | scalar _ | tensor _ => exact .error trivial

theorem faceDiffusivities_agree (alike : v.Alike regard w) :
    Agree regard.Lists regard.tolerance (mesh.faceDiffusivities (some v))
      (mesh.faceDiffusivities (some w)) := by
  unfold Mesh.faceDiffusivities
  dsimp only
  rw [alike.location]
  split
  · refine expected alike mesh .surface ?_
    have numbers := alike.scalars?
    rw [alike.kind]
    generalize v.scalars? = xs at numbers ⊢
    generalize w.scalars? = ys at numbers ⊢
    cases numbers with
    | some lists => exact .ok lists
    | none => exact .error trivial
  · refine expected alike mesh .volume ?_
    have data := alike.data
    rw [alike.kind]
    generalize v.data = a at data ⊢
    generalize w.data = b at data ⊢
    cases data with
    | scalar lists => exact .ok (lists.filled mesh.faceValues_length)
    | tensor lists =>
      refine .ok ((lists.filled mesh.faceValues_length).congr₂ (.refl mesh.faceAreas) fun same _ => ?_)
      rw [List.length_zipWith, List.length_zipWith, same]
    | vector _ => exact .error trivial

theorem laplacian_agree (alike : v.Alike regard w) {diffusivity? diffusivity?' : Option (Value α)}
    (factors : Agree regard.Lists regard.tolerance (mesh.faceDiffusivities diffusivity?)
      (mesh.faceDiffusivities diffusivity?')) :
    regard.Results (mesh.laplacian diffusivity? v) (mesh.laplacian diffusivity?' w) := by
  refine .bind factors fun ks ks' lists => .bind (snGrad_agree alike) fun slopes slopes' made => ?_
  have sizes : regard.Lists (List.zipWith (· * ·) ks mesh.areaSizes)
      (List.zipWith (· * ·) ks' mesh.areaSizes) :=
    lists.congr₂ (.refl mesh.areaSizes) fun same _ => by
      rw [List.length_zipWith, List.length_zipWith, same]
  refine .ok ⟨alike.kind, rfl, ?_, .none⟩
  refine made.data.lift
    (f := fun xs => mesh.perVolume (mesh.netOutflow (List.zipWith (fun x k => Element.scale x k) xs
      (List.zipWith (· * ·) ks mesh.areaSizes))))
    (g := fun xs => mesh.perVolume (mesh.netOutflow (List.zipWith (fun x k => Element.scale x k) xs
      (List.zipWith (· * ·) ks' mesh.areaSizes)))) fun xs ys values => ?_
  exact values.congr₂ sizes (f := fun xs factors => mesh.perVolume (mesh.netOutflow
    (List.zipWith (fun x k => Element.scale x k) xs factors))) fun _ _ =>
      (mesh.outflow_length _).trans (mesh.outflow_length _).symm

theorem flux_agree (rates : flow.Alike regard flow') (alike : v.Alike regard w) :
    regard.Results (mesh.flux flow v) (mesh.flux flow' w) := by
  refine expected rates mesh .surface ?_
  have numbers := rates.scalars?
  rw [rates.kind]
  generalize flow.scalars? = xs at numbers ⊢
  generalize flow'.scalars? = ys at numbers ⊢
  cases numbers with
  | none => exact .error trivial
  | some lists =>
    refine .bind (interpolate_agree alike) fun faces faces' made => ?_
    refine .bind (mul_agree ⟨rfl, rfl, .scalar lists, .none⟩ made) fun _ _ product => ?_
    exact .ok product.untagged

theorem divFlux_agree (rates : flow.Alike regard flow') (alike : v.Alike regard w) :
    regard.Results (mesh.divFlux flow v) (mesh.divFlux flow' w) := by
  refine .bind (flux_agree rates alike) fun carried carried' made => ?_
  exact (surfaceIntegrate_agree made).map fun _ _ sums => sums.untagged

theorem reconstruct_agree (alike : flow.Alike regard flow') :
    regard.Results (mesh.reconstruct flow) (mesh.reconstruct flow') := by
  refine expected alike mesh .surface ?_
  have numbers := alike.scalars?
  rw [alike.kind]
  generalize flow.scalars? = xs at numbers ⊢
  generalize flow'.scalars? = ys at numbers ⊢
  cases numbers with
  | none => exact .error trivial
  | some lists =>
    refine .bind (.refl .any fun _ _ => trivial) fun inverted inverted' same => ?_
    obtain ⟨rfl, -⟩ := same
    refine .ok ⟨rfl, rfl, .vector ?_, .none⟩
    refine lists.filled (f := fun rates => List.zipWith Mat3.apply inverted (mesh.total
      (List.zipWith (fun area rate => area.normalized.scale rate) mesh.faceAreas rates)))
      (n := min inverted.length (mesh.size .volume)) fun values => ?_
    rw [List.length_zipWith, Mesh.total, Mesh.accumulate_length]

theorem mapCells_agree (source target : Mesh α) (order : MappingOrder) (alike : v.Alike regard w) :
    regard.Results (source.mapCells target order v) (source.mapCells target order w) := by
  unfold Mesh.mapCells
  rw [alike.size]
  split
  · exact .error trivial
  · refine .ok ⟨alike.kind, rfl, ?_, alike.tags⟩
    have data := alike.data
    have extended {ε δ : Type} [Element α ε] [Element α δ] (slope : δ → Vec3 α → ε)
        (slopes : List ε → List δ) {xs ys : List ε} (lists : regard.Lists xs ys) :
        regard.Lists (source.extend slope xs (slopes xs) target.cellCentres)
          (source.extend slope ys (slopes ys) target.cellCentres) :=
      lists.filled (f := fun values => source.extend slope values (slopes values) target.cellCentres)
        fun _ => List.length_map _
    generalize v.data = a at data ⊢
    generalize w.data = b at data ⊢
    cases order with
    | nearest => exact data.gather _
    | linear =>
      cases data with
      | scalar lists => exact .scalar (extended _ source.scalarGradients lists)
      | vector lists => exact .vector (extended _ source.vectorGradients lists)
      | tensor lists => exact .gather (.tensor lists) _

end MeshLang.Regard
