import MeshLang.Proofs.Value.Truth
import MeshLang.Repository.Mapping

namespace MeshLang.Mesh

variable {α : Type} [Scalar α]

section Kinds

variable (mesh : Mesh α) (flow v : Value α)

theorem surfaceIntegrate_kind : Value.OfKind v.kind (mesh.surfaceIntegrate v) :=
  .bind .any fun _ _ => .ok rfl

theorem surfaceSum_kind : Value.OfKind v.kind (mesh.surfaceSum v) := .bind .any fun _ _ => .ok rfl

theorem interpolate_kind : Value.OfKind v.kind (mesh.interpolate v) := .bind .any fun _ _ => .ok rfl

theorem interpolateToPoint_kind : Value.OfKind v.kind (mesh.interpolateToPoint v) :=
  .bind .any fun _ _ => .ok rfl

theorem interpolateToCell_kind : Value.OfKind v.kind (mesh.interpolateToCell v) :=
  .bind .any fun _ _ => .ok rfl

theorem faceAverage_kind : Value.OfKind v.kind (mesh.faceAverage v) := .bind .any fun _ _ => .ok rfl

theorem snGrad_kind : Value.OfKind v.kind (mesh.snGrad v) := .bind .any fun _ _ => .ok rfl

theorem laplacian_kind (diffusivity? : Option (Value α)) :
    Value.OfKind v.kind (mesh.laplacian diffusivity? v) :=
  .bind .any fun _ _ => .bind .any fun _ _ => .ok rfl

theorem grad_numeric : Value.Numeric (mesh.grad v) := by
  apply Meets.bind .any
  intro _ _
  split
  · exact .ok Kind.vector_ne_logical
  · exact .ok Kind.tensor_ne_logical
  · exact .error trivial

theorem curl_numeric : Value.Numeric (mesh.curl v) := by
  apply Meets.bind .any
  intro _ _
  split
  · exact .ok Kind.vector_ne_logical
  · exact .error trivial

theorem magSqrGradGrad_numeric : Value.Numeric (mesh.magSqrGradGrad v) := by
  apply Meets.bind .any
  intro slopes _
  split
  · exact .ok Kind.scalar_ne_logical
  · exact .error trivial

theorem reconstruct_numeric : Value.Numeric (mesh.reconstruct flow) := by
  apply Meets.bind .any
  intro _ _
  split
  · exact .error trivial
  · exact .bind .any fun _ _ => .ok Kind.vector_ne_logical

variable {v}

theorem flux_numeric (numeric : v.kind ≠ .logical) : Value.Numeric (mesh.flux flow v) := by
  apply Meets.bind .any
  intro _ _
  split
  · exact .error trivial
  · rename_i rates held
    apply Meets.bind ((mesh.interpolate_kind v).numeric numeric)
    intro faces other
    exact .bind (Value.mul_numeric Kind.scalar_ne_logical other) fun carried kept => .ok kept

theorem divFlux_numeric (numeric : v.kind ≠ .logical) : Value.Numeric (mesh.divFlux flow v) := by
  apply Meets.bind (mesh.flux_numeric flow numeric)
  intro carried other
  exact .map ((mesh.surfaceIntegrate_kind carried).numeric other)

theorem div_numeric (numeric : v.kind ≠ .logical) : Value.Numeric (mesh.div v) := by
  unfold div
  split
  · exact .map ((mesh.surfaceIntegrate_kind v).numeric numeric)
  · apply Meets.bind .any
    intro _ _
    split
    · exact .ok Kind.scalar_ne_logical
    · exact .ok Kind.vector_ne_logical
    · exact .error trivial

end Kinds

theorem mask_truthful (mesh : Mesh α) (location : Location) (included : Nat → Bool) :
    (mesh.mask location included).Truthful :=
  fun _ => Value.truths_map .logical (some location) id _ none

section Mapping

variable {source target : Mesh α} {v : Value α} {values : List α}

def estimate (mesh : Mesh α) (values : List α) (place : Vec3 α) : α :=
  let donor := mesh.nearestCell place
  let slope := (mesh.scalarGradients values).getD donor Vec3.zero
  values.getD donor Scalar.zero + slope.dot (place - mesh.centreOf donor)

/-- A logical field is estimated to be zero or one at the cells of another mesh. -/
def EstimatesTruth (source target : Mesh α) (v : Value α) : Prop :=
  ∀ values, v.kind = .logical → v.data = .scalar values → values.length = source.cells.length →
    ∀ place ∈ target.cellCentres, Scalar.IsTruth (source.estimate values place)

theorem mapCells_linear (held : v.data = .scalar values) (sized : values.length = source.cells.length) :
    source.mapCells target .linear v =
      .ok ⟨v.kind, some .volume, .scalar (target.cellCentres.map (source.estimate values)),
        v.dimensions⟩ := by
  have size : v.size = source.cells.length := by
    unfold Value.size
    rw [held]
    exact sized
  unfold mapCells
  simp only [size, held, ne_eq, not_true_eq_false, if_false]
  rfl

theorem mapCells_location {order : MappingOrder} :
    Meets (fun w => w.location = some .volume) (fun _ => True) (source.mapCells target order v) := by
  unfold mapCells
  split
  · exact .error trivial
  · exact .ok rfl

theorem gather_truths (places : List Nat) (truths : v.Truths) (kind : Kind)
    (location : Option Location) (tag : Option (Dimensions α)) :
    Value.Truths ⟨kind, location, v.data.gather places, tag⟩ := by
  obtain ⟨values, held, each⟩ := truths
  refine ⟨_, congrArg (Data.gather places) held, fun x member => ?_⟩
  obtain ⟨place, -, rfl⟩ := List.mem_map.mp member
  rw [List.getD_eq_getElem?_getD]
  cases found : values[place]? with
  | none => left; rfl
  | some x => exact each x (List.mem_of_getElem? found)

theorem mapCells_truthful {order : MappingOrder} (truthful : v.Truthful)
    (estimates : order = .linear → source.EstimatesTruth target v) :
    Meets Value.Truthful (fun _ => True) (source.mapCells target order v) := by
  by_cases size : v.size = source.cells.length
  · by_cases logical : v.kind = .logical
    · obtain ⟨values, held, truths⟩ := truthful logical
      cases order with
      | nearest =>
        unfold mapCells
        simp only [size, ne_eq, not_true_eq_false, if_false]
        exact .ok fun _ => gather_truths _ ⟨values, held, truths⟩ _ _ _
      | linear =>
        have sized : values.length = source.cells.length := by
          unfold Value.size at size
          rwa [held] at size
        rw [mapCells_linear held sized]
        refine .ok fun _ => ⟨_, rfl, fun x member => ?_⟩
        obtain ⟨place, there, rfl⟩ := List.mem_map.mp member
        exact estimates rfl values logical held sized place there
    · unfold mapCells
      simp only [size, ne_eq, not_true_eq_false, if_false]
      exact .ok (Value.truthful_of_kind logical)
  · unfold mapCells
    simp only [size, ne_eq, not_false_eq_true, if_true]
    exact .error trivial

theorem estimatesTruth_of_mapCells
    (truthful : Meets Value.Truthful (fun _ => True) (source.mapCells target .linear v)) :
    source.EstimatesTruth target v := by
  intro values logical held sized place there
  rw [mapCells_linear held sized] at truthful
  obtain ⟨mapped, same, truths⟩ := truthful logical
  cases same
  exact truths _ (List.mem_map_of_mem there)

end Mapping

end MeshLang.Mesh
