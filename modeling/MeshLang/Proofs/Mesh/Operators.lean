import MeshLang.Proofs.Value.Functions

namespace MeshLang

/-- A mesh with entities of all sorts, and with a list of cells for each of its points. -/
structure Mesh.Proper {α : Type} (mesh : Mesh α) : Prop where
  around : mesh.pointCells.length = mesh.points.length
  inhabited : ∀ location, 0 < mesh.size location

namespace Mesh

section Lengths

variable {α : Type} {mesh : Mesh α}

theorem volumes_length (mesh : Mesh α) : mesh.volumes.length = mesh.size .volume := List.length_map _

theorem positions_length (mesh : Mesh α) (location : Location) :
    (mesh.positions location).length = mesh.size location := by
  cases location
  · exact List.length_map _
  · exact List.length_map _
  · rfl

theorem expect_of_size {location : Location} {v : Value α} (sized : v.size = mesh.size location) :
    mesh.expect location v = .ok () :=
  if_pos sized

variable {ε δ : Type} [Element α ε] [Element α δ]

theorem accumulate_length (mesh : Mesh α) (sign : α) (contributions : List ε) :
    (mesh.accumulate sign contributions).length = mesh.size .volume := by
  simp only [accumulate, List.length_map, List.length_range, size]

variable [Scalar α]

theorem areaSizes_length (mesh : Mesh α) : mesh.areaSizes.length = mesh.size .surface := by
  simp only [areaSizes, faceAreas, List.length_map, size]

theorem perVolume_length {values : List ε} (all : values.length = mesh.size .volume) :
    (mesh.perVolume values).length = mesh.size .volume := by
  rw [perVolume, List.length_zipWith, all, volumes_length, Nat.min_self]

theorem outflow_length (mesh : Mesh α) (values : List ε) :
    (mesh.perVolume (mesh.netOutflow values)).length = mesh.size .volume :=
  perVolume_length (accumulate_length mesh _ values)

theorem gauss_length (mesh : Mesh α) (product : Vec3 α → ε → δ) (values : List ε) :
    (mesh.gauss product values).length = mesh.size .volume :=
  mesh.outflow_length _

theorem faceValues_length (mesh : Mesh α) (values : List ε) :
    (mesh.faceValues values).length = mesh.size .surface :=
  List.length_map _

theorem normalGradients_length (mesh : Mesh α) (values : List ε) :
    (mesh.normalGradients values).length = mesh.size .surface :=
  List.length_map _

theorem pointValues_length (proper : mesh.Proper) (values : List ε) :
    (mesh.pointValues values).length = mesh.size .point := by
  rw [pointValues, List.length_zipWith, proper.around, Nat.min_self]
  rfl

theorem cellValues_length (mesh : Mesh α) (values : List ε) :
    (mesh.cellValues values).length = mesh.size .volume :=
  List.length_map _

theorem areaAverages_length (mesh : Mesh α) (values : List ε) :
    (mesh.areaAverages values).length = mesh.size .volume := by
  rw [areaAverages, List.length_zipWith, total, total, accumulate_length, accumulate_length, Nat.min_self]

end Lengths

section Fits

variable {α : Type} [Scalar α] {mesh : Mesh α} {v flow : Value α}

theorem placed_fits {f : {ε : Type} → [Element α ε] → List ε → List ε} {location : Location}
    {kind : Kind} {data : Data α} {tag : Option (Dimensions α)} (stored : data.shape = kind.shape)
    (length : ∀ {ε : Type} [Element α ε] (values : List ε), (f values).length = mesh.size location) :
    (⟨kind, some location, data.lift f, tag⟩ : Value α).Fits mesh :=
  .of_shape ((Data.lift_shape data).trans stored) (Data.lift_size fun values _ => length values)

theorem surfaceIntegrate_fits (stored : v.data.shape = v.kind.shape) :
    Meets (fun u => u.Fits mesh) (fun _ => True) (mesh.surfaceIntegrate v) :=
  .bind .any fun _ _ => .ok (placed_fits stored mesh.outflow_length)

theorem surfaceSum_fits (stored : v.data.shape = v.kind.shape) :
    Meets (fun u => u.Fits mesh) (fun _ => True) (mesh.surfaceSum v) :=
  .bind .any fun _ _ => .ok (placed_fits stored (mesh.accumulate_length _))

theorem interpolate_fits (stored : v.data.shape = v.kind.shape) :
    Meets (fun u => u.Fits mesh) (fun _ => True) (mesh.interpolate v) :=
  .bind .any fun _ _ => .ok (placed_fits stored mesh.faceValues_length)

theorem interpolateToPoint_fits (proper : mesh.Proper) (stored : v.data.shape = v.kind.shape) :
    Meets (fun u => u.Fits mesh) (fun _ => True) (mesh.interpolateToPoint v) :=
  .bind .any fun _ _ => .ok (placed_fits stored (pointValues_length proper))

theorem interpolateToCell_fits (stored : v.data.shape = v.kind.shape) :
    Meets (fun u => u.Fits mesh) (fun _ => True) (mesh.interpolateToCell v) :=
  .bind .any fun _ _ => .ok (placed_fits stored mesh.cellValues_length)

theorem faceAverage_fits (stored : v.data.shape = v.kind.shape) :
    Meets (fun u => u.Fits mesh) (fun _ => True) (mesh.faceAverage v) :=
  .bind .any fun _ _ => .ok (placed_fits stored mesh.areaAverages_length)

theorem snGrad_fits (stored : v.data.shape = v.kind.shape) :
    Meets (fun u => u.Fits mesh) (fun _ => True) (mesh.snGrad v) :=
  .bind .any fun _ _ => .ok (placed_fits stored mesh.normalGradients_length)

theorem laplacian_fits (diffusivity? : Option (Value α)) (stored : v.data.shape = v.kind.shape) :
    Meets (fun u => u.Fits mesh) (fun _ => True) (mesh.laplacian diffusivity? v) := by
  apply Meets.bind .any
  intro diffusivities _
  have slopes : Meets (fun u => u.data.shape = v.kind.shape) (fun _ => True) (mesh.snGrad v) := by
    have shape : (v.data.lift mesh.normalGradients).shape = v.data.shape := Data.lift_shape _
    exact .bind .any fun _ _ => .ok (shape.trans stored)
  exact .bind slopes fun u shape => .ok (placed_fits shape fun values => mesh.outflow_length _)

theorem grad_fits : Meets (fun u => u.Fits mesh) (fun _ => True) (mesh.grad v) := by
  apply Meets.bind .any
  intro _ _
  split
  · exact .ok (.of_shape rfl (mesh.gauss_length _ _))
  · exact .ok (.of_shape rfl (mesh.gauss_length _ _))
  · exact .error trivial

theorem div_fits (stored : v.data.shape = v.kind.shape) :
    Meets (fun u => u.Fits mesh) (fun _ => True) (mesh.div v) := by
  unfold div
  split
  · exact .map ((surfaceIntegrate_fits stored).weaken fun u fits => fits.untagged)
  · apply Meets.bind .any
    intro _ _
    split
    · exact .ok (.of_shape rfl (mesh.gauss_length _ _))
    · exact .ok (.of_shape rfl (mesh.gauss_length _ _))
    · exact .error trivial

theorem curl_fits : Meets (fun u => u.Fits mesh) (fun _ => True) (mesh.curl v) := by
  apply Meets.bind .any
  intro _ _
  split
  · exact .ok (.of_shape rfl (mesh.gauss_length _ _))
  · exact .error trivial

theorem magSqrGradGrad_fits :
    Meets (fun u => u.Fits mesh) (fun _ => True) (mesh.magSqrGradGrad v) := by
  apply Meets.bind .any
  intro slopes _
  split
  · exact .ok (.of_shape rfl ((List.length_map _).trans (mesh.gauss_length _ _)))
  · exact .error trivial

theorem flux_fits (fits : flow.Fits mesh) (surface : flow.location = some .surface)
    (stored : v.data.shape = v.kind.shape) :
    Meets (fun u => u.Fits mesh) (fun _ => True) (mesh.flux flow v) := by
  apply Meets.bind .any
  intro _ _
  split
  · exact .error trivial
  · rename_i rates held
    apply Meets.bind (interpolate_fits stored)
    intro faces carried
    have rateFits : (Value.scalar .surface rates).Fits mesh := by
      have sized := fits.sized
      rw [surface] at sized
      unfold Value.size at sized
      unfold Value.scalars? at held
      split at held
      · rename_i values data
        cases held
        rw [data] at sized
        exact .of_shape rfl sized
      · cases held
    exact .bind (Value.mul_made rateFits carried) fun u made => .ok made.1.untagged

theorem divFlux_fits (fits : flow.Fits mesh) (surface : flow.location = some .surface)
    (stored : v.data.shape = v.kind.shape) :
    Meets (fun u => u.Fits mesh) (fun _ => True) (mesh.divFlux flow v) := by
  apply Meets.bind (flux_fits fits surface stored)
  intro carried through
  exact .map ((surfaceIntegrate_fits through.shape).weaken fun u made => made.untagged)

theorem reconstruct_fits :
    Meets (fun u => u.Fits mesh) (fun _ => True) (mesh.reconstruct flow) := by
  apply Meets.bind .any
  intro _ _
  split
  · exact .error trivial
  · refine .bind (inverses_length _ 0 _) fun inverted same => .ok (.of_shape rfl ?_)
    refine (List.length_zipWith).trans ?_
    rw [same, normalTensors, total, total, accumulate_length, accumulate_length, Nat.min_self]
    rfl

theorem mapCells_fits {source target : Mesh α} {order : MappingOrder}
    (stored : v.data.shape = v.kind.shape) :
    Meets (fun u => u.Fits target) (fun _ => True) (source.mapCells target order v) := by
  have places : target.cellCentres.length = target.size .volume := List.length_map _
  unfold mapCells
  split
  · exact .error trivial
  · dsimp only
    split
    · rename_i values held
      rw [held] at stored
      exact .ok (.of_shape stored ((List.length_map _).trans places))
    · rename_i values held
      rw [held] at stored
      exact .ok (.of_shape stored ((List.length_map _).trans places))
    · refine .ok (.of_shape ((Data.gather_shape _ _).trans stored) ((Data.gather_size _ _).trans ?_))
      exact (List.length_map _).trans places

omit [Scalar α] in
theorem positions_fits (mesh : Mesh α) (location : Location) :
    (Value.vector location (mesh.positions location)).Fits mesh :=
  .of_shape rfl (mesh.positions_length location)

end Fits

end Mesh

end MeshLang
