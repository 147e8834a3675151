import Mathlib.Algebra.Module.LinearMap.Basic
import MeshLang.Proofs.Evaluation.Closure
import MeshLang.Proofs.Mesh.LinearMaps
import MeshLang.Proofs.Mesh.Operators

namespace MeshLang

variable {α : Type} [ExactScalar α]

namespace Mesh

section Elements

variable (mesh : Mesh α)

theorem gradients_trace (values : List (Vec3 α)) :
    (mesh.vectorGradients values).map Mat3.trace = mesh.gauss Vec3.dot values := by
  have product (area x : Vec3 α) : Mat3.traceMap (Mat3.outer area x) = area.dot x := by
    rw [Mat3.traceMap_apply, Mat3.trace_eq]
    rfl
  calc (mesh.vectorGradients values).map Mat3.trace
      = (mesh.gauss Mat3.outer values).map Mat3.traceMap :=
        List.map_congr_left fun m _ => (Mat3.traceMap_apply m).symm
    _ = mesh.gauss Vec3.dot values := by simp only [map_gauss, product]

theorem curls_entry (values : List (Vec3 α)) (axis : Axis) :
    (mesh.gauss Vec3.cross values).map (·.entry axis) =
      List.zipWith (· - ·)
        ((mesh.vectorGradients values).map (·.entry axis.next axis.next.next))
        ((mesh.vectorGradients values).map (·.entry axis.next.next axis.next)) := by
  let turn : Mat3 α →ₗ[α] α :=
    Mat3.entryMap axis.next axis.next.next - Mat3.entryMap axis.next.next axis.next
  have product (area x : Vec3 α) : Vec3.entryMap axis (area.cross x) = turn (Mat3.outer area x) := by
    rw [LinearMap.sub_apply, Vec3.entryMap_apply, Mat3.entryMap_apply, Mat3.entryMap_apply,
      Vec3.cross_entry, Mat3.outer_entry, Mat3.outer_entry]
  calc (mesh.gauss Vec3.cross values).map (Vec3.entryMap axis)
      = (mesh.gauss Mat3.outer values).map turn := by simp only [map_gauss, product]
    _ = _ := by
      rw [List.zipWith_map, List.zipWith_self]
      rfl

theorem slopes_entry {ε : Type} [Element α ε] [AddCommGroup ε] [Module α ε] [LawfulElement α ε]
    (part : ε →ₗ[α] α) (values : List ε) (axis : Axis) :
    (mesh.scalarGradients (values.map part)).map (·.entry axis) =
      mesh.gauss (fun area x => area.entry axis * part x) values := by
  calc (mesh.gauss (fun area x => area.scale x) (values.map part)).map (Vec3.entryMap axis)
      = mesh.gauss (fun area x => Vec3.entryMap axis (area.scale (part x))) values := by
        rw [gauss_map, map_gauss]
    _ = mesh.gauss (fun area x => area.entry axis * part x) values := by
        simp only [Vec3.entryMap_apply, Vec3.scale_entry]

theorem gradients_entry (values : List (Vec3 α)) (row column : Axis) :
    (mesh.vectorGradients values).map (·.entry row column) =
      (mesh.scalarGradients (values.map (·.entry column))).map (·.entry row) := by
  calc (mesh.gauss Mat3.outer values).map (Mat3.entryMap row column)
      = mesh.gauss (fun area x => area.entry row * x.entry column) values := by
        simp only [map_gauss, Mat3.entryMap_apply, Mat3.outer_entry]
    _ = _ := (mesh.slopes_entry (Vec3.entryMap column) values row).symm

/-- The derivatives of the entries of a column, each along the direction of its row. -/
def columnSlopes (values : List (Mat3 α)) (column : Axis) : List (Vec3 α) :=
  mesh.gauss (fun area m => Vec3.zipWith (· * ·) area (m.column column)) values

theorem columnSlopes_entry (values : List (Mat3 α)) (row column : Axis) :
    (mesh.columnSlopes values column).map (·.entry row) =
      (mesh.scalarGradients (values.map (·.entry row column))).map (·.entry row) := by
  have product (area : Vec3 α) (m : Mat3 α) :
      Vec3.entryMap row (Vec3.zipWith (· * ·) area (m.column column)) =
        area.entry row * m.entry row column := by
    cases row <;> cases column <;> rfl
  calc (mesh.columnSlopes values column).map (Vec3.entryMap row)
      = mesh.gauss (fun area m => area.entry row * m.entry row column) values := by
        simp only [columnSlopes, map_gauss, product]
    _ = _ := (mesh.slopes_entry (Mat3.entryMap row column) values row).symm

theorem divergences_entry (values : List (Mat3 α)) (column : Axis) :
    (mesh.gauss (fun area m => m.transpose.apply area) values).map (·.entry column) =
      List.zipWith (· + ·)
        (List.zipWith (· + ·)
          ((mesh.scalarGradients (values.map (·.entry .x column))).map (·.entry .x))
          ((mesh.scalarGradients (values.map (·.entry .y column))).map (·.entry .y)))
        ((mesh.scalarGradients (values.map (·.entry .z column))).map (·.entry .z)) := by
  let sum : Vec3 α →ₗ[α] α := Vec3.entryMap .x + Vec3.entryMap .y + Vec3.entryMap .z
  have product (area : Vec3 α) (m : Mat3 α) : Vec3.entryMap column (m.transpose.apply area) =
      sum (Vec3.zipWith (· * ·) area (m.column column)) := by
    rw [Vec3.entryMap_apply, Mat3.transpose_apply_entry]
    cases column <;> rfl
  calc (mesh.gauss (fun area m => m.transpose.apply area) values).map (Vec3.entryMap column)
      = (mesh.columnSlopes values column).map sum := by simp only [columnSlopes, map_gauss, product]
    _ = _ := by
      rw [← columnSlopes_entry, ← columnSlopes_entry, ← columnSlopes_entry, List.zipWith_map,
        List.zipWith_self, List.zipWith_map, List.zipWith_self]
      rfl

end Elements

def partialDerivative? (mesh : Mesh α) (v : Value α) (part : String) (axis : Axis) :
    Option (Value α) := do
  let field ← v.component? part
  let slopes ← (mesh.grad field).toOption
  slopes.component? axis.text

/-- What gradient, divergence and curl of the fields of a mesh have to do with one another. -/
structure DerivativesAgree (mesh : Mesh α) : Prop where
  gradient : ∀ v : Value α, v.Fits mesh → v.isAt .volume [.vector] = true →
    ∃ slopes, mesh.grad v = .ok slopes ∧ slopes.Fits mesh ∧ slopes.isAt .volume [.tensor] = true ∧
      ∀ row column : Axis, ∃ entry, slopes.component? (row.text ++ column.text) = some entry ∧
        mesh.partialDerivative? v column.text row = some entry
  divergence : ∀ v : Value α, v.Fits mesh → v.isAt .volume [.vector] = true →
    ∃ slopes outflow, mesh.grad v = .ok slopes ∧ mesh.div v = .ok outflow ∧ outflow.Fits mesh ∧
      outflow.isAt .volume [.scalar] = true ∧ slopes.applyTensor .trace = .ok outflow
  rotation : ∀ v : Value α, v.Fits mesh → v.isAt .volume [.vector] = true →
    ∃ slopes turn, mesh.grad v = .ok slopes ∧ mesh.curl v = .ok turn ∧ turn.Fits mesh ∧
      turn.isAt .volume [.vector] = true ∧
      ∀ axis : Axis, ∃ ahead behind entry,
        slopes.component? (axis.next.text ++ axis.next.next.text) = some ahead ∧
        slopes.component? (axis.next.next.text ++ axis.next.text) = some behind ∧
        turn.component? axis.text = some entry ∧ ahead.sub behind = .ok entry
  tensors : ∀ v : Value α, v.Fits mesh → v.isAt .volume Kind.tensors = true →
    ∃ outflow, mesh.div v = .ok outflow ∧ outflow.Fits mesh ∧ outflow.isAt .volume [.vector] = true ∧
      ∀ column : Axis, ∃ along : Axis → Value α, ∃ entry,
        (∀ row : Axis,
          mesh.partialDerivative? (v.relabel .tensor) (row.text ++ column.text) row =
            some (along row)) ∧
        outflow.component? column.text = some entry ∧
        (do (← (along .x).add (along .y)).add (along .z)) = .ok entry

section Values

variable {mesh : Mesh α}

omit [ExactScalar α] in
theorem vectors_of {v : Value α} (fits : v.Fits mesh) (placed : v.isAt .volume [.vector] = true) :
    ∃ values tag, v = ⟨.vector, some .volume, .vector values, tag⟩ ∧
      values.length = mesh.size .volume := by
  obtain ⟨located, kind⟩ := Value.isAt_iff.mp placed
  obtain ⟨kind', location, data, tag⟩ := v
  cases located
  cases List.mem_singleton.mp kind
  obtain ⟨values, rfl⟩ := Data.of_vector fits.shape
  exact ⟨values, tag, rfl, fits.sized⟩

omit [ExactScalar α] in
theorem tensors_of {v : Value α} (fits : v.Fits mesh) (placed : v.isAt .volume Kind.tensors = true) :
    ∃ kind values tag, v = ⟨kind, some .volume, .tensor values, tag⟩ ∧
      values.length = mesh.size .volume := by
  obtain ⟨located, kind⟩ := Value.isAt_iff.mp placed
  obtain ⟨kind', location, data, tag⟩ := v
  cases located
  have matrices : kind'.shape = .matrix := by
    have like := (List.mem_filter.mp kind).2
    cases kind' <;> first | rfl | cases like
  obtain ⟨values, rfl⟩ := Data.of_matrix (fits.shape.trans matrices)
  exact ⟨kind', values, tag, rfl, fits.sized⟩

omit [ExactScalar α] in
theorem component?_axis (location : Option Location) (values : List (Vec3 α))
    (tag : Option (Dimensions α)) (axis : Axis) :
    (⟨.vector, location, .vector values, tag⟩ : Value α).component? axis.text =
      some ⟨.scalar, location, .scalar (values.map (·.entry axis)), tag⟩ := by
  cases axis <;> rfl

omit [ExactScalar α] in
theorem component?_entry (location : Option Location) (values : List (Mat3 α))
    (tag : Option (Dimensions α)) (row column : Axis) :
    (⟨.tensor, location, .tensor values, tag⟩ : Value α).component? (row.text ++ column.text) =
      some ⟨.scalar, location, .scalar (values.map (·.entry row column)), tag⟩ := by
  cases row <;> cases column <;> rfl

theorem grad_scalars {values : List α} (all : values.length = mesh.size .volume) (kind : Kind)
    (tag : Option (Dimensions α)) : mesh.grad ⟨kind, some .volume, .scalar values, tag⟩ =
      .ok (.vector .volume (mesh.scalarGradients values)) := by
  unfold grad
  rw [expect_of_size (v := ⟨kind, some .volume, .scalar values, tag⟩) all]
  rfl

theorem grad_vectors {values : List (Vec3 α)} (all : values.length = mesh.size .volume) (kind : Kind)
    (tag : Option (Dimensions α)) : mesh.grad ⟨kind, some .volume, .vector values, tag⟩ =
      .ok (.tensor .volume (mesh.vectorGradients values)) := by
  unfold grad
  rw [expect_of_size (v := ⟨kind, some .volume, .vector values, tag⟩) all]
  rfl

theorem partialDerivative?_of_part {v : Value α} {part : String} {values : List α}
    {tag : Option (Dimensions α)} (all : values.length = mesh.size .volume)
    (found : v.component? part = some ⟨.scalar, some .volume, .scalar values, tag⟩) (axis : Axis) :
    mesh.partialDerivative? v part axis =
      some (.scalar .volume ((mesh.scalarGradients values).map (·.entry axis))) := by
  unfold partialDerivative?
  rw [found, Option.bind_eq_bind, Option.bind_some, grad_scalars all]
  exact component?_axis (some .volume) (mesh.scalarGradients values) none axis

theorem add_scalars {location : Location} {xs ys : List α} (same : xs.length = ys.length) :
    (Value.scalar location xs).add (.scalar location ys) =
      .ok (.scalar location (List.zipWith (· + ·) xs ys)) := by
  have shared : Value.domain (Value.scalar location xs) (.scalar location ys) =
      .ok (some location, xs.length) := if_pos same
  unfold Value.add
  rw [shared]
  exact congrArg (fun values => Except.ok (Value.scalar location values))
    (zipSpread_of_length (· + ·) rfl same.symm)

theorem sub_scalars {location : Location} {xs ys : List α} (same : xs.length = ys.length) :
    (Value.scalar location xs).sub (.scalar location ys) =
      .ok (.scalar location (List.zipWith (· - ·) xs ys)) := by
  have shared : Value.domain (Value.scalar location xs) (.scalar location ys) =
      .ok (some location, xs.length) := if_pos same
  unfold Value.sub
  rw [shared]
  exact congrArg (fun values => Except.ok (Value.scalar location values))
    (zipSpread_of_length (· - ·) rfl same.symm)

theorem gradient_agrees {v : Value α} (fits : v.Fits mesh) (placed : v.isAt .volume [.vector] = true) :
    ∃ slopes, mesh.grad v = .ok slopes ∧ slopes.Fits mesh ∧ slopes.isAt .volume [.tensor] = true ∧
      ∀ row column : Axis, ∃ entry, slopes.component? (row.text ++ column.text) = some entry ∧
        mesh.partialDerivative? v column.text row = some entry := by
  obtain ⟨values, tag, rfl, all⟩ := vectors_of fits placed
  refine ⟨_, grad_vectors all _ _, .of_shape rfl (mesh.gauss_length _ _), rfl, fun row column => ?_⟩
  have part := component?_axis (some .volume) values tag column
  refine ⟨_, component?_entry _ _ _ row column, ?_⟩
  rw [partialDerivative?_of_part ((List.length_map _).trans all) part, gradients_entry]
  rfl

theorem divergence_agrees {v : Value α} (fits : v.Fits mesh)
    (placed : v.isAt .volume [.vector] = true) :
    ∃ slopes outflow, mesh.grad v = .ok slopes ∧ mesh.div v = .ok outflow ∧ outflow.Fits mesh ∧
      outflow.isAt .volume [.scalar] = true ∧ slopes.applyTensor .trace = .ok outflow := by
  obtain ⟨values, tag, rfl, all⟩ := vectors_of fits placed
  have made : mesh.div ⟨.vector, some .volume, .vector values, tag⟩ =
      .ok (.scalar .volume (mesh.gauss Vec3.dot values)) := by
    unfold div
    rw [if_neg (by simp), expect_of_size fits.sized]
    rfl
  refine ⟨_, _, grad_vectors all _ _, made, .of_shape rfl (mesh.gauss_length _ _), rfl, ?_⟩
  rw [← gradients_trace]
  rfl

theorem rotation_agrees {v : Value α} (fits : v.Fits mesh) (placed : v.isAt .volume [.vector] = true) :
    ∃ slopes turn, mesh.grad v = .ok slopes ∧ mesh.curl v = .ok turn ∧ turn.Fits mesh ∧
      turn.isAt .volume [.vector] = true ∧
      ∀ axis : Axis, ∃ ahead behind entry,
        slopes.component? (axis.next.text ++ axis.next.next.text) = some ahead ∧
        slopes.component? (axis.next.next.text ++ axis.next.text) = some behind ∧
        turn.component? axis.text = some entry ∧ ahead.sub behind = .ok entry := by
  obtain ⟨values, tag, rfl, all⟩ := vectors_of fits placed
  have made : mesh.curl ⟨.vector, some .volume, .vector values, tag⟩ =
      .ok (.vector .volume (mesh.gauss Vec3.cross values)) := by
    unfold curl
    rw [expect_of_size fits.sized]
    rfl
  refine ⟨_, _, grad_vectors all _ _, made, .of_shape rfl (mesh.gauss_length _ _), rfl, fun axis => ?_⟩
  refine ⟨_, _, _, component?_entry _ _ _ axis.next axis.next.next,
    component?_entry _ _ _ axis.next.next axis.next, component?_axis _ _ _ axis, ?_⟩
  rw [curls_entry]
  exact sub_scalars (by rw [List.length_map, List.length_map])

theorem tensors_agree {v : Value α} (fits : v.Fits mesh)
    (placed : v.isAt .volume Kind.tensors = true) :
    ∃ outflow, mesh.div v = .ok outflow ∧ outflow.Fits mesh ∧ outflow.isAt .volume [.vector] = true ∧
      ∀ column : Axis, ∃ along : Axis → Value α, ∃ entry,
        (∀ row : Axis,
          mesh.partialDerivative? (v.relabel .tensor) (row.text ++ column.text) row =
            some (along row)) ∧
        outflow.component? column.text = some entry ∧
        (do (← (along .x).add (along .y)).add (along .z)) = .ok entry := by
  obtain ⟨kind, values, tag, rfl, all⟩ := tensors_of fits placed
  have made : mesh.div ⟨kind, some .volume, .tensor values, tag⟩ =
      .ok (.vector .volume (mesh.gauss (fun area m => m.transpose.apply area) values)) := by
    unfold div
    rw [if_neg (by simp), expect_of_size fits.sized]
    rfl
  refine ⟨_, made, .of_shape rfl (mesh.gauss_length _ _), rfl, fun column => ?_⟩
  let slopes (row : Axis) : List α :=
    (mesh.scalarGradients (values.map (·.entry row column))).map (·.entry row)
  have count (row : Axis) : (slopes row).length = mesh.size .volume :=
    (List.length_map _).trans (mesh.gauss_length _ _)
  have sum : List.zipWith (· + ·) (List.zipWith (· + ·) (slopes .x) (slopes .y)) (slopes .z) =
      (mesh.gauss (fun area m => m.transpose.apply area) values).map (·.entry column) :=
    (mesh.divergences_entry values column).symm
  refine ⟨fun row => .scalar .volume (slopes row), _, fun row => ?_, component?_axis _ _ _ column, ?_⟩
  · have part := component?_entry (some .volume) values tag row column
    exact partialDerivative?_of_part ((List.length_map _).trans all) part row
  · have pair : (List.zipWith (· + ·) (slopes .x) (slopes .y)).length = mesh.size .volume := by
      rw [List.length_zipWith, count, count, Nat.min_self]
    rw [add_scalars ((count .x).trans (count .y).symm)]
    show (Value.scalar .volume (List.zipWith (· + ·) (slopes .x) (slopes .y))).add _ = _
    rw [add_scalars (pair.trans (count .z).symm), sum]
    rfl

/-- On every mesh and in exact arithmetic, whatever its shape, divergence and curl are made of the
entries of gradients. -/
theorem derivatives_agree (mesh : Mesh α) : mesh.DerivativesAgree where
  gradient _ fits placed := gradient_agrees fits placed
  divergence _ fits placed := divergence_agrees fits placed
  rotation _ fits placed := rotation_agrees fits placed
  tensors _ fits placed := tensors_agree fits placed

end Values

end Mesh

end MeshLang
