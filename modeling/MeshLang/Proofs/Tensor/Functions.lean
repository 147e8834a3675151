import MeshLang.Proofs.Tensor.Operators
import MeshLang.Proofs.Value.Components

namespace MeshLang

variable {α : Type} [ExactScalar α] {v w : Value α}

namespace Value

/-- An answer of which the kind promises what its matrices are. -/
abbrev Keeps (result : Except (FieldError α) (Value α)) : Prop :=
  Meets Regular (fun _ => True) result

theorem Promises.keeps {kind : Kind} {result : Except (FieldError α) (Value α)}
    (promises : Meets (Promises kind) (fun _ => True) result) : Keeps result :=
  promises.weaken fun _ made => made.1

theorem component?_regular {name : String} (found : v.component? name = some w) : w.Regular := by
  unfold component? at found
  split at found <;> cases found <;> exact .scalar

theorem applyScalar_keeps (function : ScalarFunction) (v : Value α) : Keeps (v.applyScalar function) := by
  unfold applyScalar
  split
  · exact .ok .scalar
  · exact .error trivial

theorem square_keeps (v : Value α) : Keeps v.square := by
  unfold square
  dsimp only
  split
  · exact .ok .scalar
  · refine .ok ⟨rfl, fun m member => ?_⟩
    obtain ⟨x, -, rfl⟩ := List.mem_map.mp member
    exact Mat3.outer_isSymmetric x
  · exact .error trivial

theorem reduce_keeps (reduction : Reduction) (regular : v.Regular) : Keeps (v.reduce reduction) := by
  unfold reduce
  split
  · exact .error trivial
  · exact .ok (regular.lift reduction.apply fun ms so =>
      v.kind.admits_closed.reduction so reduction).1

theorem pow_keeps (v w : Value α) : Keeps (v.pow w) := by
  refine .bind .any fun place _ => ?_
  dsimp only
  split
  · exact .ok .scalar
  · exact .error trivial

theorem extremumPosition_keeps (largest : Bool) (v : Value α) (positions : List (Vec3 α)) :
    Keeps (v.extremumPosition largest positions) := by
  unfold extremumPosition
  dsimp only
  split
  · exact .error trivial
  · split
    · exact .error trivial
    · split
      · exact .error trivial
      · exact .ok .vector

end Value

theorem inverses_all {P Q : Mat3 α → Prop} (keeps : ∀ m n, P m → m.inverse? = some n → Q n)
    (operation : String) (index : Nat) {ms : List (Mat3 α)} (all : ∀ m ∈ ms, P m) :
    Meets (fun ns => ∀ n ∈ ns, Q n) (fun _ => True) (inverses operation index ms) := by
  induction ms generalizing index with
  | nil => exact .ok fun n member => absurd member List.not_mem_nil
  | cons m rest ih =>
    unfold inverses
    split
    · exact .error trivial
    · rename_i inverse inverted
      refine .map ((ih (index + 1) fun n member => all n (List.mem_cons_of_mem m member)).weaken ?_)
      intro ns so n member
      rcases List.mem_cons.mp member with rfl | further
      · exact keeps m n (all m List.mem_cons_self) inverted
      · exact so n further

namespace TensorFunction

variable {kind : Kind} {ms : List (Mat3 α)}

theorem mapped {f : Mat3 α → Mat3 α} {result : Kind} (all : ∀ m ∈ ms, kind.Admits m)
    (keeps : ∀ m, kind.Admits m → result.Admits (f m)) :
    Meets (fun data : Data α => data.Matrices result.Admits) (fun _ : FieldError α => True)
      (.ok (.tensor (ms.map f))) := by
  refine .ok fun n member => ?_
  obtain ⟨m, here, rfl⟩ := List.mem_map.mp member
  exact keeps m (all m here)

theorem results_admitted (function : TensorFunction) (symmetric : Bool)
    (all : ∀ m ∈ ms, kind.Admits m) :
    Meets (fun data => data.Matrices (function.resultKind kind).Admits) (fun _ => True)
      (function.results symmetric ms) := by
  cases function with
  | trace | determinant | diagonal | eigenValues => exact .ok trivial
  | skew | eigenVectors => exact .ok fun _ _ => trivial
  | spherical => exact mapped all fun m _ => Mat3.IsIsotropic.spherical m
  | transpose =>
    refine mapped all fun m admitted => ?_
    cases kind with
    | symmTensor => exact Mat3.IsSymmetric.transpose admitted
    | sphericalTensor => exact Mat3.IsIsotropic.transpose admitted
    | _ => trivial
  | cofactor =>
    refine mapped all fun m admitted => ?_
    cases kind with
    | symmTensor => exact Mat3.IsSymmetric.cofactor admitted
    | sphericalTensor => exact Mat3.IsIsotropic.cofactor admitted
    | _ => trivial
  | inverse =>
    refine .map ((inverses_all ?_ _ 0 all).weaken fun ns so => so)
    intro m n admitted inverted
    cases kind with
    | symmTensor => exact Mat3.IsSymmetric.inverse admitted inverted
    | sphericalTensor => exact Mat3.IsIsotropic.inverse admitted inverted
    | _ => trivial
  | deviatoric =>
    refine mapped all fun m admitted => ?_
    cases kind with
    | symmTensor => exact Mat3.IsSymmetric.deviatoric admitted
    | sphericalTensor => exact Mat3.IsIsotropic.deviatoric admitted
    | _ => trivial
  | deviatoricTwice =>
    refine mapped all fun m admitted => ?_
    cases kind with
    | symmTensor => exact Mat3.IsSymmetric.deviatoricTwice admitted
    | sphericalTensor => exact Mat3.IsIsotropic.deviatoricTwice admitted
    | _ => trivial
  | symmetric =>
    refine mapped all fun m admitted => ?_
    cases kind with
    | sphericalTensor => exact Mat3.IsIsotropic.symmetricPart admitted
    | _ => exact m.symmetricPart_isSymmetric
  | symmetricTwice =>
    refine mapped all fun m admitted => ?_
    cases kind with
    | sphericalTensor => exact Mat3.IsIsotropic.symmetricTwice admitted
    | _ => exact m.symmetricTwice_isSymmetric

end TensorFunction

namespace Value

theorem applyTensor_keeps (function : TensorFunction) (regular : v.Regular) :
    Keeps (v.applyTensor function) := by
  have shape := regular.shape
  have matrices := regular.matrices
  unfold applyTensor
  cases held : v.data with
  | scalar _ | vector _ => exact .error trivial
  | tensor ms =>
    rw [held] at shape matrices
    refine .map ?_
    refine ((function.results_made _ ms shape.symm).and
      (function.results_admitted _ matrices)).weaken fun data both => ?_
    exact .of_shape both.1.1 both.2

theorem assemble?_admitted {kind : Kind} {entries : List (List α)} {data : Data α}
    (assembled : kind.assemble? entries = some data) : data.Matrices kind.Admits := by
  cases kind with
  | logical | scalar => cases assembled
  | vector => cases assembled; trivial
  | tensor => exact Kind.admits_free rfl data
  | symmTensor =>
    cases assembled
    intro m member
    obtain ⟨entry, -, rfl⟩ := List.mem_map.mp member
    split
    · rfl
    · rfl
  | sphericalTensor =>
    cases assembled
    intro m member
    obtain ⟨entry, -, rfl⟩ := List.mem_map.mp member
    split
    · exact ⟨_, rfl⟩
    · exact Mat3.isIsotropic_closed.zero

theorem build_keeps (kind : Kind) (components : List (Value α)) : Keeps (Value.build kind components) := by
  cases components with
  | nil => exact .error trivial
  | cons first rest =>
    unfold Value.build
    dsimp only
    split
    · exact .error trivial
    · split
      · exact .error trivial
      · refine .bind .any fun gathered _ => ?_
        split
        · rename_i data assembled
          exact .ok (.of_shape (Kind.assemble?_made assembled).1 (assemble?_admitted assembled))
        · exact .error trivial

end Value

namespace Mesh

variable {mesh : Mesh α}

theorem surfaceIntegrate_regular (regular : v.Regular) :
    Meets (Value.Promises v.kind) (fun _ => True) (mesh.surfaceIntegrate v) :=
  .bind .any fun _ _ => .ok <| regular.lift (fun values => mesh.perVolume (mesh.netOutflow values))
    fun _ so => v.kind.admits_closed.outflow so

theorem surfaceSum_keeps (regular : v.Regular) : Value.Keeps (mesh.surfaceSum v) :=
  .bind .any fun _ _ => .ok (regular.lift mesh.total fun _ so =>
    v.kind.admits_closed.accumulate so _).1

theorem interpolate_regular (regular : v.Regular) :
    Meets (Value.Promises v.kind) (fun _ => True) (mesh.interpolate v) :=
  .bind .any fun _ _ => .ok (regular.lift mesh.faceValues fun _ so =>
    v.kind.admits_closed.faceValues so)

theorem interpolateToPoint_keeps (regular : v.Regular) : Value.Keeps (mesh.interpolateToPoint v) :=
  .bind .any fun _ _ => .ok (regular.lift mesh.pointValues fun _ so =>
    v.kind.admits_closed.pointValues so).1

theorem interpolateToCell_keeps (regular : v.Regular) : Value.Keeps (mesh.interpolateToCell v) :=
  .bind .any fun _ _ => .ok (regular.lift mesh.cellValues fun _ so =>
    v.kind.admits_closed.cellValues so).1

theorem faceAverage_keeps (regular : v.Regular) : Value.Keeps (mesh.faceAverage v) :=
  .bind .any fun _ _ => .ok (regular.lift mesh.areaAverages fun _ so =>
    v.kind.admits_closed.areaAverages so).1

theorem snGrad_regular (regular : v.Regular) :
    Meets (Value.Promises v.kind) (fun _ => True) (mesh.snGrad v) :=
  .bind .any fun _ _ => .ok (regular.lift mesh.normalGradients fun _ so =>
    v.kind.admits_closed.normalGradients so)

theorem laplacian_regular (diffusivity? : Option (Value α)) (regular : v.Regular) :
    Meets (Value.Promises v.kind) (fun _ => True) (mesh.laplacian diffusivity? v) := by
  refine .bind .any fun diffusivities _ => .bind (snGrad_regular regular) fun slopes made => ?_
  obtain ⟨sloped, same⟩ := made
  refine .ok (same ▸ sloped.lift (fun values => mesh.perVolume (mesh.netOutflow
    (List.zipWith (fun x k => Element.scale x k) values
      (List.zipWith (· * ·) diffusivities mesh.areaSizes)))) fun ms so => ?_)
  exact slopes.kind.admits_closed.outflow (slopes.kind.admits_closed.scaled so _ id)

theorem grad_keeps : Value.Keeps (mesh.grad v) := by
  refine .bind .any fun _ _ => ?_
  split
  · exact .ok .vector
  · exact .ok .tensor
  · exact .error trivial

theorem div_keeps (regular : v.Regular) : Value.Keeps (mesh.div v) := by
  unfold div
  split
  · exact .map ((surfaceIntegrate_regular regular).weaken fun _ made => made.1.untagged)
  · refine .bind .any fun _ _ => ?_
    split
    · exact .ok .scalar
    · exact .ok .vector
    · exact .error trivial

theorem curl_keeps : Value.Keeps (mesh.curl v) := by
  refine .bind .any fun _ _ => ?_
  split
  · exact .ok .vector
  · exact .error trivial

theorem magSqrGradGrad_keeps : Value.Keeps (mesh.magSqrGradGrad v) := by
  refine .bind .any fun _ _ => ?_
  split
  · exact .ok .scalar
  · exact .error trivial

theorem flux_regular (flow : Value α) (regular : v.Regular) :
    Meets (Value.Promises v.kind) (fun _ => True) (mesh.flux flow v) := by
  refine .bind .any fun _ _ => ?_
  split
  · exact .error trivial
  · refine .bind (interpolate_regular regular) fun faces made => ?_
    refine .bind (Value.mul_regular .scalar made.1 rfl) fun carried product => .ok ?_
    exact ⟨product.1.untagged, product.2.trans made.2⟩

theorem divFlux_keeps (flow : Value α) (regular : v.Regular) : Value.Keeps (mesh.divFlux flow v) := by
  refine .bind (flux_regular flow regular) fun carried made => ?_
  exact .map ((surfaceIntegrate_regular made.1).weaken fun _ sums => sums.1.untagged)

theorem reconstruct_keeps (flow : Value α) : Value.Keeps (mesh.reconstruct flow) := by
  refine .bind .any fun _ _ => ?_
  split
  · exact .error trivial
  · exact .bind .any fun _ _ => .ok .vector

theorem mapCells_keeps {source target : Mesh α} {order : MappingOrder} (regular : v.Regular) :
    Value.Keeps (source.mapCells target order v) := by
  have shape := regular.shape
  unfold mapCells
  split
  · exact .error trivial
  · dsimp only
    split
    · rename_i values held
      rw [held] at shape
      exact .ok (.of_shape shape trivial)
    · rename_i values held
      rw [held] at shape
      exact .ok (.of_shape shape trivial)
    · refine .ok (.of_shape ((Data.gather_shape _ _).trans shape) ?_)
      exact regular.matrices.gather v.kind.admits_closed _

end Mesh

end MeshLang
