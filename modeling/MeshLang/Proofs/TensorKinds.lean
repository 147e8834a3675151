import MeshLang.Proofs.Lockstep.Invariants
import MeshLang.Proofs.Plugin.Library
import MeshLang.Proofs.Repository.Built
import MeshLang.Proofs.Tensor.Functions

namespace MeshLang

variable {α : Type} [ExactScalar α]

/-- What is stored for expressions keeps the promises of its kinds. Old values are left out:
derivatives in time take the kind of the current value. -/
structure Repository.Regular (r : Repository α) : Prop where
  region : r.toRegion.Stores Value.Regular
  foreign : ∀ name region, r.foreign.get? name = some region → region.Stores Value.Regular
  meshPhi : ∀ flow, r.meshPhi = some flow → flow.Regular

structure Environment.Regular (env : Environment α) : Prop where
  repository : env.repository.Regular
  bindings : ∀ name v, env.bindings.get? name = some v → v.Regular
  plugins : ∀ name plugin, env.registry.get? name = some plugin →
    plugin.Keeps Value.Regular fun _ => True

namespace Environment.Regular

variable {env : Environment α}

theorem adopt (_ : env.Regular) {v : Value α} (regular : v.Regular) :
    (env.options.adopt v).Regular := by
  unfold Options.adopt
  split
  · exact regular
  · exact regular.untagged

theorem flow (holds : env.Regular) :
    (env.repository.meshPhi.getD (.zeros ⟨.scalar, .surface⟩ env.mesh.faces.length)).Regular := by
  cases stored : env.repository.meshPhi with
  | none => exact .scalar
  | some flow => exact holds.repository.meshPhi flow stored

theorem applyForeign (holds : env.Regular) {region : Region α}
    (stored : region.Stores Value.Regular) (function name : Token) (old : Bool) :
    Meets Value.Regular (fun _ => True) (env.applyForeign region function name old) :=
  env.applyForeign_meets stored function name old fun _ regular =>
    (Mesh.mapCells_keeps regular).weaken fun _ mapped => holds.adopt mapped

theorem algebra : Value.Agreement (α := α) (Value.Both Value.Regular) (.strict fun _ => True) where
  plain _ _ := trivial
  alike := by
    rintro v _ ⟨rfl, -⟩
    exact ⟨rfl, rfl⟩
  numbers _ := .same .scalar
  truths _ := .same .logical
  identity := .same .tensor
  untagged := by
    rintro v _ ⟨rfl, regular⟩
    exact .same regular.untagged
  signs := by
    rintro op v _ kind legal ⟨rfl, regular⟩
    exact .relabelled (op.apply_regular legal regular)
  operators := by
    rintro op v _ w _ kind legal - ⟨rfl, left⟩ ⟨rfl, right⟩
    exact .relabelled (op.apply_regular legal left right)
  choices := by
    rintro c _ v _ w _ kind legal - - - ⟨rfl, -⟩ ⟨rfl, left⟩ ⟨rfl, right⟩
    exact .relabelled (Value.select_regular legal left right)
  components := by
    rintro v _ name ⟨rfl, -⟩
    cases found : v.component? name with
    | none => exact .none
    | some component => exact .some (.same (Value.component?_regular found))
  elementary := by
    rintro function v _ ⟨rfl, -⟩ -
    exact .inField (v.applyScalar_keeps function)
  magnitude := by
    rintro v _ ⟨rfl, -⟩
    exact .same .scalar
  magnitudeSquared := by
    rintro v _ ⟨rfl, -⟩
    exact .same .scalar
  square := by
    rintro v _ ⟨rfl, -⟩ -
    exact .inField v.square_keeps
  reduce := by
    rintro reduction v _ ⟨rfl, regular⟩ -
    exact .inField (Value.reduce_keeps reduction regular)
  tensors := by
    rintro function v _ - ⟨rfl, regular⟩
    exact .inField (Value.applyTensor_keeps function regular)
  power := by
    rintro v _ w _ ⟨rfl, -⟩ ⟨rfl, -⟩ - - -
    exact .inField (v.pow_keeps w)
  maximum := by
    rintro v _ w _ ⟨rfl, left⟩ ⟨rfl, right⟩ - same -
    exact .inField (Value.Promises.keeps (Value.maximum_regular left right same))
  minimum := by
    rintro v _ w _ ⟨rfl, left⟩ ⟨rfl, right⟩ - same -
    exact .inField (Value.Promises.keeps (Value.minimum_regular left right same))
  build := by
    rintro kind location components components' alike - - -
    obtain rfl : components = components' :=
      List.forall₂_eq_eq_eq ▸ alike.imp fun _ _ both => both.1
    exact .inField (Value.build_keeps kind components)
  table := by
    rintro v _ f ⟨rfl, -⟩ -
    exact .same .scalar

theorem calculus (mesh : Mesh α) :
    mesh.Agreement (Value.Both Value.Regular) (.strict fun _ => True) where
  cells _ _ := .same .scalar
  positions _ := .same .vector
  areas := .same .vector
  areaSizes := .same .scalar
  internal := .same .logical
  masks _ _ := .same .logical
  expand := by
    rintro v _ location ⟨rfl, regular⟩
    exact .same (regular.broadcastTo location _)
  extremumPosition := by
    rintro largest location v _ ⟨rfl, -⟩ - -
    exact .inField (v.extremumPosition_keeps largest _)
  grad := by
    rintro v _ ⟨rfl, -⟩ -
    exact .inField Mesh.grad_keeps
  div := by
    rintro v _ ⟨rfl, regular⟩ -
    exact .inField (Mesh.div_keeps regular)
  curl := by
    rintro v _ ⟨rfl, -⟩ -
    exact .inField Mesh.curl_keeps
  snGrad := by
    rintro v _ ⟨rfl, regular⟩ -
    exact .inField (Value.Promises.keeps (Mesh.snGrad_regular regular))
  laplacian := by
    rintro v _ ⟨rfl, regular⟩ -
    exact .inField (Value.Promises.keeps (Mesh.laplacian_regular none regular))
  scaled := by
    rintro d _ v _ ⟨rfl, factor⟩ - number ⟨rfl, regular⟩ -
    refine .both (.bind (.mapError (Mesh.laplacian_regular none regular)) fun plain made => ?_)
    refine .bind (.mapError (Value.mul_regular factor.untagged made.1 number)) fun product made => ?_
    exact .ok made.1.untagged
  varied := by
    rintro d _ v _ ⟨rfl, -⟩ - ⟨rfl, regular⟩ -
    exact .inField (Value.Promises.keeps (Mesh.laplacian_regular (some d) regular))
  interpolate := by
    rintro v _ ⟨rfl, regular⟩ -
    exact .inField (Value.Promises.keeps (Mesh.interpolate_regular regular))
  interpolateToPoint := by
    rintro v _ ⟨rfl, regular⟩ -
    exact .inField (Mesh.interpolateToPoint_keeps regular)
  interpolateToCell := by
    rintro v _ ⟨rfl, regular⟩ -
    exact .inField (Mesh.interpolateToCell_keeps regular)
  faceAverage := by
    rintro v _ ⟨rfl, regular⟩ -
    exact .inField (Mesh.faceAverage_keeps regular)
  surfaceIntegrate := by
    rintro v _ ⟨rfl, regular⟩ -
    exact .inField (Value.Promises.keeps (Mesh.surfaceIntegrate_regular regular))
  surfaceSum := by
    rintro v _ ⟨rfl, regular⟩ -
    exact .inField (Mesh.surfaceSum_keeps regular)
  reconstruct := by
    rintro v _ ⟨rfl, -⟩ -
    exact .inField (Mesh.reconstruct_keeps v)
  magSqrGradGrad := by
    rintro v _ ⟨rfl, -⟩ -
    exact .inField Mesh.magSqrGradGrad_keeps
  flux := by
    rintro flow _ v _ ⟨rfl, -⟩ - ⟨rfl, regular⟩ -
    exact .inField (Value.Promises.keeps (Mesh.flux_regular flow regular))
  divFlux := by
    rintro flow _ v _ ⟨rfl, -⟩ - ⟨rfl, regular⟩ -
    exact .inField (Mesh.divFlux_keeps flow regular)

theorem preserves (holds : env.Regular) {start : Cursor}
    (steady : env.registry.Omits start ["ddt", "d2dt2"]) :
    env.Preserves start Value.Regular fun _ => True where
  algebra := algebra
  calculus := calculus env.mesh
  mesh := rfl
  options := rfl
  registry := rfl
  tables := rfl
  time := rfl
  timeStep := rfl
  names name := .both (env.lookup_meets holds.bindings holds.repository.region name)
  past _ name := .both (env.history_meets holds.bindings holds.repository.region name 1)
  rates called := absurd called (steady "ddt" (by simp))
  secondRates called := absurd called (steady "d2dt2" (by simp))
  flow := .same holds.flow
  meshes name := by
    cases stored : env.repository.foreign.get? name with
    | none => exact .none
    | some region =>
      exact .some fun function field old _ => .both <|
        holds.applyForeign (holds.repository.foreign name region stored) function field old
  plugins name plugin found := (holds.plugins name plugin found).agrees

end Environment.Regular

theorem Plugin.library_regular {name : String} {plugin : Plugin α}
    (found : library.get? name = some plugin) : plugin.Keeps Value.Regular fun _ => True := by
  refine library_keeps (fun _ _ _ => trivial) (fun _ _ _ _ => trivial) ?_ ?_ found
  · exact fun _ _ _ _ => .scalar
  · exact fun _ _ _ _ => .logical

namespace Session

/-- In exact arithmetic, whatever a session over values that keep the promises of their kinds makes
of a text without derivatives in time keeps them. -/
theorem tensor_kinds (session : Session α) (regular : session.environment.Regular) :
    session.Delivers ["ddt", "d2dt2"] Value.Regular fun _ => True := by
  refine delivers (fun bindings all start steady => ?_) regular.bindings
  have changed : { session.environment with bindings }.Regular :=
    { repository := regular.repository, bindings := all, plugins := regular.plugins }
  exact changed.preserves steady

def strained : Session Rat :=
  ofRepository { Repository.ofMesh Mesh.tetrahedron with
    fields := (OrderedMap.empty.insert "stress"
      (.symmTensor .volume [⟨2, 1, 0, 1, 3, 5, 0, 5, 4⟩])).insert "pressure"
      (.sphericalTensor .volume [7]) }

theorem strained_regular : strained.environment.Regular := by
  have fields : ∀ name v, strained.repository.fields.get? name = some v → v.Regular := by
    refine OrderedMap.forall_insert (OrderedMap.forall_insert OrderedMap.forall_empty ?_) ?_
    · exact .symmTensor .volume _
    · exact .sphericalTensor .volume _
  have still : strained.repository.meshPhi = none := rfl
  exact {
    repository := {
      region := ⟨fields, OrderedMap.forall_empty⟩
      foreign := OrderedMap.forall_empty
      meshPhi := fun flow moving => absurd (still.symm.trans moving) nofun }
    bindings := OrderedMap.forall_empty
    plugins := fun _ _ => Plugin.library_regular }

/-- The deviator of an inverse, and a factor that a plugin answers with. -/
theorem tensor_kinds_strained :
    let text := "dev(inv(stress)) * clamp(tr(pressure), 0, 1)".toList
    strained.environment.Regular ∧ strained.registry.Omits (.ofText text) ["ddt", "d2dt2"] ∧
      (strained.evaluate text).1.result.map Value.kind = some .symmTensor ∧
      strained.Delivers ["ddt", "d2dt2"] Value.Regular fun _ => True := by
  refine ⟨strained_regular, .of_absent (by decide +kernel), by decide +kernel, ?_⟩
  exact tensor_kinds _ strained_regular

end Session

end MeshLang
