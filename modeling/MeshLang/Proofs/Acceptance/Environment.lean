import MeshLang.Proofs.Acceptance.Mesh
import MeshLang.Proofs.Lockstep.Invariants
import MeshLang.Proofs.TypeSoundness

namespace MeshLang

variable {α : Type}

/-- Failures that leave out refusals at most. -/
structure EvalError.Lenient (E : EvalError α → Prop) : Prop where
  plain : ∀ error, error.IsPlain → E error
  fields : ∀ error : FieldError α, ¬ error.IsRefusal → E (.field error)

theorem checkLocations_ok {symbol : String} {v w : Value α} {place : Token}
    (passed : checkLocations symbol v w place = .ok ()) : v.Together w :=
  (checkLocations_together symbol v w place).of_ok passed

theorem Value.constant_together {v : Value α} (constant : v.isConstant = true) (w : Value α) :
    v.Together w := by
  have nowhere : v.location = none := by simpa [isConstant] using constant
  intro here there atLeft _
  cases nowhere.symm.trans atLeft

theorem Region.resolveAs_typed (region : Region α) (name : String) (expected : ValueType) :
    Meets (fun v => v.type? = some expected) (fun _ => True) (region.resolveAs name expected) := by
  refine .bind .any fun v _ => ?_
  split
  · rename_i found typed
    split
    · rename_i same
      exact .ok (same ▸ typed)
    · exact .error trivial
  · exact .error trivial

variable [Scalar α]

/-- The functions that look at old values. These may have been stored at another location or with
another kind, so what is said of refusals leaves them out. -/
def Builtin.retrospective : List String := ["ddt", "d2dt2", "oldTime"]

namespace Environment.Sound

variable {mesh : Mesh α} {E : EvalError α → Prop}

theorem algebra_agrees (lenient : EvalError.Lenient E) (proper : mesh.Proper) :
    Value.Agreement (Value.Both fun v : Value α => v.Fits mesh) (.strict E) where
  plain := lenient.plain
  alike := by
    rintro v _ ⟨rfl, -⟩
    exact ⟨rfl, rfl⟩
  numbers _ := .same ⟨rfl, rfl⟩
  truths _ := .same ⟨rfl, rfl⟩
  identity := .same ⟨rfl, rfl⟩
  untagged := by
    rintro v _ ⟨rfl, fits⟩
    exact .same fits.untagged
  signs := by
    rintro op v _ kind legal ⟨rfl, fits⟩
    exact .relabelled ((UnaryOp.apply_meets legal fits).widen lenient.fields)
  operators := by
    rintro op v _ w _ kind legal together ⟨rfl, left⟩ ⟨rfl, right⟩
    exact .relabelled ((BinaryOp.apply_meets legal left right together).widen lenient.fields)
  choices := by
    rintro c _ v _ w _ kind legal first together second ⟨rfl, test⟩ ⟨rfl, left⟩ ⟨rfl, right⟩
    exact .relabelled <|
      (Value.select_meets legal test left right first together second).widen lenient.fields
  components := by
    rintro v _ name ⟨rfl, fits⟩
    cases found : v.component? name with
    | none => exact .none
    | some component => exact .some (.same (Value.component?_fits found fits))
  elementary := by
    rintro function v _ ⟨rfl, fits⟩ scalar
    exact .inField <| ((Value.applyScalar_fits function fits).within
      (Value.applyScalar_accepts function (fits.number scalar))).widen lenient.fields
  magnitude := by
    rintro v _ ⟨rfl, fits⟩
    exact .same (Value.magnitude_fits fits)
  magnitudeSquared := by
    rintro v _ ⟨rfl, fits⟩
    exact .same (Value.magnitudeSquared_fits fits)
  square := by
    rintro v _ ⟨rfl, fits⟩ kind
    have apart : v.data.shape ≠ .matrix := by
      rw [fits.shape]
      rcases List.mem_pair.mp kind with same | same <;> rw [same] <;> decide
    exact .inField <|
      ((Value.square_fits fits).within (Value.square_accepts apart)).widen lenient.fields
  reduce := by
    rintro reduction v _ ⟨rfl, fits⟩ -
    exact .inField <| ((Value.reduce_fits reduction fits).within
      (Value.reduce_accepts proper fits reduction)).widen lenient.fields
  tensors := by
    rintro function v _ matrix ⟨rfl, fits⟩
    have shape : v.data.shape = .matrix := by
      rw [fits.shape]
      cases held : v.kind <;> rw [held] at matrix <;> first | rfl | cases matrix
    exact .inField <| ((Value.applyTensor_fits function fits).within
      (Value.applyTensor_accepts function shape)).widen lenient.fields
  power := by
    rintro v _ w _ ⟨rfl, left⟩ ⟨rfl, right⟩ base exponent together
    exact .inField <| ((Value.Made.fits (Value.pow_made left right)).within (Value.pow_accepts left right
      together (left.number base) (right.number exponent))).widen lenient.fields
  maximum := by
    rintro v _ w _ ⟨rfl, left⟩ ⟨rfl, right⟩ - same together
    have shape : v.data.shape = w.data.shape := by rw [left.shape, right.shape, same]
    exact .inField <| ((Value.Made.fits (Value.maximum_made left right)).within
      (Value.maximum_accepts left right together shape)).widen lenient.fields
  minimum := by
    rintro v _ w _ ⟨rfl, left⟩ ⟨rfl, right⟩ - same together
    have shape : v.data.shape = w.data.shape := by rw [left.shape, right.shape, same]
    exact .inField <| ((Value.Made.fits (Value.minimum_made left right)).within
      (Value.minimum_accepts left right together shape)).widen lenient.fields
  build := by
    rintro kind location components components' alike scalar filled count
    obtain rfl : components = components' :=
      List.forall₂_eq_eq_eq ▸ alike.imp fun _ _ both => both.1
    have fits : ∀ v ∈ components, v.Fits mesh := fun v member =>
      (List.forall₂_same.mp alike v member).2
    have taken : ∀ v ∈ components, v.IsComponent mesh location := fun v member =>
      ⟨fits v member, (scalar v member).1, (scalar v member).2⟩
    exact .inField <| ((Value.build_fits proper kind fits fun v member => (scalar v member).2).within
      (Value.build_accepts taken filled count)).widen lenient.fields
  table := by
    rintro v _ f ⟨rfl, fits⟩ scalar
    have number : v.kind.shape = .number := scalar ▸ rfl
    exact .same (.of_shape rfl ((List.length_map _).trans (fits.scalars_length number)))

theorem calculus_agrees (lenient : EvalError.Lenient E) (proper : mesh.Proper) :
    mesh.Agreement (Value.Both fun v : Value α => v.Fits mesh) (.strict E) where
  cells _ length := .same (.of_shape rfl length)
  positions location := .same (mesh.positions_fits location)
  areas := .same (.of_shape rfl (List.length_map _))
  areaSizes := .same (.of_shape rfl mesh.areaSizes_length)
  internal := .same (.of_shape rfl ((List.length_map _).trans (List.length_map _)))
  masks location selected := .same (mask_fits mesh location selected)
  expand := by
    rintro v _ location ⟨rfl, fits⟩
    exact .same (fits.broadcastTo location)
  extremumPosition := by
    rintro largest location v _ ⟨rfl, fits⟩ located scalar
    exact .inField <| ((Value.extremumPosition_fits largest _).within
      (Value.extremumPosition_accepts proper fits located scalar largest)).widen lenient.fields
  grad := by
    rintro v _ ⟨rfl, fits⟩ placed
    exact .inField <| (Mesh.grad_fits.within (Mesh.grad_accepts fits placed)).widen lenient.fields
  div := by
    rintro v _ ⟨rfl, fits⟩ placed
    exact .inField <|
      ((Mesh.div_fits fits.shape).within (Mesh.div_accepts fits placed)).widen lenient.fields
  curl := by
    rintro v _ ⟨rfl, fits⟩ placed
    exact .inField <| (Mesh.curl_fits.within (Mesh.curl_accepts fits placed)).widen lenient.fields
  snGrad := by
    rintro v _ ⟨rfl, fits⟩ placed
    exact .inField <|
      ((Mesh.snGrad_fits fits.shape).within (Mesh.snGrad_accepts fits placed)).widen lenient.fields
  laplacian := by
    rintro v _ ⟨rfl, fits⟩ placed
    exact .inField <| ((Mesh.laplacian_fits none fits.shape).within
      (Mesh.laplacian_accepts fits (.ok trivial) placed)).widen lenient.fields
  scaled := by
    rintro d _ v _ ⟨rfl, factor⟩ constant scalar ⟨rfl, fits⟩ placed
    have plain := (Mesh.laplacian_fits none fits.shape).within
      (Mesh.laplacian_accepts fits (.ok trivial) placed)
    refine .both (.bind (.mapError (plain.widen lenient.fields)) fun u made => ?_)
    have product := (Value.mul_made factor.untagged made).within (Value.mul_accepts factor.untagged
      made (Value.constant_together constant u) (.inl (factor.number scalar)))
    exact .bind (.mapError (product.widen lenient.fields)) fun _ made => .ok made.1.untagged
  varied := by
    rintro d _ v _ ⟨rfl, factor⟩ accepted ⟨rfl, fits⟩ placed
    exact .inField <| ((Mesh.laplacian_fits (some d) fits.shape).within (Mesh.laplacian_accepts fits
      (Mesh.faceDiffusivities_accepts factor accepted) placed)).widen lenient.fields
  interpolate := by
    rintro v _ ⟨rfl, fits⟩ placed
    exact .inField <| ((Mesh.interpolate_fits fits.shape).within
      (Mesh.interpolate_accepts fits placed)).widen lenient.fields
  interpolateToPoint := by
    rintro v _ ⟨rfl, fits⟩ placed
    exact .inField <| ((Mesh.interpolateToPoint_fits proper fits.shape).within
      (Mesh.interpolateToPoint_accepts fits placed)).widen lenient.fields
  interpolateToCell := by
    rintro v _ ⟨rfl, fits⟩ placed
    exact .inField <| ((Mesh.interpolateToCell_fits fits.shape).within
      (Mesh.interpolateToCell_accepts fits placed)).widen lenient.fields
  faceAverage := by
    rintro v _ ⟨rfl, fits⟩ placed
    exact .inField <| ((Mesh.faceAverage_fits fits.shape).within
      (Mesh.faceAverage_accepts fits placed)).widen lenient.fields
  surfaceIntegrate := by
    rintro v _ ⟨rfl, fits⟩ placed
    exact .inField <| ((Mesh.surfaceIntegrate_fits fits.shape).within
      (Mesh.surfaceIntegrate_accepts fits placed)).widen lenient.fields
  surfaceSum := by
    rintro v _ ⟨rfl, fits⟩ placed
    exact .inField <| ((Mesh.surfaceSum_fits fits.shape).within
      (Mesh.surfaceSum_accepts fits placed)).widen lenient.fields
  reconstruct := by
    rintro v _ ⟨rfl, fits⟩ placed
    exact .inField <|
      (Mesh.reconstruct_fits.within (Mesh.reconstruct_accepts fits placed)).widen lenient.fields
  magSqrGradGrad := by
    rintro v _ ⟨rfl, fits⟩ placed
    exact .inField <|
      (Mesh.magSqrGradGrad_fits.within (Mesh.magSqrGradGrad_accepts fits placed)).widen lenient.fields
  flux := by
    rintro flow _ v _ ⟨rfl, rates⟩ surface ⟨rfl, fits⟩ placed
    exact .inField <| ((Mesh.flux_meets rates surface fits placed).widen lenient.fields).weaken
      fun _ made => made.1
  divFlux := by
    rintro flow _ v _ ⟨rfl, rates⟩ surface ⟨rfl, fits⟩ placed
    have located := (Value.isAt_iff.mp surface).1
    exact .inField <| ((Mesh.divFlux_fits rates located fits.shape).within
      (Mesh.divFlux_accepts rates surface fits placed)).widen lenient.fields

variable {env : Environment α}

omit [Scalar α] in
theorem lookup_lenient (sound : env.Sound) (lenient : EvalError.Lenient E) (name : String) :
    Meets (fun v => v.Fits env.mesh) E (env.lookup name) := by
  refine (sound.lookup name).within ?_
  unfold Environment.lookup
  split
  · exact .ok trivial
  · exact .mapError (Meets.any.widen fun error _ => lenient.plain _ (EvalError.ofRepository_isPlain error))

theorem foreign_lenient (sound : env.Sound) (lenient : EvalError.Lenient E) {region : Region α}
    (stored : region.Sound) (function name : Token) :
    Meets (fun v => v.Fits env.mesh) E (env.applyForeign region function name false) := by
  refine (sound.applyForeign stored function name false).within ?_
  unfold Environment.applyForeign
  split
  · exact .error (lenient.plain _ trivial)
  · rename_i type _
    split
    · exact .error (lenient.plain _ trivial)
    · rename_i cells
      have found : Meets (fun v => v.Fits region.mesh ∧ v.location = some .volume) E
          ((region.resolveAs name.word type).mapError .ofRepository) := by
        have typed := (stored.resolveAs name.word type).and (region.resolveAs_typed name.word type)
        have plain (error : RepositoryError) := lenient.plain _ (EvalError.ofRepository_isPlain error)
        refine .mapError ((typed.widen fun error _ => plain error).weaken fun v both => ⟨both.1, ?_⟩)
        obtain ⟨location, located, same⟩ := Option.map_eq_some_iff.mp both.2
        rw [located, ← not_not.mp cells, ← same]
      refine .bind found fun v both => ?_
      have mapped := (Mesh.mapCells_accepts env.mesh env.options.order both.1 both.2).widen lenient.fields
      exact .bind (.mapError mapped) fun w _ => .ok trivial

/-- All that a sound environment offers to a text that looks at no old values hands on the property
to fit the mesh, and refuses nothing. -/
theorem preserves (sound : env.Sound) (lenient : EvalError.Lenient E) {start : Cursor}
    (omits : env.registry.Omits start Builtin.retrospective)
    (plugins : ∀ name plugin, env.registry.get? name = some plugin →
      plugin.Keeps (fun v => v.Fits env.mesh) E) :
    env.Preserves start (fun v => v.Fits env.mesh) E where
  algebra := algebra_agrees lenient sound.repository.proper
  calculus := calculus_agrees lenient sound.repository.proper
  mesh := rfl
  options := rfl
  registry := rfl
  tables := rfl
  time := rfl
  timeStep := rfl
  names name := .both (sound.lookup_lenient lenient name)
  past called := absurd called (omits "oldTime" (by decide))
  rates called := absurd called (omits "ddt" (by decide))
  secondRates called := absurd called (omits "d2dt2" (by decide))
  flow := .same sound.meshPhi
  meshes name := by
    cases stored : env.repository.foreign.get? name with
    | none => exact .none
    | some region =>
      refine .some fun function field old called => .both ?_
      cases old with
      | true => exact absurd (called rfl) (omits "oldTime" (by decide))
      | false =>
        exact sound.foreign_lenient lenient (sound.repository.foreign name region stored) function field
  plugins name plugin found := (plugins name plugin found).agrees

end Environment.Sound

end MeshLang
