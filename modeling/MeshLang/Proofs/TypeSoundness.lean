import MeshLang.Proofs.Evaluation.Functions
import MeshLang.Proofs.Evaluation.Sessions
import MeshLang.Proofs.Plugin.Library
import MeshLang.Proofs.Repository.Built
import MeshLang.Proofs.Value.Components
import MeshLang.Scalar.Double

namespace MeshLang

variable {α : Type} [Scalar α]

abbrev AnyError {ε : Type} : ε → Prop := fun _ => True

/-- What is asked of an environment: a repository that was built, and variables that fit its mesh. -/
structure Environment.Sound (env : Environment α) : Prop where
  repository : env.repository.Sound
  bindings : ∀ name v, env.bindings.get? name = some v → v.Fits env.mesh

namespace Environment.Sound

variable {env : Environment α}

omit [Scalar α] in
theorem adopt (_ : env.Sound) {v : Value α} {mesh : Mesh α} (fits : v.Fits mesh) :
    (env.options.adopt v).Fits mesh := by
  unfold Options.adopt
  split
  · exact fits
  · exact fits.untagged

omit [Scalar α] in
theorem lookup (sound : env.Sound) (name : String) :
    Meets (fun v => v.Fits env.mesh) AnyError (env.lookup name) :=
  env.lookup_meets sound.bindings sound.repository.region name

omit [Scalar α] in
theorem history (sound : env.Sound) (name : String) (level : Nat) :
    Meets (fun v => v.Fits env.mesh) AnyError (env.history name level) :=
  env.history_meets sound.bindings sound.repository.region name level

omit [Scalar α] in
theorem constant_fits {mesh : Mesh α} (x : α) : (Value.constantScalar x).Fits mesh := ⟨rfl, rfl⟩

theorem firstDerivative (sound : env.Sound) (name : String) {current : Value α}
    (fits : current.Fits env.mesh) :
    Meets (fun v => v.Fits env.mesh) AnyError (env.firstDerivative name current) := by
  apply Meets.bind (sound.history name 1)
  intro old before
  apply Meets.bind (.mapError (Value.sub_made fits before.untagged))
  intro change made
  apply Meets.bind (.mapError (Value.div_made made.1 (constant_fits _)))
  intro slope made
  exact .ok made.1.untagged

theorem secondDerivative (sound : env.Sound) (name : String) {current : Value α}
    (fits : current.Fits env.mesh) :
    Meets (fun v => v.Fits env.mesh) AnyError (env.secondDerivative name current) := by
  apply Meets.bind (sound.history name 1)
  intro old before
  apply Meets.bind (sound.history name 2)
  intro older long
  apply Meets.bind (.mapError (Value.mul_made (constant_fits _) before.untagged))
  intro twice made
  apply Meets.bind (.mapError (Value.sub_made fits made.1))
  intro change made
  apply Meets.bind (.mapError (Value.add_made made.1 long.untagged))
  intro change made
  apply Meets.bind (.mapError (Value.div_made made.1 (constant_fits _)))
  intro slope made
  exact .ok made.1.untagged

theorem timeDerivative (sound : env.Sound) (second : Bool) (name : Token) :
    Meets (fun v => v.Fits env.mesh) AnyError (env.timeDerivative second name) := by
  apply Meets.bind (sound.history name.word 0)
  intro current fits
  dsimp only
  split
  · exact .error trivial
  · split
    · exact sound.secondDerivative name.word fits.untagged
    · exact sound.firstDerivative name.word fits.untagged

theorem mask_fits (mesh : Mesh α) (location : Location) (selected : Nat → Bool) :
    (mesh.mask location selected).Fits mesh := by
  refine .of_shape rfl ((List.length_map _).trans ((List.length_map _).trans ?_))
  exact List.length_range

theorem meshPhi (sound : env.Sound) :
    (env.repository.meshPhi.getD
      (.zeros ⟨.scalar, .surface⟩ env.mesh.faces.length)).Fits env.mesh := by
  cases stored : env.repository.meshPhi with
  | none => exact .of_shape rfl List.length_replicate
  | some flow => exact sound.repository.meshPhi flow stored

theorem holds (sound : env.Sound) : env.Holds (fun v => v.Fits env.mesh) AnyError where
  past name := (sound.history name 1).weaken fun _ fits => sound.adopt fits
  rates := sound.timeDerivative
  numbers := constant_fits
  cells _ length := .of_shape rfl length
  positions := env.mesh.positions_fits
  areas := .of_shape rfl (List.length_map _)
  areaSizes := .of_shape rfl env.mesh.areaSizes_length
  internal := .of_shape rfl ((List.length_map _).trans (List.length_map _))
  masks := mask_fits env.mesh
  flow := sound.meshPhi

theorem algebra {mesh : Mesh α} (proper : mesh.Proper) : Algebra (fun v => v.Fits mesh) AnyError where
  elementary function _ fits _ := Value.applyScalar_fits function fits
  magnitude _ fits := Value.magnitude_fits fits
  magnitudeSquared _ fits := Value.magnitudeSquared_fits fits
  square _ fits _ := Value.square_fits fits
  reduce reduction _ fits _ := Value.reduce_fits reduction fits
  tensor function _ fits _ := Value.applyTensor_fits function fits
  power _ _ first second _ _ := Value.Made.fits (Value.pow_made first second)
  maximum _ _ first second _ _ := Value.Made.fits (Value.maximum_made first second)
  minimum _ _ first second _ _ := Value.Made.fits (Value.minimum_made first second)
  build kind _ _ fits suits := Value.build_fits proper kind fits suits
  table v f fits scalar := by
    have number : v.kind.shape = .number := by rw [scalar]; rfl
    exact .of_shape rfl ((List.length_map _).trans (fits.scalars_length number))

theorem calculus {mesh : Mesh α} (proper : mesh.Proper) :
    mesh.Calculus (fun v => v.Fits mesh) AnyError where
  expand _ location fits := fits.broadcastTo location
  extremumPosition _ _ _ _ _ := Value.extremumPosition_fits _ _
  grad _ _ _ := Mesh.grad_fits
  div _ fits _ := Mesh.div_fits fits.shape
  curl _ _ _ := Mesh.curl_fits
  snGrad _ fits _ := Mesh.snGrad_fits fits.shape
  laplacian _ fits _ := Mesh.laplacian_fits none fits.shape
  scaled d v factor _ _ fits _ := by
    apply Meets.bind (.mapError (Mesh.laplacian_fits none fits.shape))
    intro plain made
    apply Meets.bind (.mapError (Value.mul_made factor.untagged made))
    intro scaled made
    exact .ok made.1.untagged
  varied d _ _ _ fits _ := Mesh.laplacian_fits (some d) fits.shape
  interpolate _ fits _ := Mesh.interpolate_fits fits.shape
  interpolateToPoint _ fits _ := Mesh.interpolateToPoint_fits proper fits.shape
  interpolateToCell _ fits _ := Mesh.interpolateToCell_fits fits.shape
  faceAverage _ fits _ := Mesh.faceAverage_fits fits.shape
  surfaceIntegrate _ fits _ := Mesh.surfaceIntegrate_fits fits.shape
  surfaceSum _ fits _ := Mesh.surfaceSum_fits fits.shape
  reconstruct _ _ _ := Mesh.reconstruct_fits
  magSqrGradGrad _ _ _ := Mesh.magSqrGradGrad_fits
  flux _ _ flow surface fits _ := Mesh.flux_fits flow (Value.isAt_iff.mp surface).1 fits.shape
  divFlux _ _ flow surface fits _ := Mesh.divFlux_fits flow (Value.isAt_iff.mp surface).1 fits.shape

theorem computes (sound : env.Sound) : env.Computes (fun v => v.Fits env.mesh) AnyError where
  plain _ _ := trivial
  holds := sound.holds
  algebra := algebra sound.repository.proper
  calculus := calculus sound.repository.proper

theorem applyForeign (sound : env.Sound) {region : Region α} (stored : region.Sound)
    (function name : Token) (old : Bool) :
    Meets (fun v => v.Fits env.mesh) AnyError (env.applyForeign region function name old) :=
  env.applyForeign_meets stored function name old fun _ fits =>
    (Mesh.mapCells_fits fits.shape).weaken fun _ mapped => sound.adopt mapped

theorem closed (sound : env.Sound)
    (plugins : ∀ name plugin, env.registry.get? name = some plugin →
      plugin.Keeps (fun v => v.Fits env.mesh) AnyError) :
    env.Closed (fun v => v.Fits env.mesh) AnyError where
  plain _ _ := trivial
  numbers := constant_fits
  truths _ := ⟨rfl, rfl⟩
  identity := ⟨rfl, rfl⟩
  cells _ length := .of_shape rfl length
  expand _ location fits := fits.broadcastTo location
  adopt _ fits := sound.adopt fits
  names name := (sound.lookup name).weaken fun _ fits => sound.adopt fits
  signs _ _ _ legal fits := UnaryOp.apply_fits legal fits
  operators _ _ _ _ legal left right := BinaryOp.apply_fits legal left right
  choices _ _ _ _ legal condition left right := Value.select_fits legal condition left right
  components _ _ _ found fits := Value.component?_fits found fits
  tensors function _ _ fits := Value.applyTensor_fits function fits
  named := sound.computes.applyNamed
  functions builtin function _ fits := sound.computes.apply builtin function fits
  tables _ table function _ _ fits := sound.computes.applyTable table function fits
  meshes region function field old _ _ _ _ stored :=
    sound.applyForeign (sound.repository.foreign function.word region stored) function field old
  plugins := plugins

end Environment.Sound

theorem Plugin.library_keeps_fits {mesh : Mesh α} {E : EvalError α → Prop}
    (plain : ∀ error : PluginError α, error.IsPlain → Named E error)
    (contains : ∀ offset error, E error → Named E (.argument offset error)) {name : String}
    {plugin : Plugin α} (found : library.get? name = some plugin) :
    plugin.Keeps (fun v => v.Fits mesh) E := by
  have number {kind : Kind} (scalar : kind = .scalar) : kind.shape = .number := scalar ▸ rfl
  refine library_keeps plain contains ?_ ?_ found
  · intro v fits scalar f
    exact .of_shape rfl ((List.length_map _).trans (fits.scalars_length (number scalar)))
  · intro v fits scalar f
    exact .of_shape rfl ((List.length_map _).trans (fits.scalars_length (number scalar)))

theorem Plugin.library_fits {mesh : Mesh α} {name : String} {plugin : Plugin α}
    (found : library.get? name = some plugin) : plugin.Keeps (fun v => v.Fits mesh) AnyError :=
  library_keeps_fits (fun _ _ _ => trivial) (fun _ _ _ _ => trivial) found

namespace Session

/-- What type soundness says of a session, entry point by entry point. -/
structure TypeSound (session : Session α) : Prop where
  reductions : ∀ v, session.environment.Produces v → v.Fits session.repository.mesh
  whole : ∀ text v, (session.evaluate text).2 = .ok v →
    v.Fits session.repository.mesh ∧ v.location.isSome
  start : ∀ text v, (session.evaluateStart text).2 = .ok v →
    v.Fits session.repository.mesh ∧ v.location.isSome
  typed : ∀ text type v, (session.evaluateAs text type).2 = .ok v →
    v.Fits session.repository.mesh ∧ v.location.isSome ∧
      (session.evaluateAs text type).1.resultType? = some type
  logical : ∀ text location v, (session.evaluateLogical text location).2 = .ok v →
    v.Fits session.repository.mesh ∧ v.location.isSome ∧
      (session.evaluateLogical text location).1.resultType? = some ⟨.logical, location⟩
  argument : ∀ text start expected v stop, (session.argument text start expected).2 = .ok (v, stop) →
    v.Fits session.repository.mesh
  bindings : ∀ text name v, (session.assign text).1.bindings.get? name = some v →
    v.Fits session.repository.mesh

/-- A session over a repository that was built, with variables that fit its mesh and plugins that
answer with values that fit it: whatever it evaluates fits the mesh, results are located, and a
result that had to have a type has it. -/
theorem type_soundness (session : Session α) (built : session.repository.Built)
    (bindings : ∀ name v, session.bindings.get? name = some v → v.Fits session.repository.mesh)
    (plugins : ∀ name plugin, session.registry.get? name = some plugin →
      plugin.Keeps (fun v => v.Fits session.repository.mesh) AnyError) : session.TypeSound := by
  have closed (bindings : OrderedMap String (Value α))
      (fit : ∀ name v, bindings.get? name = some v → v.Fits session.repository.mesh) :
      { session.environment with bindings }.Closed (fun v => v.Fits session.repository.mesh) AnyError :=
    Environment.Sound.closed ⟨built.sound, fit⟩ plugins
  have accepted (text : List Char) (expected : Option ValueType) (whole : Bool) :=
    accept_meets (closed _ bindings) text expected whole
  have typed (text : List Char) (type : ValueType) (v : Value α)
      (answer : (session.accept text (some type) true).2 = .ok v) :
      v.Fits session.repository.mesh ∧ v.location.isSome ∧
        (session.accept text (some type) true).1.resultType? = some type := by
    obtain ⟨fits, located, conforms⟩ := (accepted text (some type) true).of_ok answer
    refine ⟨fits, located, ?_⟩
    rw [resultType?, accept_result answer]
    exact conforms type rfl
  refine ⟨?_, ?_, ?_, typed, fun text location => typed text ⟨.logical, location⟩, ?_, ?_⟩
  · intro v produced
    exact produced.holds (closed _ bindings)
  · intro text v answer
    have delivered := (accepted text none true).of_ok answer
    exact ⟨delivered.1, delivered.2.1⟩
  · intro text v answer
    have delivered := (accepted text none false).of_ok answer
    exact ⟨delivered.1, delivered.2.1⟩
  · intro text start expected v stop answer
    exact ((argument_meets (closed _ bindings) text start expected).of_ok answer).1
  · intro text
    exact (assignFrom_meets closed (fun _ _ _ all fits => OrderedMap.forall_insert all fits)
      (text.length + 1) bindings (.ofText text)).1

def tetrahedron : Session Float :=
  (ofRepository { Repository.ofMesh Mesh.tetrahedron with
    fields := OrderedMap.empty.insert "p" (.scalar .volume [Scalar.one]) }).setVariable "two"
      (.constantScalar (Scalar.ofNat 2))

theorem tetrahedron_built : tetrahedron.repository.Built := by
  have cells : (Mesh.tetrahedron : Mesh Float).cells.length = 1 := rfl
  have empty : (Repository.ofMesh (Mesh.tetrahedron : Mesh Float)).Built :=
    .ofMesh Mesh.tetrahedron_built (cells ▸ Nat.one_pos)
  have inserted : (Repository.ofMesh (Mesh.tetrahedron : Mesh Float)).insert "p"
      (.scalar .volume [Scalar.one]) = .ok tetrahedron.repository := rfl
  exact .insert empty rfl inserted

theorem type_soundness_tetrahedron :
    tetrahedron.repository.Built ∧ (tetrahedron.evaluate "p + clamp(two, 0, 1)".toList).2.isOk = true ∧
      tetrahedron.TypeSound := by
  refine ⟨tetrahedron_built, by decide +kernel, type_soundness tetrahedron tetrahedron_built ?_ ?_⟩
  · exact OrderedMap.forall_insert OrderedMap.forall_empty ⟨rfl, rfl⟩
  · exact fun _ _ found => Plugin.library_fits found

end Session

end MeshLang
