import MeshLang.Proofs.Lockstep.Library
import MeshLang.Proofs.Lockstep.Sessions
import MeshLang.Proofs.Regard.Mesh

namespace MeshLang

variable {α : Type}

def Regard.failures (regard : Regard) : Tolerance (EvalError α) :=
  ⟨fun _ => True, EvalError.Contains regard.Excuses⟩

structure Region.Alike (regard : Regard) (region region' : Region α) : Prop where
  mesh : region.mesh = region'.mesh
  fields : ∀ name,
    Option.Rel (Value.Alike regard) (region.fields.get? name) (region'.fields.get? name)
  history : ∀ name, Option.Rel (List.Forall₂ (Value.Alike regard)) (region.history.get? name)
    (region'.history.get? name)

structure Repository.Alike (regard : Regard) (r r' : Repository α) : Prop
    extends region : r.toRegion.Alike regard r'.toRegion where
  tables : r.tables = r'.tables
  foreign : ∀ name, Option.Rel (Region.Alike regard) (r.foreign.get? name) (r'.foreign.get? name)
  time : r.time = r'.time
  timeStep : r.timeStep = r'.timeStep
  meshPhi : Option.Rel (Value.Alike regard) r.meshPhi r'.meshPhi

def Bindings.Alike (regard : Regard) (bindings bindings' : OrderedMap String (Value α)) : Prop :=
  ∀ name, Option.Rel (Value.Alike regard) (bindings.get? name) (bindings'.get? name)

/-- Sessions that differ at most in what is not compared of stored values and variables. -/
structure Session.Alike (regard : Regard) (session session' : Session α) : Prop where
  repository : session.repository.Alike regard session'.repository
  registry : session.registry = session'.registry
  options : session.options = session'.options
  bindings : Bindings.Alike regard session.bindings session'.bindings
  inStep : session.InStep session'

namespace Regard

variable {β : Type} {Q : β → β → Prop} {regard : Regard}

theorem inField {result other : Except (FieldError α) β}
    (agree : Agree Q regard.tolerance result other) :
    Agree Q (regard.failures.comap .field) result other :=
  agree.widen (fun _ _ => trivial) fun _ excused => .field excused

theorem ofField {result other : Except (FieldError α) β}
    (agree : Agree Q regard.tolerance result other) :
    Agree Q regard.failures (MeshLang.ofField result) (MeshLang.ofField other) :=
  .mapError (inField agree)

theorem relabelled {kind : Kind} {result other : Except (FieldError α) (Value α)}
    (agree : regard.Results result other) :
    Agree (fun v w => (v.relabel kind).Alike regard (w.relabel kind)) (regard.failures.comap .field)
      result other :=
  (inField agree).weaken fun _ _ alike => alike.relabel kind

theorem ofRepository {result other : Except RepositoryError β}
    (agree : Agree Q (.strict fun _ => True) result other) :
    Agree Q regard.failures (result.mapError (.ofRepository : RepositoryError → EvalError α))
      (other.mapError .ofRepository) :=
  .mapError (agree.widen (fun _ _ => trivial) fun _ never => never.elim)

end Regard

namespace Region.Alike

variable {regard : Regard} {region region' : Region α}

theorem resolve (alike : region.Alike regard region') (name : String) :
    Agree (Value.Alike regard) (.strict fun _ => True) (region.resolve name)
      (region'.resolve name) := by
  have stored := alike.fields name
  unfold Region.resolve
  generalize region.fields.get? name = found at stored ⊢
  generalize region'.fields.get? name = found' at stored ⊢
  cases stored with
  | some values => exact .ok values
  | none => exact .error trivial

theorem classify (alike : region.Alike regard region') (name : String) :
    region.classify name = region'.classify name := by
  have stored := alike.fields name
  unfold Region.classify
  generalize region.fields.get? name = found at stored ⊢
  generalize region'.fields.get? name = found' at stored ⊢
  cases stored with
  | some values => simp only [Option.bind_some, Value.type?, values.kind, values.location]
  | none => rfl

theorem resolveAs (alike : region.Alike regard region') (name : String) (expected : ValueType) :
    Agree (Value.Alike regard) (.strict fun _ => True) (region.resolveAs name expected)
      (region'.resolveAs name expected) := by
  refine .bind (alike.resolve name) fun v w values => ?_
  have type : v.type? = w.type? := by
    unfold Value.type?
    rw [values.kind, values.location]
  rw [type]
  split
  · split
    · exact .ok values
    · exact .error trivial
  · exact .error trivial

theorem resolveOld (alike : region.Alike regard region') (name : String) (level : Nat) :
    Agree (Value.Alike regard) (.strict fun _ => True) (region.resolveOld name level)
      (region'.resolveOld name level) := by
  have levels : List.Forall₂ (Value.Alike regard) ((region.history.get? name).getD [])
      ((region'.history.get? name).getD []) := by
    have stored := alike.history name
    generalize region.history.get? name = found at stored ⊢
    generalize region'.history.get? name = found' at stored ⊢
    cases stored with
    | some steps => exact steps
    | none => exact .nil
  unfold Region.resolveOld
  generalize (region.history.get? name).getD [] = steps at levels ⊢
  generalize (region'.history.get? name).getD [] = steps' at levels ⊢
  dsimp only
  split
  · exact alike.resolve name
  · rw [levels.length_eq]
    generalize min (level - 1) (steps'.length - 1) = index
    by_cases stored : index < steps'.length
    · have here : index < steps.length := levels.length_eq ▸ stored
      rw [List.getElem?_eq_getElem stored, List.getElem?_eq_getElem here]
      exact .ok (levels.get here stored)
    · have beyond : steps'.length ≤ index := Nat.le_of_not_lt stored
      rw [List.getElem?_eq_none beyond, List.getElem?_eq_none (levels.length_eq ▸ beyond)]
      exact alike.resolve name

end Region.Alike

namespace Session.Alike

variable {regard : Regard} {session session' : Session α}

theorem lookup (alike : session.Alike regard session') (name : String) :
    Agree (Value.Alike regard) regard.failures (session.environment.lookup name)
      (session'.environment.lookup name) := by
  have bound : Option.Rel (Value.Alike regard) (session.environment.bindings.get? name)
    (session'.environment.bindings.get? name) := alike.bindings name
  unfold Environment.lookup
  generalize session.environment.bindings.get? name = found at bound ⊢
  generalize session'.environment.bindings.get? name = found' at bound ⊢
  cases bound with
  | some values => exact .ok values
  | none => exact Regard.ofRepository (alike.repository.region.resolve name)

theorem history (alike : session.Alike regard session') (name : String) (level : Nat) :
    Agree (Value.Alike regard) regard.failures (session.environment.history name level)
      (session'.environment.history name level) := by
  have bound : Option.Rel (Value.Alike regard) (session.environment.bindings.get? name)
    (session'.environment.bindings.get? name) := alike.bindings name
  unfold Environment.history
  generalize session.environment.bindings.get? name = found at bound ⊢
  generalize session'.environment.bindings.get? name = found' at bound ⊢
  cases bound with
  | some values => exact .ok values
  | none => exact Regard.ofRepository (alike.repository.region.resolveOld name level)

variable [Scalar α]

theorem firstDerivative (alike : session.Alike regard session') (name : String) {v w : Value α}
    (current : v.Alike regard w) :
    Agree (Value.Alike regard) regard.failures (session.environment.firstDerivative name v)
      (session'.environment.firstDerivative name w) := by
  have step : session'.environment.repository.timeStep = session.environment.repository.timeStep :=
    alike.repository.timeStep.symm
  unfold Environment.firstDerivative
  rw [step]
  refine .bind (alike.history name 1) fun old old' past => ?_
  refine .bind (Regard.ofField (Regard.sub_agree current past.untagged)) fun _ _ change => ?_
  exact .bind (Regard.ofField (Regard.div_agree change (.plain rfl))) fun _ _ slope => .ok slope.untagged

theorem secondDerivative (alike : session.Alike regard session') (name : String) {v w : Value α}
    (current : v.Alike regard w) :
    Agree (Value.Alike regard) regard.failures (session.environment.secondDerivative name v)
      (session'.environment.secondDerivative name w) := by
  have step : session'.environment.repository.timeStep = session.environment.repository.timeStep :=
    alike.repository.timeStep.symm
  unfold Environment.secondDerivative
  rw [step]
  refine .bind (alike.history name 1) fun old old' past => ?_
  refine .bind (alike.history name 2) fun older older' before => ?_
  refine .bind (Regard.ofField (Regard.mul_agree (.plain rfl) past.untagged)) fun _ _ twice => ?_
  refine .bind (Regard.ofField (Regard.sub_agree current twice)) fun _ _ change => ?_
  refine .bind (Regard.ofField (Regard.add_agree change before.untagged)) fun _ _ change => ?_
  exact .bind (Regard.ofField (Regard.div_agree change (.plain rfl))) fun _ _ slope => .ok slope.untagged

theorem timeDerivative (alike : session.Alike regard session') (second : Bool) (name : Token) :
    Agree (Value.Alike regard) regard.failures (session.environment.timeDerivative second name)
      (session'.environment.timeDerivative second name) := by
  refine .bind (alike.history name.word 0) fun v w current => ?_
  have kind : v.untagged.kind = w.untagged.kind := current.kind
  have described : v.untagged.describe = w.untagged.describe :=
    Value.describe_congr kind current.location
  dsimp only
  rw [kind, described]
  split
  · exact .error trivial
  · split
    · exact alike.secondDerivative name.word current.untagged
    · exact alike.firstDerivative name.word current.untagged

omit [Scalar α] in
theorem adopt (alike : session.Alike regard session') {v w : Value α} (values : v.Alike regard w) :
    (session.environment.options.adopt v).Alike regard (session'.environment.options.adopt w) := by
  have options : session'.environment.options = session.environment.options := alike.options.symm
  unfold Options.adopt
  rw [options]
  split
  · exact values
  · exact values.untagged

theorem applyForeign (alike : session.Alike regard session') {region region' : Region α}
    (other : region.Alike regard region') (function field : Token) (old : Bool) :
    Agree (Value.Alike regard) regard.failures
      (session.environment.applyForeign region function field old)
      (session'.environment.applyForeign region' function field old) := by
  have target : session'.environment.mesh = session.environment.mesh := alike.repository.mesh.symm
  have options : session'.environment.options = session.environment.options := alike.options.symm
  unfold Environment.applyForeign
  rw [other.classify, target, options, ← other.mesh]
  split
  · exact .error trivial
  · rename_i type _
    split
    · exact .error trivial
    · have found : Agree (Value.Alike regard) (.strict fun _ => True)
          (if old then region.resolveOld field.word 1 else region.resolveAs field.word type)
          (if old then region'.resolveOld field.word 1 else region'.resolveAs field.word type) := by
        split
        · exact other.resolveOld field.word 1
        · exact other.resolveAs field.word type
      refine .bind (Regard.ofRepository found) fun v w values => ?_
      refine .bind (Regard.ofField (Regard.mapCells_agree _ _ _ values)) fun _ _ mapped => .ok ?_
      exact options ▸ alike.adopt mapped

theorem flow (alike : session.Alike regard session') :
    (session.repository.meshPhi.getD
      (.zeros ⟨.scalar, .surface⟩ session.repository.mesh.faces.length)).Alike regard
      (session'.repository.meshPhi.getD
        (.zeros ⟨.scalar, .surface⟩ session'.repository.mesh.faces.length)) := by
  have stored := alike.repository.meshPhi
  rw [alike.repository.mesh]
  generalize session.repository.meshPhi = found at stored ⊢
  generalize session'.repository.meshPhi = found' at stored ⊢
  cases stored with
  | some values => exact values
  | none => exact .plain rfl

theorem algebra (regard : Regard) : Value.Agreement (α := α) (Value.Alike regard) regard.failures where
  plain _ _ := trivial
  alike _ _ values := ⟨values.kind, values.location⟩
  numbers _ := .plain rfl
  truths _ := .plain rfl
  identity := .plain rfl
  untagged _ _ values := values.untagged
  signs op _ _ _ _ values := Regard.relabelled (Regard.unary_agree op values)
  operators op _ _ _ _ _ _ _ left right := Regard.relabelled (Regard.binary_agree op left right)
  choices _ _ _ _ _ _ _ _ _ _ _ condition left right :=
    Regard.relabelled (Regard.select_agree condition left right)
  components _ _ name values := Regard.component_alike values name
  elementary function _ _ values _ := Regard.inField (Regard.elementary_agree function values)
  magnitude _ _ values := Regard.magnitude_alike values
  magnitudeSquared _ _ values := Regard.magnitudeSquared_alike values
  square _ _ values _ := Regard.inField (Regard.square_agree values)
  reduce reduction _ _ values _ := Regard.inField (Regard.reduce_agree reduction values)
  tensors function _ _ _ values := Regard.inField (Regard.tensors_agree function values)
  power _ _ _ _ left right _ _ _ := Regard.inField (Regard.power_agree left right)
  maximum _ _ _ _ left right _ _ _ := Regard.inField (Regard.maximum_agree left right)
  minimum _ _ _ _ left right _ _ _ := Regard.inField (Regard.minimum_agree left right)
  build kind _ _ _ values _ _ _ := Regard.inField (Regard.build_agree kind values)
  table _ _ f values _ := ⟨rfl, values.location, Regard.mapped_alike values f, .none⟩

theorem calculus (regard : Regard) (mesh : Mesh α) :
    mesh.Agreement (Value.Alike regard) regard.failures where
  cells _ _ := .plain rfl
  positions _ := .plain rfl
  areas := .plain rfl
  areaSizes := .plain rfl
  internal := .plain rfl
  masks _ _ := .plain rfl
  expand _ _ location values := values.broadcastTo location _
  extremumPosition largest _ _ _ values _ _ :=
    Regard.inField (Regard.extremumPosition_agree largest _ values)
  grad _ _ values _ := Regard.inField (Regard.grad_agree values)
  div _ _ values _ := Regard.inField (Regard.divergence_agree values)
  curl _ _ values _ := Regard.inField (Regard.curl_agree values)
  snGrad _ _ values _ := Regard.inField (Regard.snGrad_agree values)
  laplacian _ _ values _ := Regard.inField (Regard.laplacian_agree values (.ok (.refl _)))
  scaled _ _ _ _ factor _ _ values _ := by
    refine .bind (Regard.ofField (Regard.laplacian_agree values (.ok (.refl _)))) fun _ _ plain => ?_
    refine .bind (Regard.ofField (Regard.mul_agree factor.untagged plain)) fun _ _ product => ?_
    exact .ok product.untagged
  varied _ _ _ _ factor _ values _ :=
    Regard.inField (Regard.laplacian_agree values (Regard.faceDiffusivities_agree factor))
  interpolate _ _ values _ := Regard.inField (Regard.interpolate_agree values)
  interpolateToPoint _ _ values _ := Regard.inField (Regard.interpolateToPoint_agree values)
  interpolateToCell _ _ values _ := Regard.inField (Regard.interpolateToCell_agree values)
  faceAverage _ _ values _ := Regard.inField (Regard.faceAverage_agree values)
  surfaceIntegrate _ _ values _ := Regard.inField (Regard.surfaceIntegrate_agree values)
  surfaceSum _ _ values _ := Regard.inField (Regard.surfaceSum_agree values)
  reconstruct _ _ values _ := Regard.inField (Regard.reconstruct_agree values)
  magSqrGradGrad _ _ values _ := Regard.inField (Regard.magSqrGradGrad_agree values)
  flux _ _ _ _ rates _ values _ := Regard.inField (Regard.flux_agree rates values)
  divFlux _ _ _ _ rates _ values _ := Regard.inField (Regard.divFlux_agree rates values)

/-- All that sessions which are alike offer to expressions is alike. -/
theorem lockstep (alike : session.Alike regard session') (start : Cursor)
    (plugins : ∀ name plugin, session.registry.get? name = some plugin →
      plugin.Agrees (Value.Alike regard) regard.failures) :
    session.environment.Lockstep session'.environment start (Value.Alike regard)
      regard.failures where
  algebra := algebra regard
  calculus := calculus regard _
  mesh := alike.repository.mesh
  options := alike.options
  registry := alike.registry
  tables := alike.repository.tables
  time := alike.repository.time
  timeStep := alike.repository.timeStep
  names := alike.lookup
  past _ name := alike.history name 1
  rates _ := alike.timeDerivative false
  secondRates _ := alike.timeDerivative true
  flow := alike.flow
  meshes name := by
    have other := alike.repository.foreign name
    change Option.Rel _ (session.repository.foreign.get? name) (session'.repository.foreign.get? name)
    generalize session.repository.foreign.get? name = found at other ⊢
    generalize session'.repository.foreign.get? name = found' at other ⊢
    cases other with
    | some regions =>
      exact .some fun function field old _ => alike.applyForeign regions function field old
    | none => exact .none
  plugins := plugins

end Session.Alike

theorem Plugin.library_alike [Scalar α] {regard : Regard} {registry : Registry α}
    (library : registry = Plugin.library) (name : String) (plugin : Plugin α)
    (found : registry.get? name = some plugin) :
    plugin.Agrees (Value.Alike regard) regard.failures := by
  rw [library] at found
  refine library_agrees (fun _ _ _ => trivial) (fun _ _ _ _ => trivial)
    (fun _ _ excused _ => EvalError.Contains.argument excused)
    (fun _ _ values => ⟨values.kind, values.location⟩) ?_ ?_ found
  · exact fun v w values _ f => ⟨rfl, values.location, Regard.mapped_alike values f, values.tags⟩
  · exact fun v w values _ f => ⟨rfl, values.location, Regard.mapped_alike values _, .none⟩

theorem OrderedMap.rel_insert {κ β γ : Type} [DecidableEq κ] {R : β → γ → Prop}
    {map : OrderedMap κ β} {map' : OrderedMap κ γ}
    (all : ∀ key, Option.Rel R (map.get? key) (map'.get? key)) (key : κ) {value : β} {value' : γ}
    (related : R value value') (other : κ) :
    Option.Rel R ((map.insert key value).get? other) ((map'.insert key value').get? other) := by
  rw [get?_insert, get?_insert]
  split
  · exact .some related
  · exact all other

theorem Session.Ends.mono {β γ : Type} {S S' : Session α → Session α → Prop} {R : β → γ → Prop}
    {T : Tolerance (EvalError α)} {result : Session α × Except (EvalError α) β}
    {other : Session α × Except (EvalError α) γ} (ends : Ends S R T result other)
    (further : ∀ after after', S after after' → S' after after') : Ends S' R T result other := by
  cases ends with
  | ok related at_end => exact .ok related (further _ _ at_end)
  | error shared at_end => exact .error shared (further _ _ at_end)
  | left excused => exact .left excused
  | right excused => exact .right excused

namespace Session.Alike

variable {regard : Regard} {session session' : Session α}

theorem of_environment {after after' : Session α} (alike : session.Alike regard session')
    (left : after.environment = session.environment)
    (right : after'.environment = session'.environment) (inStep : after.InStep after') :
    after.Alike regard after' where
  repository := by
    have first : after.repository = session.repository := congrArg Environment.repository left
    have second : after'.repository = session'.repository := congrArg Environment.repository right
    exact first ▸ second ▸ alike.repository
  registry := by
    have first : after.registry = session.registry := congrArg Environment.registry left
    have second : after'.registry = session'.registry := congrArg Environment.registry right
    exact first ▸ second ▸ alike.registry
  options := by
    have first : after.options = session.options := congrArg Environment.options left
    have second : after'.options = session'.options := congrArg Environment.options right
    exact first ▸ second ▸ alike.options
  bindings := by
    have first : after.bindings = session.bindings := congrArg Environment.bindings left
    have second : after'.bindings = session'.bindings := congrArg Environment.bindings right
    exact first ▸ second ▸ alike.bindings
  inStep := inStep

theorem withBindings (alike : session.Alike regard session')
    {bindings bindings' : OrderedMap String (Value α)} (values : Bindings.Alike regard bindings bindings') :
    { session with bindings }.Alike regard { session' with bindings := bindings' } where
  repository := alike.repository
  registry := alike.registry
  options := alike.options
  bindings := values
  inStep := { alike.inStep with }

variable [Scalar α]

theorem accept (alike : session.Alike regard session') (library : session.registry = Plugin.library)
    (text : List Char) (expected : Option ValueType) (whole : Bool) :
    Ends (fun after after' => after.Alike regard after' ∧
        Option.Rel (Value.Alike regard) after.result after'.result) (Value.Alike regard)
      regard.failures (session.accept text expected whole) (session'.accept text expected whole) := by
  have lockstep := alike.lockstep (.ofText text) (Plugin.library_alike library)
  refine (accept_agrees lockstep alike.inStep expected whole).mono fun after after' both => ?_
  obtain ⟨inStep, left, right, results⟩ := both
  exact ⟨alike.of_environment left right inStep, results⟩

theorem argument (alike : session.Alike regard session') (library : session.registry = Plugin.library)
    (text : List Char) (start : Nat) (expected : Option ValueType) :
    Ends (fun after after' => after.Alike regard after')
      (fun answer other => answer.1.Alike regard other.1 ∧ answer.2 = other.2)
      regard.failures (session.argument text start expected) (session'.argument text start expected) := by
  have lockstep := alike.lockstep (.within (session.origins.headD 0) text start)
    (Plugin.library_alike library)
  refine (argument_agrees expected lockstep alike.inStep).mono fun after after' both => ?_
  obtain ⟨inStep, left, right⟩ := both
  exact alike.of_environment left right inStep

theorem assign (alike : session.Alike regard session') (library : session.registry = Plugin.library)
    (text : List Char) :
    Ends (fun after after' => after.Alike regard after') (fun _ _ => True) regard.failures
      (session.assign text) (session'.assign text) := by
  have lockstep (bindings bindings' : OrderedMap String (Value α))
      (values : Bindings.Alike regard bindings bindings') :
      { session.environment with bindings }.Lockstep
        { session'.environment with bindings := bindings' } (.ofText text) (Value.Alike regard)
        regard.failures :=
    (alike.withBindings values).lockstep (.ofText text) (Plugin.library_alike library)
  have ends := assignFrom_agrees lockstep
    (fun _ _ name _ _ values value => OrderedMap.rel_insert values name value) (text.length + 1)
    alike.bindings .refl alike.inStep
  refine ends.mono fun after after' both => ?_
  obtain ⟨inStep, values, left, right⟩ := both
  exact (alike.withBindings values).of_environment left right inStep

end Session.Alike

end MeshLang
