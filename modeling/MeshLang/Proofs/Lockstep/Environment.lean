import Mathlib.Data.List.Forall2
import MeshLang.Proofs.Evaluation.Closure
import MeshLang.Proofs.Lockstep.Outcome

namespace MeshLang

variable {α : Type}

/-- Two values of which each is located at the same place as the other one, if both are located. -/
def Value.Together (v w : Value α) : Prop :=
  ∀ left right, v.location = some left → w.location = some right → left = right

theorem checkLocations_together (symbol : String) (v w : Value α) (place : Token) :
    Meets (fun _ => v.Together w) EvalError.IsPlain (checkLocations symbol v w place) := by
  unfold checkLocations
  split
  · rename_i left right atLeft atRight
    split
    · rename_i same
      refine .ok fun l r first second => ?_
      rw [atLeft] at first
      rw [atRight] at second
      cases first
      cases second
      exact same
    · exact .error trivial
  · rename_i apart
    exact .ok fun left right first second => (apart left right first second).elim

theorem Value.describe_congr {v w : Value α} (kind : v.kind = w.kind)
    (location : v.location = w.location) : v.describe = w.describe := by
  unfold describe type?
  rw [kind, location]

inductive EvalError.Contains (E : FieldError α → Prop) : EvalError α → Prop where
  | field {error : FieldError α} : E error → Contains E (.field error)
  | argument {name : String} {offset : Nat} {error : EvalError α} :
      Contains E error → Contains E (.plugin name (.argument offset error))

def Tolerance.named (T : Tolerance (EvalError α)) : Tolerance (PluginError α) :=
  ⟨fun error => ∀ name, T.shared (.plugin name error),
   fun error => ∀ name, T.excused (.plugin name error)⟩

def ToldAlike (R : Value α → Value α → Prop) (T : Tolerance (EvalError α))
    (expected : Option ValueType) :
    Except (EvalError α) (Value α × Nat) → Except (EvalError α) (Value α × Nat) → Prop :=
  Same (fun answer other => R answer.1 other.1 ∧ answer.2 = other.2 ∧
    ∀ type, expected = some type → answer.1.type? = some type) T.shared

def Script.GivesUp {β : Type} (U : Tolerance (PluginError α))
    (script : Script α (Except (PluginError α) β)) : Prop :=
  ∃ error, script = .done (.error error) ∧ U.excused error

/-- Two scripts ask for the same expressions and answer alike if they are told alike, or one of them
gives up. Told of an excused failure, each of them gives up. -/
inductive Script.Agrees {β : Type} (R : Value α → Value α → Prop) (T : Tolerance (EvalError α))
    (Q : β → β → Prop) (U : Tolerance (PluginError α)) :
    Script α (Except (PluginError α) β) → Script α (Except (PluginError α) β) → Prop where
  | done {answer other : Except (PluginError α) β} : Same Q U.shared answer other →
      Agrees R T Q U (.done answer) (.done other)
  | argument {start : Nat} {expected : Option ValueType}
      {next next' : Except (EvalError α) (Value α × Nat) → Script α (Except (PluginError α) β)} :
      (∀ told told', ToldAlike R T expected told told' → Agrees R T Q U (next told) (next' told')) →
      (∀ error, T.excused error → (next (.error error)).GivesUp U) →
      (∀ error, T.excused error → (next' (.error error)).GivesUp U) →
      Agrees R T Q U (.argument start expected next) (.argument start expected next')
  | left {script other : Script α (Except (PluginError α) β)} : script.GivesUp U →
      Agrees R T Q U script other
  | right {script other : Script α (Except (PluginError α) β)} : other.GivesUp U →
      Agrees R T Q U script other

def Plugin.Agrees (plugin : Plugin α) (R : Value α → Value α → Prop) (T : Tolerance (EvalError α)) :
    Prop :=
  ∀ text, Script.Agrees R T (fun answer other => R answer.1 other.1 ∧ answer.2 = other.2) T.named
    (plugin.call text) (plugin.call text)

def Argument.Alike (R : Value α → Value α → Prop) (a b : Argument α) : Prop :=
  a.start = b.start ∧ R a.value b.value

theorem Script.Meets.agrees {β : Type} {P : Value α → Prop} {E : EvalError α → Prop} {Q : β → Prop}
    {R : β → β → Prop} {F : PluginError α → Prop} {U : Tolerance (PluginError α)}
    {script : Script α (Except (PluginError α) β)} (meets : script.Meets P E (MeshLang.Meets Q F))
    (relates : ∀ answer, Q answer → R answer answer) (shares : ∀ error, F error → U.shared error) :
    script.Agrees (fun v w => v = w ∧ P v) (.strict E) R U script := by
  induction script with
  | done answer =>
    cases answer with
    | ok answer => exact .done (.ok (relates answer meets))
    | error error => exact .done (.error (shares error meets))
  | argument start expected next ih =>
    refine .argument (fun told told' alike => ?_) (fun _ never => never.elim) fun _ never => never.elim
    cases alike with
    | @ok answer other related =>
      obtain ⟨⟨same, holds⟩, stop, typed⟩ := related
      obtain rfl : answer = other := Prod.ext same stop
      exact ih _ (meets _ ⟨holds, typed⟩)
    | error shared => exact ih _ (meets _ shared)

theorem Plugin.Keeps.agrees {plugin : Plugin α} {P : Value α → Prop} {E : EvalError α → Prop}
    (keeps : plugin.Keeps P E) : plugin.Agrees (fun v w => v = w ∧ P v) (.strict E) :=
  fun text => (keeps text).agrees (fun _ holds => ⟨⟨rfl, holds⟩, rfl⟩) fun _ shared => shared

variable [Scalar α]

structure Value.Agreement (R : Value α → Value α → Prop) (T : Tolerance (EvalError α)) : Prop where
  plain : ∀ error, error.IsPlain → T.shared error
  alike : ∀ v w, R v w → v.kind = w.kind ∧ v.location = w.location
  numbers : ∀ x, R (.constantScalar x) (.constantScalar x)
  truths : ∀ b, R (.constantLogical b) (.constantLogical b)
  identity : R (.constantTensor .tensor Mat3.identity) (.constantTensor .tensor Mat3.identity)
  untagged : ∀ v w, R v w → R v.untagged w.untagged
  signs : ∀ (op : UnaryOp) v w kind, op.result? v.kind = some kind → R v w →
    Agree (fun a b => R (a.relabel kind) (b.relabel kind)) (T.comap .field) (op.apply v) (op.apply w)
  operators : ∀ (op : BinaryOp) v v' w w' kind, op.result? v.kind w.kind = some kind →
    v.Together w → R v v' → R w w' →
    Agree (fun a b => R (a.relabel kind) (b.relabel kind)) (T.comap .field)
      (op.apply v w) (op.apply v' w')
  choices : ∀ c c' v v' w w' kind, choiceResult? c.kind v.kind w.kind = some kind →
    c.Together v → v.Together w → c.Together w → R c c' → R v v' → R w w' →
    Agree (fun a b => R (a.relabel kind) (b.relabel kind)) (T.comap .field)
      (Value.select c v w) (Value.select c' v' w')
  components : ∀ v w name, R v w → Option.Rel R (v.component? name) (w.component? name)
  elementary : ∀ (function : ScalarFunction) v w, R v w → v.kind = .scalar →
    Agree R (T.comap .field) (v.applyScalar function) (w.applyScalar function)
  magnitude : ∀ v w, R v w → R v.magnitude w.magnitude
  magnitudeSquared : ∀ v w, R v w → R v.magnitudeSquared w.magnitudeSquared
  square : ∀ v w, R v w → v.kind ∈ [Kind.scalar, .vector] →
    Agree R (T.comap .field) v.square w.square
  reduce : ∀ (reduction : Reduction) v w, R v w → v.kind ∈ Kind.numeric →
    Agree R (T.comap .field) (v.reduce reduction) (w.reduce reduction)
  tensors : ∀ (function : TensorFunction) v w, v.kind.isTensorLike = true → R v w →
    Agree R (T.comap .field) (v.applyTensor function) (w.applyTensor function)
  power : ∀ v v' w w', R v v' → R w w' → v.kind = .scalar → w.kind = .scalar → v.Together w →
    Agree R (T.comap .field) (v.pow w) (v'.pow w')
  maximum : ∀ v v' w w', R v v' → R w w' → v.kind ∈ Kind.numeric → w.kind = v.kind →
    v.Together w → Agree R (T.comap .field) (v.maximum w) (v'.maximum w')
  minimum : ∀ v v' w w', R v v' → R w w' → v.kind ∈ Kind.numeric → w.kind = v.kind →
    v.Together w → Agree R (T.comap .field) (v.minimum w) (v'.minimum w')
  build : ∀ kind location components components', List.Forall₂ R components components' →
    (∀ v ∈ components, v.kind = .scalar ∧ v.Suits location) → components ≠ [] →
    components.length = kind.components.length →
    Agree R (T.comap .field) (Value.build kind components) (Value.build kind components')
  table : ∀ v w (f : α → α), R v w → v.kind = .scalar →
    R ⟨.scalar, v.location, .scalar ((v.scalars?.getD []).map f), none⟩
      ⟨.scalar, w.location, .scalar ((w.scalars?.getD []).map f), none⟩

structure Mesh.Agreement (mesh : Mesh α) (R : Value α → Value α → Prop)
    (T : Tolerance (EvalError α)) : Prop where
  cells : ∀ values, values.length = mesh.cells.length →
    R (.scalar .volume values) (.scalar .volume values)
  positions : ∀ location, R (.vector location (mesh.positions location))
    (.vector location (mesh.positions location))
  areas : R (.vector .surface mesh.faceAreas) (.vector .surface mesh.faceAreas)
  areaSizes : R (.scalar .surface mesh.areaSizes) (.scalar .surface mesh.areaSizes)
  internal : R (.logical .surface (mesh.faces.map Face.isInternal))
    (.logical .surface (mesh.faces.map Face.isInternal))
  masks : ∀ location selected, R (mesh.mask location selected) (mesh.mask location selected)
  expand : ∀ v w location, R v w → R (v.broadcastTo location (mesh.size location))
    (w.broadcastTo location (mesh.size location))
  extremumPosition : ∀ largest location v w, R v w → v.location = some location →
    v.kind = .scalar →
    Agree R (T.comap .field) (v.extremumPosition largest (mesh.positions location))
      (w.extremumPosition largest (mesh.positions location))
  grad : ∀ v w, R v w → v.isAt .volume [.scalar, .vector] = true →
    Agree R (T.comap .field) (mesh.grad v) (mesh.grad w)
  div : ∀ v w, R v w → (v.isAt .volume [.vector, .tensor, .symmTensor, .sphericalTensor] ||
    v.isAt .surface [.scalar, .vector]) = true →
    Agree R (T.comap .field) (mesh.div v) (mesh.div w)
  curl : ∀ v w, R v w → v.isAt .volume [.vector] = true →
    Agree R (T.comap .field) (mesh.curl v) (mesh.curl w)
  snGrad : ∀ v w, R v w → v.isAt .volume Kind.numeric = true →
    Agree R (T.comap .field) (mesh.snGrad v) (mesh.snGrad w)
  laplacian : ∀ v w, R v w → v.isAt .volume Kind.numeric = true →
    Agree R (T.comap .field) (mesh.laplacian none v) (mesh.laplacian none w)
  scaled : ∀ d d' v v', R d d' → d.isConstant = true → d.kind = .scalar → R v v' →
    v.isAt .volume Kind.numeric = true →
    Agree R T
      (do
        let plain ← ofField (mesh.laplacian none v)
        return (← ofField (d.untagged.mul plain)).untagged)
      (do
        let plain ← ofField (mesh.laplacian none v')
        return (← ofField (d'.untagged.mul plain)).untagged)
  varied : ∀ d d' v v', R d d' → (d.isAt .volume [.scalar, .tensor, .symmTensor] ||
    d.isAt .surface [.scalar]) = true → R v v' → v.isAt .volume Kind.numeric = true →
    Agree R (T.comap .field) (mesh.laplacian (some d) v) (mesh.laplacian (some d') v')
  interpolate : ∀ v w, R v w → v.isAt .volume Kind.numeric = true →
    Agree R (T.comap .field) (mesh.interpolate v) (mesh.interpolate w)
  interpolateToPoint : ∀ v w, R v w → v.isAt .volume Kind.numeric = true →
    Agree R (T.comap .field) (mesh.interpolateToPoint v) (mesh.interpolateToPoint w)
  interpolateToCell : ∀ v w, R v w → v.isAt .point Kind.numeric = true →
    Agree R (T.comap .field) (mesh.interpolateToCell v) (mesh.interpolateToCell w)
  faceAverage : ∀ v w, R v w → v.isAt .surface Kind.numeric = true →
    Agree R (T.comap .field) (mesh.faceAverage v) (mesh.faceAverage w)
  surfaceIntegrate : ∀ v w, R v w → v.isAt .surface Kind.numeric = true →
    Agree R (T.comap .field) (mesh.surfaceIntegrate v) (mesh.surfaceIntegrate w)
  surfaceSum : ∀ v w, R v w → v.isAt .surface Kind.numeric = true →
    Agree R (T.comap .field) (mesh.surfaceSum v) (mesh.surfaceSum w)
  reconstruct : ∀ v w, R v w → v.isAt .surface [.scalar] = true →
    Agree R (T.comap .field) (mesh.reconstruct v) (mesh.reconstruct w)
  magSqrGradGrad : ∀ v w, R v w → v.isAt .volume [.scalar] = true →
    Agree R (T.comap .field) (mesh.magSqrGradGrad v) (mesh.magSqrGradGrad w)
  flux : ∀ flow flow' v w, R flow flow' → flow.isAt .surface [.scalar] = true → R v w →
    v.isAt .volume Kind.numeric = true →
    Agree R (T.comap .field) (mesh.flux flow v) (mesh.flux flow' w)
  divFlux : ∀ flow flow' v w, R flow flow' → flow.isAt .surface [.scalar] = true → R v w →
    v.isAt .volume Kind.numeric = true →
    Agree R (T.comap .field) (mesh.divFlux flow v) (mesh.divFlux flow' w)

/-- All that two environments offer to expressions of a text read from `start` on is related by `R`,
up to the failures that `T` allows for. History counts only where the text calls for it. -/
structure Environment.Lockstep (env env' : Environment α) (start : Cursor)
    (R : Value α → Value α → Prop) (T : Tolerance (EvalError α)) : Prop
    extends algebra : Value.Agreement R T, calculus : env.mesh.Agreement R T where
  mesh : env.mesh = env'.mesh
  options : env.options = env'.options
  registry : env.registry = env'.registry
  tables : env.repository.tables = env'.repository.tables
  time : env.repository.time = env'.repository.time
  timeStep : env.repository.timeStep = env'.repository.timeStep
  names : ∀ name, Agree R T (env.lookup name) (env'.lookup name)
  past : env.registry.Calls start "oldTime" →
    ∀ name, Agree R T (env.history name 1) (env'.history name 1)
  rates : env.registry.Calls start "ddt" →
    ∀ name, Agree R T (env.timeDerivative false name) (env'.timeDerivative false name)
  secondRates : env.registry.Calls start "d2dt2" →
    ∀ name, Agree R T (env.timeDerivative true name) (env'.timeDerivative true name)
  flow : R (env.repository.meshPhi.getD (.zeros ⟨.scalar, .surface⟩ env.mesh.faces.length))
    (env'.repository.meshPhi.getD (.zeros ⟨.scalar, .surface⟩ env'.mesh.faces.length))
  meshes : ∀ name, Option.Rel (fun region region' => ∀ function field old,
      (old = true → env.registry.Calls start "oldTime") →
      Agree R T (env.applyForeign region function field old)
        (env'.applyForeign region' function field old))
    (env.repository.foreign.get? name) (env'.repository.foreign.get? name)
  plugins : ∀ name plugin, env.registry.get? name = some plugin → plugin.Agrees R T

namespace Environment.Lockstep

variable {env env' : Environment α} {start : Cursor} {R : Value α → Value α → Prop}
  {T : Tolerance (EvalError α)} {v v' w w' : Value α}

theorem kind (lockstep : env.Lockstep env' start R T) (related : R v w) : v.kind = w.kind :=
  (lockstep.alike v w related).1

theorem location (lockstep : env.Lockstep env' start R T) (related : R v w) :
    v.location = w.location :=
  (lockstep.alike v w related).2

theorem describe (lockstep : env.Lockstep env' start R T) (related : R v w) :
    v.describe = w.describe :=
  Value.describe_congr (lockstep.kind related) (lockstep.location related)

theorem isAt (lockstep : env.Lockstep env' start R T) (related : R v w) (location : Location)
    (kinds : List Kind) : v.isAt location kinds = w.isAt location kinds := by
  unfold Value.isAt
  rw [lockstep.kind related, lockstep.location related]

theorem isConstant (lockstep : env.Lockstep env' start R T) (related : R v w) :
    v.isConstant = w.isConstant := by
  unfold Value.isConstant
  rw [lockstep.location related]

theorem adopt (lockstep : env.Lockstep env' start R T) (related : R v w) :
    R (env.options.adopt v) (env.options.adopt w) := by
  unfold Options.adopt
  split
  · exact related
  · exact lockstep.untagged v w related

theorem checkLocations_congr (lockstep : env.Lockstep env' start R T) (left : R v v')
    (right : R w w') (symbol : String) (place : Token) :
    checkLocations symbol v w place = checkLocations symbol v' w' place := by
  unfold checkLocations
  rw [lockstep.location left, lockstep.location right, lockstep.describe left,
    lockstep.describe right]

end Environment.Lockstep

end MeshLang
