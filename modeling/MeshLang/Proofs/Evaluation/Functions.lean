import MeshLang.Proofs.Evaluation.Closure

namespace MeshLang

variable {α : Type} [Scalar α]

abbrev Makes (P : Value α → Prop) (E : EvalError α → Prop)
    (result : Except (FieldError α) (Value α)) : Prop :=
  Meets P (fun error => E (.field error)) result

/-- What functions find in an environment has the property `P`. -/
structure Environment.Holds (env : Environment α) (P : Value α → Prop) (E : EvalError α → Prop) :
    Prop where
  past : ∀ name, Meets (fun v => P (env.options.adopt v)) E (env.history name 1)
  rates : ∀ second name, Meets P E (env.timeDerivative second name)
  numbers : ∀ x, P (.constantScalar x)
  cells : ∀ values, values.length = env.mesh.cells.length → P (.scalar .volume values)
  positions : ∀ location, P (.vector location (env.mesh.positions location))
  areas : P (.vector .surface env.mesh.faceAreas)
  areaSizes : P (.scalar .surface env.mesh.areaSizes)
  internal : P (.logical .surface (env.mesh.faces.map Face.isInternal))
  masks : ∀ location selected, P (env.mesh.mask location selected)
  flow : P (env.repository.meshPhi.getD (.zeros ⟨.scalar, .surface⟩ env.mesh.faces.length))

structure Algebra (P : Value α → Prop) (E : EvalError α → Prop) : Prop where
  elementary : ∀ (function : ScalarFunction) v, P v → v.kind = .scalar → Makes P E (v.applyScalar function)
  magnitude : ∀ v, P v → P v.magnitude
  magnitudeSquared : ∀ v, P v → P v.magnitudeSquared
  square : ∀ v, P v → v.kind ∈ [Kind.scalar, .vector] → Makes P E v.square
  reduce : ∀ (reduction : Reduction) v, P v → v.kind ∈ Kind.numeric → Makes P E (v.reduce reduction)
  tensor : ∀ (function : TensorFunction) v, P v → v.kind.isTensorLike = true →
    Makes P E (v.applyTensor function)
  power : ∀ v w, P v → P w → v.kind = .scalar → w.kind = .scalar → Makes P E (v.pow w)
  maximum : ∀ v w, P v → P w → v.kind ∈ Kind.numeric → w.kind = v.kind → Makes P E (v.maximum w)
  minimum : ∀ v w, P v → P w → v.kind ∈ Kind.numeric → w.kind = v.kind → Makes P E (v.minimum w)
  build : ∀ kind location (components : List (Value α)), (∀ v ∈ components, P v) →
    (∀ v ∈ components, v.Suits location) → Makes P E (Value.build kind components)
  table : ∀ v (f : α → α), P v → v.kind = .scalar →
    P ⟨.scalar, v.location, .scalar ((v.scalars?.getD []).map f), none⟩

structure Mesh.Calculus (mesh : Mesh α) (P : Value α → Prop) (E : EvalError α → Prop) : Prop where
  expand : ∀ v location, P v → P (v.broadcastTo location (mesh.size location))
  extremumPosition : ∀ largest v positions, P v → v.kind = .scalar →
    Makes P E (v.extremumPosition largest positions)
  grad : ∀ v, P v → v.isAt .volume [.scalar, .vector] = true → Makes P E (mesh.grad v)
  div : ∀ v, P v → (v.isAt .volume [.vector, .tensor, .symmTensor, .sphericalTensor] ||
    v.isAt .surface [.scalar, .vector]) = true → Makes P E (mesh.div v)
  curl : ∀ v, P v → v.isAt .volume [.vector] = true → Makes P E (mesh.curl v)
  snGrad : ∀ v, P v → v.isAt .volume Kind.numeric = true → Makes P E (mesh.snGrad v)
  laplacian : ∀ v, P v → v.isAt .volume Kind.numeric = true → Makes P E (mesh.laplacian none v)
  scaled : ∀ d v, P d → d.isConstant = true → d.kind = .scalar → P v →
    v.isAt .volume Kind.numeric = true → Meets P E (do
      let plain ← ofField (mesh.laplacian none v)
      return (← ofField (d.untagged.mul plain)).untagged)
  varied : ∀ d v, P d → (d.isAt .volume [.scalar, .tensor, .symmTensor] ||
    d.isAt .surface [.scalar]) = true → P v → v.isAt .volume Kind.numeric = true →
    Makes P E (mesh.laplacian (some d) v)
  interpolate : ∀ v, P v → v.isAt .volume Kind.numeric = true → Makes P E (mesh.interpolate v)
  interpolateToPoint : ∀ v, P v → v.isAt .volume Kind.numeric = true →
    Makes P E (mesh.interpolateToPoint v)
  interpolateToCell : ∀ v, P v → v.isAt .point Kind.numeric = true →
    Makes P E (mesh.interpolateToCell v)
  faceAverage : ∀ v, P v → v.isAt .surface Kind.numeric = true → Makes P E (mesh.faceAverage v)
  surfaceIntegrate : ∀ v, P v → v.isAt .surface Kind.numeric = true → Makes P E (mesh.surfaceIntegrate v)
  surfaceSum : ∀ v, P v → v.isAt .surface Kind.numeric = true → Makes P E (mesh.surfaceSum v)
  reconstruct : ∀ v, P v → v.isAt .surface [.scalar] = true → Makes P E (mesh.reconstruct v)
  magSqrGradGrad : ∀ v, P v → v.isAt .volume [.scalar] = true → Makes P E (mesh.magSqrGradGrad v)
  flux : ∀ flow v, P flow → flow.isAt .surface [.scalar] = true → P v →
    v.isAt .volume Kind.numeric = true → Makes P E (mesh.flux flow v)
  divFlux : ∀ flow v, P flow → flow.isAt .surface [.scalar] = true → P v →
    v.isAt .volume Kind.numeric = true → Makes P E (mesh.divFlux flow v)

/-- All that functions compute has the property `P`. -/
structure Environment.Computes (env : Environment α) (P : Value α → Prop) (E : EvalError α → Prop) :
    Prop where
  plain : ∀ error, error.IsPlain → E error
  holds : env.Holds P E
  algebra : Algebra P E
  calculus : env.mesh.Calculus P E

namespace Environment.Computes

variable {env : Environment α} {P : Value α → Prop} {E : EvalError α → Prop} {a b : Argument α}

theorem applyNamed (computes : env.Computes P E) (builtin : Builtin) (name : Token) :
    Meets P E (env.applyNamed builtin name) := by
  have known {β : Type} (result : Except MeshError β) : Meets (fun _ => True) E
      (ofMesh result : Except (EvalError α) β) := by
    cases result with
    | ok answer => trivial
    | error error => exact computes.plain _ trivial
  unfold Environment.applyNamed
  split
  · exact .map (computes.holds.past name.word)
  · exact computes.holds.rates false name
  · exact computes.holds.rates true name
  · exact .map ((known _).weaken fun members _ => computes.holds.masks _ _)
  · exact .map ((known _).weaken fun patch _ => computes.holds.masks _ _)
  · exact .map ((known _).weaken fun patch _ => computes.holds.cells _ (by simp [Mesh.cellCentres]))
  · exact .error (computes.plain _ trivial)

theorem applyNone (computes : env.Computes P E) (builtin : Builtin) (function : Token) :
    Meets P E (env.applyNone builtin function) := by
  unfold Environment.applyNone
  dsimp only
  split
  · exact .ok (computes.holds.positions .volume)
  · exact .ok (computes.holds.positions _)
  · exact .ok (computes.holds.cells _ (List.length_map _))
  · exact .ok computes.holds.areaSizes
  · exact .ok computes.holds.areas
  · exact .ok (computes.holds.cells _ (by simp))
  · exact .ok (computes.holds.numbers _)
  · exact .ok (computes.holds.numbers _)
  · exact .ok (computes.holds.numbers _)
  · exact .ok (computes.holds.cells _ (Generator.sample_length _ _ _))
  · exact .ok computes.holds.internal
  · exact .error (computes.plain _ trivial)

theorem applyAlgebra (computes : env.Computes P E) (builtin : Builtin) (function : Token)
    (holds : P a.value) : Meets P E (applyAlgebra builtin function a) := by
  have algebra := computes.algebra
  have kinds (kinds : List Kind) := a.requireKind_meets function kinds
  unfold Environment.applyAlgebra
  split
  · apply Meets.guarded computes.plain (kinds _)
    intro _ scalar
    exact .mapError (algebra.elementary _ _ holds (List.mem_singleton.mp scalar))
  · exact .guarded computes.plain (kinds _) fun _ _ => .ok (algebra.magnitude _ holds)
  · exact .guarded computes.plain (kinds _) fun _ _ => .ok (algebra.magnitudeSquared _ holds)
  · exact .guarded computes.plain (kinds _) fun _ kind => .mapError (algebra.square _ holds kind)
  · exact .guarded computes.plain (kinds _) fun _ kind => .mapError (algebra.reduce _ _ holds kind)
  · exact .guarded computes.plain (kinds _) fun _ kind => .mapError (algebra.reduce _ _ holds kind)
  · apply Meets.guarded computes.plain (kinds _)
    intro _ matrix
    exact .mapError (algebra.tensor _ _ holds (List.mem_filter.mp matrix).2)
  · exact .error (computes.plain _ trivial)

theorem applyOne (computes : env.Computes P E) (builtin : Builtin) (function : Token)
    (holds : P a.value) : Meets P E (env.applyOne builtin function a) := by
  have calculus := computes.calculus
  have required {accepted : Bool} {expected : List String}
      {result : Except (EvalError α) (Value α)} (rest : accepted = true → Meets P E result) :
      Meets P E (do
        a.require function accepted expected
        result) :=
    .guarded computes.plain (a.require_meets function accepted expected) fun _ => rest
  unfold Environment.applyOne
  dsimp only
  split
  · refine required fun accepted => .mapError (calculus.extremumPosition _ _ _ holds ?_)
    simp only [Bool.and_eq_true, decide_eq_true_eq] at accepted
    exact accepted.1
  · exact required fun accepted => .mapError (calculus.grad _ holds accepted)
  · exact required fun accepted => .mapError (calculus.div _ holds accepted)
  · exact required fun accepted => .mapError (calculus.curl _ holds accepted)
  · exact required fun accepted => .mapError (calculus.snGrad _ holds accepted)
  · exact required fun accepted => .mapError (calculus.laplacian _ holds accepted)
  · exact required fun accepted => .mapError (calculus.interpolate _ holds accepted)
  · exact required fun accepted => .mapError (calculus.interpolateToPoint _ holds accepted)
  · exact required fun accepted => .mapError (calculus.interpolateToCell _ holds accepted)
  · exact required fun accepted => .mapError (calculus.faceAverage _ holds accepted)
  · exact required fun accepted => .mapError (calculus.surfaceIntegrate _ holds accepted)
  · exact required fun accepted => .mapError (calculus.surfaceSum _ holds accepted)
  · exact required fun accepted => .mapError (calculus.reconstruct _ holds accepted)
  · exact required fun accepted => .mapError (calculus.magSqrGradGrad _ holds accepted)
  · exact required fun _ => .ok computes.holds.flow
  · exact required fun _ => .ok (calculus.expand _ _ holds)
  · exact computes.applyAlgebra builtin function holds

theorem applyLaplacian (computes : env.Computes P E) (function : Token) (factor : P a.value)
    (holds : P b.value) : Meets P E (env.applyLaplacian function a b) := by
  have calculus := computes.calculus
  apply Meets.guarded computes.plain (b.require_meets function _ _)
  intro _ placed
  split
  · rename_i constant
    simp only [Bool.and_eq_true, decide_eq_true_eq] at constant
    exact calculus.scaled _ _ factor constant.1 constant.2 holds placed
  · apply Meets.guarded computes.plain (a.require_meets function _ _)
    intro _ accepted
    exact .mapError (calculus.varied _ _ factor accepted holds placed)

theorem applyTwo (computes : env.Computes P E) (builtin : Builtin) (function : Token) (first : P a.value)
    (second : P b.value) : Meets P E (env.applyTwo builtin function a b) := by
  have algebra := computes.algebra
  have calculus := computes.calculus
  unfold Environment.applyTwo
  split
  · apply Meets.guarded computes.plain (a.requireKind_meets function _)
    intro _ base
    apply Meets.guarded computes.plain (b.requireKind_meets function _)
    intro _ exponent
    refine .guarded computes.plain (checkLocations_isPlain _ _ _ _) fun _ _ => .mapError ?_
    exact algebra.power _ _ first second (List.mem_singleton.mp base) (List.mem_singleton.mp exponent)
  · rename_i largest
    apply Meets.guarded computes.plain (a.requireKind_meets function _)
    intro _ numeric
    apply Meets.guarded computes.plain (b.requireKind_meets function _)
    intro _ same
    refine .guarded computes.plain (checkLocations_isPlain _ _ _ _) fun _ _ => .mapError ?_
    cases largest with
    | true => exact algebra.maximum _ _ first second numeric (List.mem_singleton.mp same)
    | false => exact algebra.minimum _ _ first second numeric (List.mem_singleton.mp same)
  · apply Meets.guarded computes.plain (a.require_meets function _ _)
    intro _ flow
    apply Meets.guarded computes.plain (b.require_meets function _ _)
    intro _ placed
    exact .mapError (calculus.divFlux _ _ first flow second placed)
  · apply Meets.guarded computes.plain (a.require_meets function _ _)
    intro _ flow
    apply Meets.guarded computes.plain (b.require_meets function _ _)
    intro _ placed
    exact .mapError (calculus.flux _ _ first flow second placed)
  · exact computes.applyLaplacian function first second
  · exact .error (computes.plain _ trivial)

theorem apply (computes : env.Computes P E) (builtin : Builtin) (function : Token)
    {args : List (Argument α)} (holds : ∀ arg ∈ args, P arg.value) :
    Meets P E (env.apply builtin function args) := by
  unfold Environment.apply
  split
  · rename_i kind
    have none : ∀ first, (none : Option (Value α)) = some first → first.location.isSome := by simp
    apply Meets.guarded computes.plain (checkComponents_suits function args none)
    intro _ together
    obtain ⟨location, -, suits⟩ := together
    refine .mapError (computes.algebra.build kind location _ ?_ ?_)
    · intro v member
      obtain ⟨arg, here, rfl⟩ := List.mem_map.mp member
      exact holds arg here
    · intro v member
      obtain ⟨arg, here, rfl⟩ := List.mem_map.mp member
      exact suits arg here
  · exact computes.applyNone _ function
  · exact computes.applyOne _ function (holds _ (by simp))
  · exact computes.applyTwo _ function (holds _ (by simp)) (holds _ (by simp))
  · exact .error (computes.plain _ trivial)

theorem applyTable (computes : env.Computes P E) (table : LookupTable α) (function : Token)
    {args : List (Argument α)} (holds : ∀ arg ∈ args, P arg.value) :
    Meets P E (env.applyTable table function args) := by
  unfold Environment.applyTable
  split
  · exact .ok (computes.holds.numbers _)
  · rename_i a
    refine .guarded computes.plain (a.requireKind_meets function _) fun _ scalar => .ok ?_
    exact computes.algebra.table _ _ (holds a (by simp)) (List.mem_singleton.mp scalar)
  · exact .error (computes.plain _ trivial)

end Environment.Computes

end MeshLang
