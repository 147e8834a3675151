import MeshLang.Mesh.Block
import MeshLang.Proofs.Evaluation.Functions
import MeshLang.Proofs.Evaluation.Sessions
import MeshLang.Proofs.Mesh.Truth
import MeshLang.Proofs.Plugin.Library
import MeshLang.Proofs.PrintedTrees
import MeshLang.Proofs.Repository.Built
import MeshLang.Proofs.Scalar.Exact

namespace MeshLang

variable {α : Type} [Scalar α]

structure Repository.Truthful (r : Repository α) : Prop where
  region : r.toRegion.Stores Value.Truthful
  foreign : ∀ name region, r.foreign.get? name = some region → region.Stores Value.Truthful
  meshPhi : ∀ flow, r.meshPhi = some flow → flow.Truthful

structure Environment.Truthful (env : Environment α) : Prop where
  repository : env.repository.Truthful
  bindings : ∀ name v, env.bindings.get? name = some v → v.Truthful

theorem Repository.Truthful.ofMesh (mesh : Mesh α) : (Repository.ofMesh mesh).Truthful :=
  ⟨.ofMesh mesh, OrderedMap.forall_empty, nofun⟩

theorem Repository.Truthful.insertForeign {r : Repository α} {name : String} {region : Region α}
    (truthful : r.Truthful) (stores : region.Stores Value.Truthful) :
    (r.insertForeign name region).Truthful :=
  ⟨truthful.region, OrderedMap.forall_insert truthful.foreign stores, truthful.meshPhi⟩

abbrev Truthy (result : Except (EvalError α) (Value α)) : Prop :=
  Meets Value.Truthful (fun _ => True) result

theorem Value.Numeric.truthful {result : Except (FieldError α) (Value α)}
    (numeric : Value.Numeric result) : Meets Value.Truthful (fun _ => True) result :=
  numeric.weaken fun _ other => Value.truthful_of_kind other

theorem Meets.of_toOption {ε β : Type} {P : β → Prop} {result : Except ε β}
    (holds : ∀ answer, result.toOption = some answer → P answer) : Meets P (fun _ => True) result := by
  cases result with
  | ok answer => exact holds answer rfl
  | error error => trivial

def Region.volumeField? (region : Region α) (name : String) (old : Bool) : Option (Value α) := do
  let type ← region.classify name
  if type.location = .volume then
    (if old then region.resolveOld name 1 else region.resolveAs name type).toOption
  else none

omit [Scalar α] in
theorem Region.Stores.volumeField? {region : Region α} {P : Value α → Prop} (stores : region.Stores P)
    {name : String} {old : Bool} {v : Value α} (found : region.volumeField? name old = some v) : P v := by
  simp only [Region.volumeField?, Option.bind_eq_bind, Option.bind_eq_some_iff] at found
  obtain ⟨type, -, found⟩ := found
  split at found
  · cases old with
    | true => exact (stores.resolveOld name 1).of_ok (toOption_eq_some.mp found)
    | false => exact (stores.resolveAs name type).of_ok (toOption_eq_some.mp found)
  · cases found

namespace Environment

variable {env : Environment α}

omit [Scalar α] in
theorem kind_numeric {kind : Kind} (member : kind ∈ Kind.numeric) : kind ≠ .logical := by
  rintro rfl
  revert member
  decide

theorem adopt_truthful {options : Options} {v : Value α} : (options.adopt v).Truthful ↔ v.Truthful := by
  unfold Options.adopt
  split
  · exact Iff.rfl
  · exact Iff.rfl

omit [Scalar α] in
theorem adopt_location {options : Options} {v : Value α} : (options.adopt v).location = v.location := by
  unfold Options.adopt
  split
  · rfl
  · rfl

namespace Truthful

theorem lookup (truthful : env.Truthful) (name : String) : Truthy (env.lookup name) := by
  unfold Environment.lookup
  split
  · rename_i v found
    exact .ok (truthful.bindings name v found)
  · exact .mapError (truthful.repository.region.resolve name)

theorem history (truthful : env.Truthful) (name : String) (level : Nat) :
    Truthy (env.history name level) := by
  unfold Environment.history
  split
  · rename_i v found
    exact .ok (truthful.bindings name v found)
  · exact .mapError (truthful.repository.region.resolveOld name level)

end Truthful

theorem firstDerivative_kind (name : String) (current : Value α) :
    Meets (fun v => v.kind = current.kind) (fun _ => True) (env.firstDerivative name current) := by
  apply Meets.bind .any
  intro old _
  apply Meets.bind (.mapError (Value.sub_kind current old.untagged))
  intro change first
  apply Meets.bind (.mapError (Value.div_kind change _))
  intro slope second
  exact .ok (second.trans first)

theorem secondDerivative_kind (name : String) (current : Value α) :
    Meets (fun v => v.kind = current.kind) (fun _ => True) (env.secondDerivative name current) := by
  refine .bind .any fun old _ => .bind .any fun older _ => .bind .any fun twice _ => ?_
  apply Meets.bind (.mapError (Value.sub_kind current twice))
  intro change first
  apply Meets.bind (.mapError (Value.add_kind change older.untagged))
  intro change second
  apply Meets.bind (.mapError (Value.div_kind change _))
  intro slope third
  exact .ok (third.trans (second.trans first))

theorem timeDerivative_truthy (second : Bool) (name : Token) : Truthy (env.timeDerivative second name) := by
  apply Meets.bind .any
  intro current _
  dsimp only
  split
  · exact .error trivial
  · rename_i numeric
    have other : current.untagged.kind ≠ .logical := by
      intro logical
      rw [logical] at numeric
      exact numeric rfl
    have kept {v : Value α} (same : v.kind = current.untagged.kind) : v.Truthful :=
      Value.truthful_of_kind (same ▸ other)
    split
    · exact (secondDerivative_kind name.word current.untagged).weaken fun _ => kept
    · exact (firstDerivative_kind name.word current.untagged).weaken fun _ => kept

theorem Truthful.flow (truthful : env.Truthful) :
    (env.repository.meshPhi.getD (.zeros ⟨.scalar, .surface⟩ env.mesh.faces.length)).Truthful := by
  cases stored : env.repository.meshPhi with
  | none => exact Value.truthful_of_kind Kind.scalar_ne_logical
  | some flow => exact truthful.repository.meshPhi flow stored

theorem Truthful.holds (truthful : env.Truthful) : env.Holds Value.Truthful (fun _ => True) where
  past name := (truthful.history name 1).weaken fun _ holds => adopt_truthful.mpr holds
  rates := timeDerivative_truthy
  numbers _ := Value.truthful_of_kind Kind.scalar_ne_logical
  cells _ _ := Value.truthful_of_kind Kind.scalar_ne_logical
  positions _ := Value.truthful_of_kind Kind.vector_ne_logical
  areas := Value.truthful_of_kind Kind.vector_ne_logical
  areaSizes := Value.truthful_of_kind Kind.scalar_ne_logical
  internal := fun _ => Value.truths_map .logical _ id _ none
  masks := Mesh.mask_truthful env.mesh
  flow := truthful.flow

theorem truthful_algebra : Algebra (α := α) Value.Truthful (fun _ => True) where
  elementary _ _ _ _ := ((Value.applyScalar_kind _ _).numeric Kind.scalar_ne_logical).truthful
  magnitude _ _ := Value.truthful_of_kind Kind.scalar_ne_logical
  magnitudeSquared _ _ := Value.truthful_of_kind Kind.scalar_ne_logical
  square v _ _ := v.square_numeric.truthful
  reduce _ _ _ numeric := ((Value.reduce_kind _ _).numeric (kind_numeric numeric)).truthful
  tensor _ _ _ matrix := (Value.applyTensor_numeric _ matrix).truthful
  power _ _ _ _ _ _ := ((Value.pow_kind _ _).numeric Kind.scalar_ne_logical).truthful
  maximum _ _ _ _ numeric _ := ((Value.maximum_kind _ _).numeric (kind_numeric numeric)).truthful
  minimum _ _ _ _ numeric _ := ((Value.minimum_kind _ _).numeric (kind_numeric numeric)).truthful
  build _ _ _ _ _ := (Value.build_numeric _ _).truthful
  table _ _ _ _ := Value.truthful_of_kind Kind.scalar_ne_logical

omit [Scalar α] in
theorem isAt_numeric {v : Value α} {location : Location} (placed : v.isAt location Kind.numeric = true) :
    v.kind ≠ .logical :=
  kind_numeric (Value.isAt_iff.mp placed).2

theorem truthful_calculus (mesh : Mesh α) : mesh.Calculus Value.Truthful (fun _ => True) where
  expand _ location holds := holds.broadcastTo location _
  extremumPosition _ _ _ _ _ :=
    ((Value.extremumPosition_kind _ _ _).numeric Kind.vector_ne_logical).truthful
  grad _ _ _ := (mesh.grad_numeric _).truthful
  div v _ accepted := by
    refine (mesh.div_numeric fun logical => ?_).truthful
    simp [Value.isAt, logical] at accepted
  curl _ _ _ := (mesh.curl_numeric _).truthful
  snGrad _ _ placed := ((mesh.snGrad_kind _).numeric (isAt_numeric placed)).truthful
  laplacian _ _ placed := ((mesh.laplacian_kind _ none).numeric (isAt_numeric placed)).truthful
  scaled d v _ _ scalar _ placed := by
    have factor : d.untagged.kind ≠ .logical := by
      intro logical
      cases scalar.symm.trans logical
    apply Meets.bind (.mapError ((mesh.laplacian_kind v none).numeric (isAt_numeric placed)))
    intro plain kept
    apply Meets.bind (.mapError (Value.mul_numeric factor kept))
    intro scaled numeric
    exact .ok (Value.truthful_of_kind numeric)
  varied d _ _ _ _ placed := ((mesh.laplacian_kind _ (some d)).numeric (isAt_numeric placed)).truthful
  interpolate _ _ placed := ((mesh.interpolate_kind _).numeric (isAt_numeric placed)).truthful
  interpolateToPoint _ _ placed := ((mesh.interpolateToPoint_kind _).numeric (isAt_numeric placed)).truthful
  interpolateToCell _ _ placed := ((mesh.interpolateToCell_kind _).numeric (isAt_numeric placed)).truthful
  faceAverage _ _ placed := ((mesh.faceAverage_kind _).numeric (isAt_numeric placed)).truthful
  surfaceIntegrate _ _ placed := ((mesh.surfaceIntegrate_kind _).numeric (isAt_numeric placed)).truthful
  surfaceSum _ _ placed := ((mesh.surfaceSum_kind _).numeric (isAt_numeric placed)).truthful
  reconstruct _ _ _ := (mesh.reconstruct_numeric _).truthful
  magSqrGradGrad _ _ _ := (mesh.magSqrGradGrad_numeric _).truthful
  flux flow _ _ _ _ placed := (mesh.flux_numeric flow (isAt_numeric placed)).truthful
  divFlux flow _ _ _ _ placed := (mesh.divFlux_numeric flow (isAt_numeric placed)).truthful

theorem Truthful.computes (truthful : env.Truthful) : env.Computes Value.Truthful (fun _ => True) where
  plain _ _ := trivial
  holds := truthful.holds
  algebra := truthful_algebra
  calculus := truthful_calculus env.mesh

/-- Logical fields that expressions can reach on other meshes are estimated to be zero or one at all
cells of this one. Linear interpolation treats truth values as numbers. -/
def EstimatesTruth (env : Environment α) : Prop :=
  ∀ (mesh field : Word) (old : Bool) (region : Region α) (v : Value α),
    Builtin.ofName? mesh.name = none → env.repository.tables.get? mesh.name = none →
    env.repository.foreign.get? mesh.name = some region →
    region.volumeField? field.name old = some v → region.mesh.EstimatesTruth env.mesh v

theorem applyForeign_eq_some {region : Region α} {function name : Token} {old : Bool} {w : Value α} :
    (env.applyForeign region function name old).toOption = some w ↔
      ∃ v u, region.volumeField? name.word old = some v ∧
        region.mesh.mapCells env.mesh env.options.order v = .ok u ∧ env.options.adopt u = w := by
  unfold applyForeign Region.volumeField?
  cases region.classify name.word with
  | none => simp
  | some type =>
    by_cases volume : type.location = .volume
    · simp [volume, ofField, Option.bind_eq_some_iff, toOption_eq_some]
    · simp [volume]

theorem Truthful.applyForeign (truthful : env.Truthful)
    (estimates : env.options.order = .linear → env.EstimatesTruth) {region : Region α}
    {function name : Token} {old : Bool} (meshWord : function.IsWord) (fieldWord : name.IsWord)
    (unnamed : Builtin.ofName? function.word = none)
    (untabled : env.repository.tables.get? function.word = none)
    (known : env.repository.foreign.get? function.word = some region) :
    Truthy (env.applyForeign region function name old) := by
  refine .of_toOption fun w applied => ?_
  obtain ⟨v, u, found, mapped, rfl⟩ := applyForeign_eq_some.mp applied
  have stored := truthful.repository.foreign function.word region known
  refine adopt_truthful.mpr (Meets.of_ok (Mesh.mapCells_truthful (stored.volumeField? found) ?_) mapped)
  intro linear
  exact estimates linear ⟨function.text, meshWord⟩ ⟨name.text, fieldWord⟩ old region v unnamed untabled
    known found

/-- Logical fields on other meshes apart, an environment of truth values offers nothing else. -/
theorem Truthful.closed (truthful : env.Truthful)
    (estimates : env.options.order = .linear → env.EstimatesTruth)
    (library : env.registry = Plugin.library) : env.Closed Value.Truthful (fun _ => True) where
  plain _ _ := trivial
  numbers _ := Value.truthful_of_kind Kind.scalar_ne_logical
  truths b := Value.constantLogical_truthful b
  identity := Value.truthful_of_kind Kind.tensor_ne_logical
  cells _ _ := Value.truthful_of_kind Kind.scalar_ne_logical
  expand _ location holds := holds.broadcastTo location _
  adopt _ holds := adopt_truthful.mpr holds
  names name := (truthful.lookup name).weaken fun v holds => adopt_truthful.mpr holds
  signs _ _ _ legal _ := UnaryOp.apply_truthful legal
  operators _ _ _ _ legal _ _ := BinaryOp.apply_truthful legal
  choices _ _ _ _ legal _ left right := Value.select_truthful legal left right
  components _ _ _ found _ := Value.truthful_of_kind (Value.component?_kind found ▸ Kind.scalar_ne_logical)
  tensors function _ matrix _ := (Value.applyTensor_numeric function matrix).truthful
  named := truthful.computes.applyNamed
  functions builtin function _ holds := truthful.computes.apply builtin function holds
  tables _ table function _ _ holds := truthful.computes.applyTable table function holds
  meshes _ _ _ _ := truthful.applyForeign estimates
  plugins name plugin found := by
    rw [library] at found
    refine Plugin.library_keeps (fun _ _ _ => trivial) (fun _ _ _ _ => trivial) ?_ ?_ found
    · exact fun _ _ _ _ => Value.truthful_of_kind Kind.scalar_ne_logical
    · exact fun _ _ _ f => fun _ => Value.truths_map .logical _ f _ none

end Environment

namespace Session

/-- Logical values that a session makes hold zeros and ones, entry point by entry point. -/
structure Truthful (session : Session α) : Prop where
  reductions : ∀ v, session.environment.Produces v → v.Truthful
  whole : ∀ text v, (session.evaluate text).2 = .ok v → v.Truthful
  start : ∀ text v, (session.evaluateStart text).2 = .ok v → v.Truthful
  typed : ∀ text type v, (session.evaluateAs text type).2 = .ok v → v.Truthful
  logical : ∀ text location v, (session.evaluateLogical text location).2 = .ok v → v.Truthful
  argument : ∀ text start expected v stop, (session.argument text start expected).2 = .ok (v, stop) →
    v.Truthful
  bindings : ∀ text name v, (session.assign text).1.bindings.get? name = some v → v.Truthful

variable {session : Session α}

theorem truthful_of_estimates (library : session.registry = Plugin.library)
    (repository : session.repository.Truthful)
    (bindings : ∀ name v, session.bindings.get? name = some v → v.Truthful)
    (estimates : session.options.order = .linear → session.environment.EstimatesTruth) :
    session.Truthful := by
  have closed (bindings : OrderedMap String (Value α))
      (all : ∀ name v, bindings.get? name = some v → v.Truthful) :
      { session.environment with bindings }.Closed Value.Truthful (fun _ => True) :=
    Environment.Truthful.closed ⟨repository, all⟩ estimates library
  have accepted (text : List Char) (expected : Option ValueType) (whole : Bool) (v : Value α)
      (answer : (session.accept text expected whole).2 = .ok v) : v.Truthful :=
    ((accept_meets (closed _ bindings) text expected whole).of_ok answer).1
  have assigned (text : List Char) :=
    assignFrom_meets closed (fun _ _ _ all truthful => OrderedMap.forall_insert all truthful)
      (text.length + 1) bindings (.ofText text)
  exact {
    reductions := fun v produced => produced.holds (closed _ bindings)
    whole := fun text => accepted text none true
    start := fun text => accepted text none false
    typed := fun text type => accepted text (some type) true
    logical := fun text location => accepted text (some ⟨.logical, location⟩) true
    argument := fun text start expected v stop answer =>
      ((argument_meets (closed _ bindings) text start expected).of_ok answer).1
    bindings := fun text => (assigned text).1 }

def fieldCall (mesh field : Word) (old : Bool) : Tree :=
  if old then .callOld mesh field else .callNamed mesh field

theorem fieldCall_eval {env : Environment α} {mesh field : Word} {old : Bool} {v : Value α}
    (unnamed : Builtin.ofName? mesh.name = none) (found : env.foreign? mesh field old = some v)
    (g : Generator) : (fieldCall mesh field old).eval env g = some (v, g) := by
  cases old with
  | true => simp only [fieldCall, if_true, Tree.eval, found, Option.map_some]
  | false =>
    simp only [fieldCall, Bool.false_eq_true, if_false, Tree.eval, Environment.callNamed?, unnamed, found,
      Option.map_some]

theorem estimates_of_truthful (truthful : session.Truthful) (linear : session.options.order = .linear) :
    session.environment.EstimatesTruth := by
  intro mesh field old region v unnamed untabled known found
  refine Mesh.estimatesTruth_of_mapCells (.of_toOption fun u mapped => ?_)
  have mapped : region.mesh.mapCells session.environment.mesh session.options.order v = .ok u := by
    rw [linear]
    exact toOption_eq_some.mp mapped
  have carried : session.environment.foreign? mesh field old = some (session.options.adopt u) := by
    unfold Environment.foreign?
    simp only [unnamed, untabled, known]
    exact Environment.applyForeign_eq_some.mpr ⟨v, u, found, mapped, rfl⟩
  have answer := evaluate_print (fieldCall_eval unnamed carried session.generator)
  have located : (session.options.adopt u).location = some .volume :=
    Environment.adopt_location.trans (Mesh.mapCells_location.of_ok mapped)
  have truths := truthful.whole _ _ answer
  unfold Value.broadcastTo Value.isConstant at truths
  rw [located] at truths
  exact Environment.adopt_truthful.mp truths

/-- In a session with the library of plugins whose logical fields hold zeros and ones, everything
logical does so, exactly if interpolation between meshes is not linear or happens to give truth
values. -/
theorem truthful_iff (session : Session α) (library : session.registry = Plugin.library)
    (repository : session.repository.Truthful)
    (bindings : ∀ name v, session.bindings.get? name = some v → v.Truthful) :
    session.Truthful ↔ (session.options.order = .linear → session.environment.EstimatesTruth) :=
  ⟨estimates_of_truthful, truthful_of_estimates library repository bindings⟩

def row (cells : Nat) : Mesh Exact := Mesh.assemble (Block.unit ⟨cells, 1, 1⟩).addressing

def halves (order : MappingOrder) : Session Exact :=
  let half : Region Exact := { Region.ofMesh (row 2) with
    fields := OrderedMap.empty.insert "on" (.logical .volume [true, false]) }
  (ofRepository ((Repository.ofMesh (row 1)).insertForeign "half" half)).withOptions
    { Options.default with order }

theorem halves_repository (order : MappingOrder) : (halves order).repository.Truthful :=
  .insertForeign (.ofMesh (row 1)) (.insertField (.ofMesh (row 2)) (fun _ => Value.truths_map .logical _ id _ none) "on")

theorem truthful_halves :
    (halves .nearest).registry = Plugin.library ∧ (halves .nearest).repository.Truthful ∧
      ((halves .nearest).evaluate "half(on)".toList).2.isOk = true ∧ (halves .nearest).Truthful := by
  have nearest : (halves .nearest).options.order ≠ .linear := by decide
  refine ⟨rfl, halves_repository .nearest, by decide +kernel, ?_⟩
  exact (truthful_iff (halves .nearest) rfl (halves_repository .nearest) OrderedMap.forall_empty).mpr
    fun linear => absurd linear nearest

/-- In the middle between true and false, linear interpolation finds three quarters. -/
theorem not_truthful_halves :
    (halves .linear).registry = Plugin.library ∧ (halves .linear).repository.Truthful ∧
      (halves .linear).bindings = .empty ∧ ¬ (halves .linear).Truthful := by
  refine ⟨rfl, halves_repository .linear, rfl, fun truthful => ?_⟩
  have answer : ((halves .linear).evaluate "half(on)".toList).2.toOption.any (fun v =>
      v.kind = .logical && v.data = .scalar [Exact.ofRat (3 / 4)]) = true := by decide +kernel
  cases outcome : ((halves .linear).evaluate "half(on)".toList).2 with
  | ok v =>
    rw [outcome] at answer
    simp only [Except.toOption, Option.any_some, Bool.and_eq_true, decide_eq_true_eq] at answer
    obtain ⟨values, held, truths⟩ := truthful.whole _ v outcome answer.1
    cases held.symm.trans answer.2
    rcases truths _ List.mem_cons_self with zero | one
    · exact absurd zero (by decide +kernel)
    · exact absurd one (by decide +kernel)
  | error error =>
    rw [outcome] at answer
    cases answer

end Session

end MeshLang
