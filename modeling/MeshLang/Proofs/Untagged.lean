import MeshLang.Proofs.Evaluation.Functions
import MeshLang.Proofs.Evaluation.Sessions
import MeshLang.Proofs.Plugin.Library
import MeshLang.Proofs.PrintedTrees
import MeshLang.Proofs.Repository.Built
import MeshLang.Proofs.Value.Untagged
import MeshLang.Scalar.Double

namespace MeshLang

variable {α : Type}

/-- A failure because of tags, by itself or in an argument of a plugin. -/
inductive EvalError.OfTags : EvalError α → Prop where
  | field {error : FieldError α} : error.OfTags → OfTags (.field error)
  | plugin {name : String} {offset : Nat} {error : EvalError α} :
      OfTags error → OfTags (.plugin name (.argument offset error))

abbrev EvalError.ApartFromTags (error : EvalError α) : Prop := ¬ error.OfTags

theorem EvalError.apart_of_plain (error : EvalError α) (plain : error.IsPlain) :
    error.ApartFromTags := by
  intro ofTags
  cases ofTags <;> exact plain

theorem Tagless.field {result : Except (FieldError α) (Value α)} (tagless : Tagless result) :
    Meets Value.Untagged (fun error => (EvalError.field error).ApartFromTags) result := by
  refine Meets.widen tagless fun error apart ofTags => ?_
  cases ofTags with
  | field here => exact apart here

abbrev Bare (result : Except (EvalError α) (Value α)) : Prop :=
  Meets Value.Untagged EvalError.ApartFromTags result

theorem Tagless.bare {result : Except (FieldError α) (Value α)} (tagless : Tagless result) :
    Bare (ofField result) :=
  .mapError tagless.field

variable [Scalar α]

/-- Tags are not checked, and the flux of the mesh motion, the one value that keeps its tag where it
enters an expression, has none. -/
structure Environment.TagFree (env : Environment α) : Prop where
  unchecked : env.options.checkDimensions = false
  meshPhi : ∀ flow, env.repository.meshPhi = some flow → flow.Untagged

namespace Environment

variable {env : Environment α}

omit [Scalar α] in
theorem adopt_untagged (unchecked : env.options.checkDimensions = false) (v : Value α) :
    (env.options.adopt v).Untagged := by
  unfold Options.adopt
  rw [unchecked]
  exact v.untagged_untagged

omit [Scalar α] in
theorem ofRepository_apart {β : Type} (result : Except RepositoryError β) :
    Meets (fun _ => True) EvalError.ApartFromTags
      (result.mapError .ofRepository : Except (EvalError α) β) := by
  cases result with
  | ok answer => trivial
  | error error => exact EvalError.apart_of_plain _ (EvalError.ofRepository_isPlain error)

omit [Scalar α] in
theorem lookup_apart (env : Environment α) (name : String) :
    Meets (fun _ => True) EvalError.ApartFromTags (env.lookup name) := by
  unfold lookup
  split
  · trivial
  · exact ofRepository_apart _

omit [Scalar α] in
theorem history_apart (env : Environment α) (name : String) (level : Nat) :
    Meets (fun _ => True) EvalError.ApartFromTags (env.history name level) := by
  unfold history
  split
  · trivial
  · exact ofRepository_apart _

theorem firstDerivative_bare (env : Environment α) (name : String) {current : Value α}
    (plain : current.Untagged) : Bare (env.firstDerivative name current) := by
  apply Meets.bind (env.history_apart name 1)
  intro old _
  apply Meets.bind (Tagless.bare (Value.sub_tagless plain old.untagged_untagged))
  intro change made
  refine .bind (Tagless.bare (Value.div_tagless made rfl)) fun slope _ => ?_
  exact .ok slope.untagged_untagged

theorem secondDerivative_bare (env : Environment α) (name : String) {current : Value α}
    (plain : current.Untagged) : Bare (env.secondDerivative name current) := by
  apply Meets.bind (env.history_apart name 1)
  intro old _
  apply Meets.bind (env.history_apart name 2)
  intro older _
  refine .bind (Tagless.bare (Value.mul_tagless rfl old.untagged_untagged)) fun twice made => ?_
  apply Meets.bind (Tagless.bare (Value.sub_tagless plain made))
  intro change made
  apply Meets.bind (Tagless.bare (Value.add_tagless made older.untagged_untagged))
  intro change made
  refine .bind (Tagless.bare (Value.div_tagless made rfl)) fun slope _ => ?_
  exact .ok slope.untagged_untagged

theorem timeDerivative_bare (env : Environment α) (second : Bool) (name : Token) :
    Bare (env.timeDerivative second name) := by
  apply Meets.bind (env.history_apart name.word 0)
  intro current _
  dsimp only
  split
  · exact .error (EvalError.apart_of_plain _ trivial)
  · split
    · exact env.secondDerivative_bare name.word current.untagged_untagged
    · exact env.firstDerivative_bare name.word current.untagged_untagged

theorem TagFree.flow (free : env.TagFree) :
    (env.repository.meshPhi.getD (.zeros ⟨.scalar, .surface⟩ env.mesh.faces.length)).Untagged := by
  cases stored : env.repository.meshPhi with
  | none => exact rfl
  | some flow => exact free.meshPhi flow stored

theorem TagFree.holds (free : env.TagFree) : env.Holds Value.Untagged EvalError.ApartFromTags where
  past name := (env.history_apart name 1).weaken fun v _ => adopt_untagged free.unchecked v
  rates := env.timeDerivative_bare
  numbers _ := rfl
  cells _ _ := rfl
  positions _ := rfl
  areas := rfl
  areaSizes := rfl
  internal := rfl
  masks _ _ := rfl
  flow := free.flow

theorem untagged_algebra : Algebra (α := α) Value.Untagged EvalError.ApartFromTags where
  elementary function _ plain _ := Tagless.field (Value.applyScalar_tagless function plain)
  magnitude _ plain := Value.magnitude_untagged plain
  magnitudeSquared _ plain := Value.magnitudeSquared_untagged plain
  square _ plain _ := Tagless.field (Value.square_tagless plain)
  reduce reduction _ plain _ := Tagless.field (Value.reduce_tagless reduction plain)
  tensor function _ plain _ := Tagless.field (Value.applyTensor_tagless function plain)
  power _ w plain _ _ _ := Tagless.field (Value.pow_tagless plain w)
  maximum _ _ first second _ _ := Tagless.field (Value.maximum_tagless first second)
  minimum _ _ first second _ _ := Tagless.field (Value.minimum_tagless first second)
  build kind _ _ plain _ := Tagless.field (Value.build_tagless kind plain)
  table _ _ _ _ := rfl

theorem untagged_calculus (mesh : Mesh α) :
    mesh.Calculus Value.Untagged EvalError.ApartFromTags where
  expand _ location plain := plain.broadcastTo location _
  extremumPosition largest v positions _ _ :=
    Tagless.field (Value.extremumPosition_tagless largest v positions)
  grad v _ _ := Tagless.field (mesh.grad_tagless v)
  div _ plain _ := Tagless.field (Mesh.div_tagless plain)
  curl v _ _ := Tagless.field (mesh.curl_tagless v)
  snGrad v _ _ := Tagless.field (mesh.snGrad_tagless v)
  laplacian v _ _ := Tagless.field (mesh.laplacian_tagless none v)
  scaled d v _ _ _ _ _ := by
    apply Meets.bind (mesh.laplacian_tagless none v).bare
    intro plain made
    apply Meets.bind (Value.mul_tagless d.untagged_untagged made).bare
    intro scaled _
    exact .ok scaled.untagged_untagged
  varied d v _ _ _ _ := Tagless.field (mesh.laplacian_tagless (some d) v)
  interpolate _ plain _ := Tagless.field (Mesh.interpolate_tagless plain)
  interpolateToPoint _ plain _ := Tagless.field (Mesh.interpolateToPoint_tagless plain)
  interpolateToCell _ plain _ := Tagless.field (Mesh.interpolateToCell_tagless plain)
  faceAverage _ plain _ := Tagless.field (Mesh.faceAverage_tagless plain)
  surfaceIntegrate _ plain _ := Tagless.field (Mesh.surfaceIntegrate_tagless plain)
  surfaceSum _ plain _ := Tagless.field (Mesh.surfaceSum_tagless plain)
  reconstruct v _ _ := Tagless.field (mesh.reconstruct_tagless v)
  magSqrGradGrad v _ _ := Tagless.field (mesh.magSqrGradGrad_tagless v)
  flux flow _ _ _ plain _ := Tagless.field (Mesh.flux_tagless flow plain)
  divFlux flow _ _ _ plain _ := Tagless.field (Mesh.divFlux_tagless flow plain)

theorem TagFree.computes (free : env.TagFree) :
    env.Computes Value.Untagged EvalError.ApartFromTags where
  plain := EvalError.apart_of_plain
  holds := free.holds
  algebra := untagged_algebra
  calculus := untagged_calculus env.mesh

theorem applyForeign_bare (unchecked : env.options.checkDimensions = false) (region : Region α)
    (function name : Token) (old : Bool) : Bare (env.applyForeign region function name old) := by
  unfold applyForeign
  split
  · exact .error (EvalError.apart_of_plain _ trivial)
  · split
    · exact .error (EvalError.apart_of_plain _ trivial)
    · apply Meets.bind (ofRepository_apart _)
      intro v _
      have mapped : Meets (fun _ => True) EvalError.ApartFromTags
          (ofField (region.mesh.mapCells env.mesh env.options.order v)) := by
        refine .mapError (Meets.widen (Mesh.mapCells_tagless region.mesh env.mesh env.options.order v) ?_)
        intro error here ofTags
        cases ofTags with
        | field tags => exact here tags
      exact .bind mapped fun w _ => .ok (adopt_untagged unchecked w)

theorem TagFree.closed (free : env.TagFree) (library : env.registry = Plugin.library) :
    env.Closed Value.Untagged EvalError.ApartFromTags where
  plain := EvalError.apart_of_plain
  numbers _ := rfl
  truths _ := rfl
  identity := rfl
  cells _ _ := rfl
  expand _ location plain := plain.broadcastTo location _
  adopt v _ := adopt_untagged free.unchecked v
  names name := (env.lookup_apart name).weaken fun v _ => adopt_untagged free.unchecked v
  signs op _ _ _ plain := Tagless.field (op.apply_tagless plain)
  operators op _ _ _ _ left right := Tagless.field (op.apply_tagless left right)
  choices c _ _ _ _ _ left right := Tagless.field (Value.select_tagless c left right)
  components _ _ _ found plain := Value.component?_untagged found plain
  tensors function _ _ plain := Tagless.field (Value.applyTensor_tagless function plain)
  named := free.computes.applyNamed
  functions builtin function _ plain := free.computes.apply builtin function plain
  tables _ table function _ _ plain := free.computes.applyTable table function plain
  meshes region function field old _ _ _ _ _ :=
    applyForeign_bare free.unchecked region function field old
  plugins name plugin found := by
    rw [library] at found
    refine Plugin.library_keeps ?_ ?_ ?_ ?_ found
    · intro error plain name ofTags
      cases ofTags
      exact plain
    · intro offset error apart name ofTags
      cases ofTags with
      | plugin inner => exact apart inner
    · exact fun _ plain _ _ => plain
    · exact fun _ _ _ _ => rfl

end Environment

namespace Session

/-- Variables that had no tag before, or have none now. -/
def KeepsUntagged (session : Session α) (bindings : OrderedMap String (Value α)) : Prop :=
  ∀ name v, bindings.get? name = some v → v.Untagged ∨ session.bindings.get? name = some v

omit [Scalar α] in
theorem KeepsUntagged.insert {session : Session α} {bindings : OrderedMap String (Value α)}
    (kept : session.KeepsUntagged bindings) (name : String) {v : Value α} (plain : v.Untagged) :
    session.KeepsUntagged (bindings.insert name v) :=
  OrderedMap.forall_insert kept (.inl plain)

/-- What it means for a session that tags are off, entry point by entry point. -/
structure TagsOff (session : Session α) : Prop where
  whole : ∀ text, Bare (session.evaluate text).2
  start : ∀ text, Bare (session.evaluateStart text).2
  typed : ∀ text type, Bare (session.evaluateAs text type).2
  logical : ∀ text location, Bare (session.evaluateLogical text location).2
  argument : ∀ text start expected,
    Meets (fun answer => answer.1.Untagged) EvalError.ApartFromTags
      (session.argument text start expected).2
  assignments : ∀ text, Meets (fun _ => True) EvalError.ApartFromTags (session.assign text).2
  bindings : ∀ text, session.KeepsUntagged (session.assign text).1.bindings

theorem TagsOff.answer {session : Session α} (off : session.TagsOff) {text : List Char} {v : Value α}
    (answer : (session.evaluate text).2 = .ok v) : v.Untagged :=
  Meets.of_ok (off.whole text) answer

theorem tagsOff_of_flux {session : Session α} (unchecked : session.options.checkDimensions = false)
    (library : session.registry = Plugin.library)
    (flux : ∀ flow, session.repository.meshPhi = some flow → flow.Untagged) : session.TagsOff := by
  have closed (bindings : OrderedMap String (Value α)) :
      { session.environment with bindings }.Closed Value.Untagged EvalError.ApartFromTags :=
    Environment.TagFree.closed ⟨unchecked, flux⟩ library
  have accepted (text : List Char) (expected : Option ValueType) (whole : Bool) :
      Bare (session.accept text expected whole).2 :=
    (accept_meets (closed _) text expected whole).weaken fun _ all => all.1
  have assigned (text : List Char) :=
    assignFrom_meets (B := session.KeepsUntagged) (fun bindings _ => closed bindings)
      (fun _ name _ kept plain => kept.insert name plain) (text.length + 1)
      (fun _ _ found => .inr found) (.ofText text)
  exact {
    whole := fun text => accepted text none true
    start := fun text => accepted text none false
    typed := fun text type => accepted text (some type) true
    logical := fun text location => accepted text (some ⟨.logical, location⟩) true
    argument := fun text start expected =>
      (argument_meets (closed _) text start expected).weaken fun _ both => both.1
    assignments := fun text => (assigned text).2
    bindings := fun text => (assigned text).1 }

def meshPhiWord : Word := ⟨"meshPhi".toList, by decide +kernel⟩

def positionWord : Word := ⟨"pos".toList, by decide +kernel⟩

def fluxTree : Tree := .call meshPhiWord [.call positionWord []]

theorem fluxTree_eval {env : Environment α} {flow : Value α}
    (stored : env.repository.meshPhi = some flow) (g : Generator) :
    fluxTree.eval env g = some (flow, g) := by
  have outer : Builtin.ofName? meshPhiWord.name = some .meshPhi := by decide +kernel
  have inner : Builtin.ofName? positionWord.name = some (.scalar .positive) := by decide +kernel
  have centres : env.call? positionWord [] = some (.vector .volume (env.mesh.positions .volume)) := by
    unfold Environment.call?
    rw [inner]
    rfl
  have applied (token : Token) : env.applyOne .meshPhi token
      ⟨.vector .volume (env.mesh.positions .volume), token⟩ = .ok flow := by
    unfold Environment.applyOne
    rw [stored]
    rfl
  have flux : env.call? meshPhiWord [.vector .volume (env.mesh.positions .volume)] = some flow := by
    unfold Environment.call?
    rw [outer]
    exact congrArg Except.toOption (applied meshPhiWord.token)
  simp only [fluxTree, Tree.eval, Tree.evalAll, Option.bind_eq_bind, Option.bind_some, centres]
  exact congrArg (Option.map (·, g)) flux

theorem flux_of_tagsOff {session : Session α} (off : session.TagsOff) :
    ∀ flow, session.repository.meshPhi = some flow → flow.Untagged := by
  intro flow stored
  have plain := off.answer (evaluate_print (fluxTree_eval stored session.generator))
  unfold Value.broadcastTo at plain
  split at plain <;> exact plain

/-- In a session that does not check tags all is as if there were none, exactly if the flux of the
mesh motion has no tag. -/
theorem tagsOff_iff (session : Session α) (unchecked : session.options.checkDimensions = false)
    (library : session.registry = Plugin.library) :
    session.TagsOff ↔ ∀ flow, session.repository.meshPhi = some flow → flow.dimensions = none :=
  ⟨flux_of_tagsOff, tagsOff_of_flux unchecked library⟩

def moving (flux : Option (Value Float)) : Session Float :=
  let length : Dimensions Float := { Dimensions.dimensionless with length := Scalar.one }
  let field := (Value.scalar .volume [Scalar.one]).withDimensions (some length)
  let repository : Repository Float := { Repository.ofMesh Mesh.tetrahedron with
    fields := OrderedMap.empty.insert "p" field
    meshPhi := flux }
  (ofRepository repository).withOptions { Options.default with checkDimensions := false }

theorem tagsOff_at_rest :
    (moving none).options.checkDimensions = false ∧ (moving none).registry = Plugin.library ∧
      ((moving none).evaluate "p + p * p".toList).2.isOk = true ∧ (moving none).TagsOff :=
  ⟨rfl, rfl, by decide +kernel, (tagsOff_iff (moving none) rfl rfl).mpr fun _ stored => by cases stored⟩

/-- The call `meshPhi` hands the tag of the flux on although tags are not checked. -/
theorem not_tagsOff_flux :
    let flux := (Value.zeros ⟨.scalar, .surface⟩ 4).withDimensions (some Dimensions.dimensionless)
    (moving (some flux)).options.checkDimensions = false ∧
      (moving (some flux)).registry = Plugin.library ∧ ¬ (moving (some flux)).TagsOff := by
  intro flux
  refine ⟨rfl, rfl, fun off => ?_⟩
  have tagged : (((moving (some flux)).evaluate "meshPhi(pos())".toList).2.toOption.bind
      (·.dimensions)).isSome = true := by decide +kernel
  cases outcome : ((moving (some flux)).evaluate "meshPhi(pos())".toList).2 with
  | ok v =>
    have plain : v.dimensions = none := off.answer outcome
    rw [outcome] at tagged
    simp [Except.toOption, plain] at tagged
  | error error =>
    rw [outcome] at tagged
    cases tagged

end Session

end MeshLang
