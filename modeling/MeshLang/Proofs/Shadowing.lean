import MeshLang.Proofs.Lockstep.Sessions
import MeshLang.Proofs.Repository.Built
import MeshLang.Proofs.Scalar.Exact

namespace MeshLang

variable {α : Type}

def Repository.storing (repository : Repository α) (fields : OrderedMap String (Value α))
    (history : OrderedMap String (List (Value α))) : Repository α :=
  { repository with fields, history }

def Environment.storing (env : Environment α) (fields : OrderedMap String (Value α))
    (history : OrderedMap String (List (Value α))) : Environment α :=
  { env with repository := env.repository.storing fields history }

/-- Two repositories that differ in what is stored under one name at most, now and at earlier times. -/
structure Repository.AgreesBut (hidden : String) (repository repository' : Repository α) : Prop where
  mesh : repository'.mesh = repository.mesh
  fields : ∀ name, name ≠ hidden → repository'.fields.get? name = repository.fields.get? name
  history : ∀ name, name ≠ hidden → repository'.history.get? name = repository.history.get? name
  tables : repository'.tables = repository.tables
  foreign : repository'.foreign = repository.foreign
  time : repository'.time = repository.time
  timeStep : repository'.timeStep = repository.timeStep
  meshPhi : repository'.meshPhi = repository.meshPhi

theorem Repository.AgreesBut.eq_storing {hidden : String} {repository repository' : Repository α}
    (agrees : repository.AgreesBut hidden repository') :
    repository' = repository.storing repository'.fields repository'.history := by
  obtain ⟨⟨mesh, fields, history⟩, tables, foreign, time, timeStep, meshPhi⟩ := repository'
  obtain ⟨sameMesh, -, -, sameTables, sameForeign, sameTime, sameStep, samePhi⟩ := agrees
  dsimp only at sameMesh sameTables sameForeign sameTime sameStep samePhi
  subst sameMesh sameTables sameForeign sameTime sameStep samePhi
  rfl

structure Environment.Hides (env : Environment α) (fields : OrderedMap String (Value α))
    (history : OrderedMap String (List (Value α))) : Prop where
  lookup : ∀ name, (env.storing fields history).lookup name = env.lookup name
  history : ∀ name level, (env.storing fields history).history name level = env.history name level

/-- A variable is found before a field is asked for, at every time level. -/
theorem Repository.AgreesBut.hides {hidden : String} {repository : Repository α} {env : Environment α}
    (agrees : env.repository.AgreesBut hidden repository)
    (bound : (env.bindings.get? hidden).isSome = true) :
    env.Hides repository.fields repository.history where
  lookup name := by
    have same : (env.storing repository.fields repository.history).bindings = env.bindings := rfl
    unfold Environment.lookup
    rw [same]
    cases known : env.bindings.get? name with
    | some v => rfl
    | none =>
      have other : name ≠ hidden := by
        rintro rfl
        simp [known] at bound
      simp only [Environment.storing, storing, Region.resolve, agrees.fields name other]
  history name level := by
    have same : (env.storing repository.fields repository.history).bindings = env.bindings := rfl
    unfold Environment.history
    rw [same]
    cases known : env.bindings.get? name with
    | some v => rfl
    | none =>
      have other : name ≠ hidden := by
        rintro rfl
        simp [known] at bound
      simp only [Environment.storing, storing, Region.resolveOld, Region.resolve,
        agrees.fields name other, agrees.history name other]

namespace Environment.Hides

variable [Scalar α] {env : Environment α} {fields : OrderedMap String (Value α)}
  {history : OrderedMap String (List (Value α))} (hides : env.Hides fields history)

include hides

theorem timeDerivative (second : Bool) (name : Token) :
    (env.storing fields history).timeDerivative second name = env.timeDerivative second name := by
  simp only [Environment.timeDerivative, firstDerivative, secondDerivative, hides.history]
  rfl

theorem applyNamed (builtin : Builtin) (name : Token) :
    (env.storing fields history).applyNamed builtin name = env.applyNamed builtin name := by
  cases builtin with
  | oldTime =>
    simp only [Environment.applyNamed, hides.history]
    rfl
  | ddt => exact hides.timeDerivative false name
  | d2dt2 => exact hides.timeDerivative true name
  | _ => rfl

variable {recurse : Recursion α}

theorem callBuiltin (name : Token) (builtin : Builtin) :
    Run.callBuiltin (env.storing fields history) recurse name builtin =
      Run.callBuiltin env recurse name builtin := by
  unfold Run.callBuiltin
  cases builtin.shape with
  | name => simp only [hides.applyNamed]
  | seed => rfl
  | expressions least most => rfl

omit [Scalar α] hides in
theorem play {β : Type} (text : List Char) (script : Script α β) :
    Run.play (env.storing fields history) recurse text script = Run.play env recurse text script := by
  induction script with
  | done answer => rfl
  | argument start expected next ih =>
    simp only [Run.play, ih]
    rfl

theorem call (name : Token) :
    Run.call (env.storing fields history) recurse name = Run.call env recurse name := by
  have plugins (plugin : Plugin α) : Run.callPlugin (env.storing fields history) recurse name plugin =
      Run.callPlugin env recurse name plugin := by
    simp only [Run.callPlugin, play]
    rfl
  unfold Run.call
  simp only [hides.callBuiltin, plugins]
  rfl

theorem name : Run.name (env.storing fields history) recurse = Run.name env recurse := by
  unfold Run.name
  simp only [hides.call, hides.lookup]
  rfl

theorem step : Run.step (env.storing fields history) recurse = Run.step env recurse := by
  have operand : Run.operand (env.storing fields history) recurse = Run.operand env recurse := by
    unfold Run.operand
    simp only [hides.name]
    rfl
  funext given bound
  cases given with
  | some v => rfl
  | none =>
    simp only [Run.step, operand]
    rfl

theorem evaluate (depth : Nat) :
    Run.evaluate (env.storing fields history) depth = Run.evaluate env depth := by
  induction depth with
  | zero => rfl
  | succ depth ih => rw [Run.evaluate, Run.evaluate, ih, hides.step]

theorem expression : Run.expression (env.storing fields history) = Run.expression env := by
  unfold Run.expression
  simp only [hides.evaluate]

end Environment.Hides

namespace Session

def onto (session : Session α) (repository : Repository α) : Session α := { session with repository }

def SameOnto {β : Type} (repository : Repository α) (result other : Session α × β) : Prop :=
  other = (result.1.onto repository, result.2)

variable [Scalar α] {session : Session α} {repository : Repository α} {hidden : String}

theorem accept_onto (agrees : session.repository.AgreesBut hidden repository)
    (bound : (session.bindings.get? hidden).isSome = true) (text : List Char)
    (expected : Option ValueType) (whole : Bool) :
    SameOnto repository (session.accept text expected whole)
      ((session.onto repository).accept text expected whole) := by
  have hides : session.environment.Hides _ _ := agrees.hides bound
  have same := agrees.eq_storing
  generalize repository.fields = fields, repository.history = history at hides same
  subst same
  have run : reading (session.onto (session.repository.storing fields history)).environment whole =
      reading session.environment whole := by
    change reading (session.environment.storing fields history) whole = _
    unfold reading
    rw [hides.expression]
  unfold SameOnto
  rw [accept_eq, accept_eq, run]
  change conclude _ _ (reading session.environment whole (session.cleared.stateAt _)) = _
  generalize reading session.environment whole _ = result
  cases result with
  | error error state => rfl
  | ok v state =>
    have shaped : ((session.onto (session.repository.storing fields history)).cleared.resume state).shape
        expected v state.cursor.offset =
        (session.cleared.resume state).shape expected v state.cursor.offset := by
      cases expected <;> rfl
    unfold conclude
    dsimp only
    rw [shaped]
    cases (session.cleared.resume state).shape expected v state.cursor.offset <;> rfl

theorem argument_onto (agrees : session.repository.AgreesBut hidden repository)
    (bound : (session.bindings.get? hidden).isSome = true) (text : List Char) (start : Nat)
    (expected : Option ValueType) :
    SameOnto repository (session.argument text start expected)
      ((session.onto repository).argument text start expected) := by
  have hides : session.environment.Hides _ _ := agrees.hides bound
  have same := agrees.eq_storing
  generalize repository.fields = fields, repository.history = history at hides same
  subst same
  have asked : Run.argumentAt (session.environment.storing fields history)
      (Run.evaluate (session.environment.storing fields history) (text.length + 1)) text start expected =
        Run.argumentAt session.environment (Run.evaluate session.environment (text.length + 1)) text start
          expected := by
    rw [hides.evaluate]
    rfl
  have onto : (session.onto (session.repository.storing fields history)).environment =
    session.environment.storing fields history := rfl
  have states : (session.onto (session.repository.storing fields history)).stateAt (.ofText text) =
    session.stateAt (.ofText text) := rfl
  unfold SameOnto
  rw [argument_eq, argument_eq, onto, asked, states]
  cases Run.argumentAt session.environment _ text start expected _ <;> rfl

theorem assignFrom_onto (agrees : session.repository.AgreesBut hidden repository)
    (bound : (session.bindings.get? hidden).isSome = true) (cursor : Cursor) (rounds : Nat) :
    SameOnto repository (session.assignFrom cursor rounds)
      ((session.onto repository).assignFrom cursor rounds) := by
  induction rounds generalizing session cursor with
  | zero => rfl
  | succ rounds ih =>
    have hides : session.environment.Hides _ _ := agrees.hides bound
    have expression : Run.expression (session.onto repository).environment =
        Run.expression session.environment := by
      rw [← hides.expression, Environment.storing]
      change Run.expression { session.environment with repository } = _
      rw [agrees.eq_storing]
      rfl
    have states (cursor : Cursor) : (session.onto repository).stateAt cursor = session.stateAt cursor := rfl
    unfold SameOnto
    rcases assignFrom_cases α cursor with ⟨answer, -, ends⟩ | ⟨-, -, evaluates⟩
    · rw [ends, ends]
    · rw [evaluates, evaluates, expression, states]
      cases Run.expression session.environment (session.stateAt cursor.advance.advance) with
      | error error state => rfl
      | ok v state =>
        have still : (((session.resume state).setVariable cursor.current.word v).bindings.get? hidden).isSome =
            true := by
          change ((session.bindings.insert cursor.current.word v).get? hidden).isSome = true
          rw [OrderedMap.get?_insert]
          split
          · rfl
          · exact bound
        rw [assigned, assigned]
        rcases separated_cases α state.cursor with ⟨answer, -, ends⟩ | ⟨-, further⟩
        · rw [ends, ends]
          rfl
        · rw [further, further]
          exact @ih ((session.resume state).setVariable cursor.current.word v) agrees still _

/-- No call tells a session from one over another repository, entry point by entry point. -/
structure BlindTo (session : Session α) (repository : Repository α) : Prop where
  whole : ∀ text, SameOnto repository (session.evaluate text)
    ((session.onto repository).evaluate text)
  start : ∀ text, SameOnto repository (session.evaluateStart text)
    ((session.onto repository).evaluateStart text)
  typed : ∀ text type, SameOnto repository (session.evaluateAs text type)
    ((session.onto repository).evaluateAs text type)
  logical : ∀ text location, SameOnto repository (session.evaluateLogical text location)
    ((session.onto repository).evaluateLogical text location)
  argument : ∀ text offset expected, SameOnto repository (session.argument text offset expected)
    ((session.onto repository).argument text offset expected)
  reader : ∀ text args expected, SameOnto repository (session.readExpression text args expected)
    ((session.onto repository).readExpression text args expected)
  assignments : ∀ text, SameOnto repository (session.assign text)
    ((session.onto repository).assign text)

/-- What repositories store under the name of a variable has no influence on any call. -/
theorem variables_hide_fields (session : Session α) (repository : Repository α) (hidden : String)
    (bound : (session.bindings.get? hidden).isSome = true)
    (agrees : session.repository.AgreesBut hidden repository) : session.BlindTo repository where
  whole text := accept_onto agrees bound text none true
  start text := accept_onto agrees bound text none false
  typed text type := accept_onto agrees bound text (some type) true
  logical text location := accept_onto agrees bound text (some ⟨.logical, location⟩) true
  argument text offset expected := argument_onto agrees bound text offset expected
  reader text args expected := by
    have same := argument_onto agrees bound text args.offset expected
    unfold SameOnto readExpression at *
    rw [same]
  assignments text := assignFrom_onto agrees bound (.ofText text) (text.length + 1)

def remembering (now before : Exact) : Repository Exact :=
  { Repository.ofMesh Mesh.tetrahedron with
    fields := OrderedMap.empty.insert "p" (.scalar .volume [now])
    history := OrderedMap.empty.insert "p" [.scalar .volume [before]] }

theorem remembering_agrees (now before now' before' : Exact) :
    (remembering now before).AgreesBut "p" (remembering now' before') where
  mesh := rfl
  fields name other := by
    unfold remembering
    simp only [OrderedMap.get?_insert, Ne.symm other, if_false]
  history name other := by
    unfold remembering
    simp only [OrderedMap.get?_insert, Ne.symm other, if_false]
  tables := rfl
  foreign := rfl
  time := rfl
  timeStep := rfl
  meshPhi := rfl

/-- The derivative of the variable is zero, the one of the field is not. -/
theorem variables_hide_fields_remembering :
    let one : Exact := Scalar.one
    let two : Exact := Scalar.ofNat 2
    let plain := ofRepository (remembering two one)
    let session := plain.setVariable "p" (.scalar .volume [two])
    let text := "ddt(p) + clamp(p - oldTime(p), 0, 1)".toList
    (session.bindings.get? "p").isSome = true ∧
      (remembering two one).AgreesBut "p" (remembering one one) ∧
      (plain.evaluate text).2.toOption ≠ ((plain.onto (remembering one one)).evaluate text).2.toOption ∧
      (session.evaluate text).2.isOk = true ∧
      session.BlindTo (remembering one one) := by
  refine ⟨by decide +kernel, remembering_agrees _ _ _ _, by decide +kernel, by decide +kernel, ?_⟩
  exact variables_hide_fields _ _ "p" (by decide +kernel) (remembering_agrees _ _ _ _)

end Session

end MeshLang
