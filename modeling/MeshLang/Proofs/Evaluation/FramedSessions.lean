import MeshLang.Proofs.Evaluation.FramedSteps
import MeshLang.Proofs.Lockstep.Sessions

namespace MeshLang

variable {α : Type}

namespace Session

variable [Scalar α]

def readingWith (env : Environment α) (draw : Draw α) (whole : Bool) : Run α (Value α) := do
  let v ← Run.expressionWith env draw
  if whole then Run.finish v
  return v

def acceptWith (draw : Draw α) (session : Session α) (text : List Char)
    (expected : Option ValueType) (whole : Bool) : Session α × Except (EvalError α) (Value α) :=
  session.cleared.conclude expected
    (readingWith session.environment draw whole (session.cleared.stateAt (.ofText text)))

def argumentWith (draw : Draw α) (session : Session α) (text : List Char) (start : Nat)
    (expected : Option ValueType) : Session α × Except (EvalError α) (Value α × Nat) :=
  let env := session.environment
  let recurse := Run.evaluateWith env draw (text.length + 1)
  match Run.argumentAt env recurse text start expected (session.stateAt (.ofText text)) with
  | .error error state => (session.resume state, .error error)
  | .ok answer state => (session.resume state, .ok answer)

def assignFromWith (draw : Draw α) (session : Session α) (cursor : Cursor) :
    Nat → Session α × Except (EvalError α) Unit
  | 0 => (session, .error .exhausted)
  | rounds + 1 =>
    match cursor.next? with
    | none => (session, .ok ())
    | some (name, afterName) =>
      if name.kind ≠ .word then (session, .error (name.wanted ["identifier"]))
      else
        let (sign, afterSign) := afterName.read
        if sign.kind ≠ .assign then (session, .error (sign.wanted ["'='"]))
        else
          match Run.expressionWith session.environment draw (session.stateAt afterSign) with
          | .error error state => (session.resume state, .error error)
          | .ok v state =>
            let session := (session.resume state).setVariable name.word v
            match state.cursor.next? with
            | none => (session, .ok ())
            | some (separator, rest) =>
              if separator.kind = .semicolon then assignFromWith draw session rest rounds
              else (session, .error (separator.wanted ["';'"]))

theorem acceptWith_unseeded (session : Session α) (text : List Char) (expected : Option ValueType)
    (whole : Bool) :
    acceptWith (Run.unseeded session.environment) session text expected whole =
      session.accept text expected whole := by
  rw [accept_eq, acceptWith]
  unfold readingWith reading
  rw [Run.expressionWith_unseeded]

theorem argumentWith_unseeded (session : Session α) (text : List Char) (start : Nat)
    (expected : Option ValueType) :
    argumentWith (Run.unseeded session.environment) session text start expected =
      session.argument text start expected := by
  unfold argumentWith
  dsimp only
  rw [Run.evaluateWith_unseeded]
  rfl

theorem assignFromWith_unseeded (session : Session α) (cursor : Cursor) (rounds : Nat) :
    assignFromWith (Run.unseeded session.environment) session cursor rounds =
      session.assignFrom cursor rounds := by
  induction rounds generalizing session cursor with
  | zero => rfl
  | succ rounds ih =>
    unfold assignFromWith assignFrom
    simp only [Run.expressionWith_unseeded]
    have further (name : String) (v : Value α) (state : State) (rest : Cursor) :=
      ih ((session.resume state).setVariable name v) rest
    simp only [← further]
    rfl

/-- Two sessions from which evaluations keep to a frame, the second one with a registry made of the one
of the first. `slots` says whether their results and positions are the same as well. -/
structure Related (frame : Frame) (extend : Registry α → Registry α) (slots : Prop)
    (origins : List Nat) (session session' : Session α) : Prop where
  repository : session'.repository = session.repository
  registry : session'.registry = extend session.registry
  options : session'.options = session.options
  bindings : session'.bindings = session.bindings
  stop : session'.stop = session.stop
  states : ∀ cursor, frame.holds origins (session.stateAt cursor) (session'.stateAt cursor)
  slots : slots → session'.result = session.result ∧ session'.position = session.position

inductive Concludes {β : Type} (frame : Frame) (lenient : Prop) (extend : Registry α → Registry α)
    (slots : Prop) (origins : List Nat) :
    Session α × Except (EvalError α) β → Session α × Except (EvalError α) β → Prop where
  | same {after after' : Session α} {answer : Except (EvalError α) β} :
      Related frame extend slots origins after after' →
      Concludes frame lenient extend slots origins (after, answer) (after', answer)
  | excused {after : Session α} {error : EvalError α}
      {other : Session α × Except (EvalError α) β} : lenient →
      Concludes frame lenient extend slots origins (after, .error error) other

variable {frame : Frame} {lenient slots : Prop} {extend : Registry α → Registry α}
  {origins : List Nat} {session session' : Session α} {draw draw' : Draw α}

namespace Related

omit [Scalar α] in
theorem environment (related : Related frame extend slots origins session session') :
    session'.environment = session.environment.withRegistry (extend session.registry) := by
  unfold Session.environment Environment.withRegistry
  rw [related.repository, related.registry, related.options, related.bindings]

omit [Scalar α] in
theorem resume (related : Related frame extend slots origins session session') {state state' : State}
    (holds : frame.holds origins state state') :
    Related frame extend slots origins (session.resume state) (session'.resume state') where
  repository := related.repository
  registry := related.registry
  options := related.options
  bindings := related.bindings
  stop := related.stop
  states cursor := frame.moved holds cursor
  slots same := by
    refine ⟨(related.slots same).1, ?_⟩
    show state'.cursor.current.offset = state.cursor.current.offset
    rw [frame.cursor holds]

omit [Scalar α] in
theorem setVariable (related : Related frame extend slots origins session session') (name : String)
    (v : Value α) :
    Related frame extend slots origins (session.setVariable name v) (session'.setVariable name v) where
  repository := related.repository
  registry := related.registry
  options := related.options
  bindings := congrArg (OrderedMap.insert · name v) related.bindings
  stop := related.stop
  states := related.states
  slots := related.slots

omit [Scalar α] in
theorem cleared (related : Related frame extend slots origins session session') :
    Related frame extend slots [] session.cleared session'.cleared where
  repository := related.repository
  registry := related.registry
  options := related.options
  bindings := related.bindings
  stop := related.stop
  states cursor := frame.within (related.states cursor) []
  slots same := ⟨rfl, (related.slots same).2⟩

omit [Scalar α] in
theorem shape (related : Related frame extend slots origins session session')
    (expected : Option ValueType) (v : Value α) (stop : Nat) :
    session'.shape expected v stop = session.shape expected v stop := by
  unfold Session.shape
  rw [related.environment, related.options, related.repository]
  rfl

end Related

omit [Scalar α] in
theorem conclude_related (related : Related frame extend slots [] session session')
    (expected : Option ValueType) {result other : EStateM.Result (EvalError α) State (Value α)}
    (ends : frame.Ends lenient [] result other) :
    Concludes frame lenient extend slots [] (session.conclude expected result)
      (session'.conclude expected other) := by
  cases ends with
  | excused may => exact .excused may
  | error holds => exact .same (related.resume holds)
  | @ok v state state' holds =>
    have resumed := related.resume holds
    unfold conclude
    dsimp only
    rw [frame.cursor holds, resumed.shape]
    cases (session.resume state).shape expected v state.cursor.offset with
    | error error => exact .same resumed
    | ok w =>
      refine .same ⟨resumed.repository, resumed.registry, resumed.options, resumed.bindings, rfl,
        resumed.states, ?_⟩
      exact fun same => ⟨rfl, (resumed.slots same).2⟩

theorem readingWith_follows {env : Environment α} {registry : Registry α}
    (admits : frame.Admits lenient env registry draw draw') (whole : Bool) :
    frame.Follows lenient (readingWith env draw whole)
      (readingWith (env.withRegistry registry) draw' whole) := by
  refine admits.expression.bind fun v => ?_
  dsimp only
  split
  · exact (Frame.Follows.finish v).bind fun _ => .pure v
  · exact .pure v

theorem acceptWith_related (related : Related frame extend slots origins session session')
    (admits : frame.Admits lenient session.environment (extend session.registry) draw draw')
    (text : List Char) (expected : Option ValueType) (whole : Bool) :
    Concludes frame lenient extend slots [] (session.acceptWith draw text expected whole)
      (session'.acceptWith draw' text expected whole) := by
  have reads := readingWith_follows admits whole
  rw [← related.environment] at reads
  exact conclude_related related.cleared expected (reads.ends (related.cleared.states _))

theorem argumentWith_related (related : Related frame extend slots origins session session')
    (admits : frame.Admits lenient session.environment (extend session.registry) draw draw')
    (text : List Char) (start : Nat) (expected : Option ValueType) :
    Concludes frame lenient extend slots origins (session.argumentWith draw text start expected)
      (session'.argumentWith draw' text start expected) := by
  have asked := (admits.evaluate (text.length + 1)).argumentAt session.environment
    (extend session.registry) text start expected
  rw [← related.environment] at asked
  have ends := asked.ends (related.states (.ofText text))
  unfold argumentWith
  dsimp only
  generalize Run.argumentAt session.environment _ _ _ _ _ = result at ends ⊢
  generalize Run.argumentAt session'.environment _ _ _ _ _ = other at ends ⊢
  cases ends with
  | ok holds => exact .same (related.resume holds)
  | error holds => exact .same (related.resume holds)
  | excused may => exact .excused may

theorem assignFromWith_related (related : Related frame extend slots origins session session')
    (admits : frame.Admits lenient session.environment (extend session.registry) draw draw')
    (cursor : Cursor) (rounds : Nat) :
    Concludes frame lenient extend slots origins (session.assignFromWith draw cursor rounds)
      (session'.assignFromWith draw' cursor rounds) := by
  induction rounds generalizing session session' cursor with
  | zero => exact .same related
  | succ rounds ih =>
    unfold assignFromWith
    cases cursor.next? with
    | none => exact .same related
    | some answer =>
      obtain ⟨name, afterName⟩ := answer
      dsimp only
      split
      · exact .same related
      · split
        · exact .same related
        · have reads := admits.expression
          rw [← related.environment] at reads
          have ends := reads.ends (related.states afterName.read.2)
          generalize Run.expressionWith session.environment _ _ = result at ends ⊢
          generalize Run.expressionWith session'.environment _ _ = other at ends ⊢
          cases ends with
          | excused may => exact .excused may
          | error holds => exact .same (related.resume holds)
          | @ok v state state' holds =>
            have assigned := (related.resume holds).setVariable name.word v
            dsimp only
            rw [frame.cursor holds]
            cases state.cursor.next? with
            | none => exact .same assigned
            | some answer =>
              dsimp only
              split
              · exact ih assigned ⟨admits.draws, admits.library, admits.plugins⟩ answer.2
              · exact .same assigned

end Session

end MeshLang
