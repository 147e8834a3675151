import MeshLang.Proofs.Evaluation.Preservation
import MeshLang.Proofs.Token.Advance

namespace MeshLang.Session

variable {α : Type} [Scalar α] {session : Session α} {P : Value α → Prop} {E : EvalError α → Prop}

def reading (env : Environment α) (whole : Bool) : Run α (Value α) := do
  let v ← Run.expression env
  if whole then Run.finish v
  return v

/-- What a session makes of the end of an evaluation. -/
def conclude (session : Session α) (expected : Option ValueType) :
    EStateM.Result (EvalError α) State (Value α) → Session α × Except (EvalError α) (Value α)
  | .error error state => (session.resume state, .error error)
  | .ok v state =>
    match (session.resume state).shape expected v state.cursor.offset with
    | .error error => (session.resume state, .error error)
    | .ok v =>
      ({ session.resume state with result := some v, stop := state.cursor.offset }, .ok v)

def cleared (session : Session α) : Session α := { session with result := none, origins := [] }

theorem accept_eq (session : Session α) (text : List Char) (expected : Option ValueType) (whole : Bool) :
    session.accept text expected whole =
      session.cleared.conclude expected
        (reading session.environment whole (session.cleared.stateAt (.ofText text))) := by
  unfold accept conclude reading
  rfl

def finished {β : Type} (session : Session α) :
    EStateM.Result (EvalError α) State β → Session α × Except (EvalError α) β
  | .ok answer state => (session.resume state, .ok answer)
  | .error error state => (session.resume state, .error error)

theorem argument_eq (session : Session α) (text : List Char) (start : Nat) (expected : Option ValueType) :
    session.argument text start expected =
      session.finished (Run.argumentAt session.environment
        (Run.evaluate session.environment (text.length + 1)) text start expected
        (session.stateAt (.ofText text))) := by
  unfold argument
  dsimp only
  cases Run.argumentAt session.environment _ text start expected _ <;> rfl

theorem shape_meets (closed : session.environment.Closed P E) (expected : Option ValueType)
    {v : Value α} (holds : P v) (stop : Nat) :
    Meets (fun w => P w ∧ w.location.isSome ∧ ∀ type, expected = some type → w.type? = some type) E
      (session.shape expected v stop) := by
  cases expected with
  | none =>
    refine .ok ⟨closed.expand v session.options.defaultLocation holds, ?_, by simp⟩
    unfold Value.broadcastTo Value.isConstant Value.uniform
    cases found : v.location with
    | none => rfl
    | some location => simp [found]
  | some type =>
    refine Meets.weaken (closed.conform holds type 0 stop) fun w both => ⟨both.1, ?_, ?_⟩
    · cases found : w.location with
      | none => simp [Value.type?, found] at both
      | some location => rfl
    · intro other same
      cases same
      exact both.2

theorem reading_meets (closed : session.environment.Closed P E) (whole : Bool) :
    Run.Meets P E (reading session.environment whole) := by
  apply Run.Meets.bind closed.expression
  intro v holds
  dsimp only
  split
  · exact .bind (closed.finish v) fun _ _ => .pure holds
  · exact .pure holds

theorem accept_meets (closed : session.environment.Closed P E) (text : List Char)
    (expected : Option ValueType) (whole : Bool) :
    Meets (fun w => P w ∧ w.location.isSome ∧ ∀ type, expected = some type → w.type? = some type) E
      (session.accept text expected whole).2 := by
  have reads := reading_meets closed whole
  rw [accept_eq]
  cases done : reading session.environment whole (session.cleared.stateAt (.ofText text)) with
  | error error state => exact .error (reads.of_error done)
  | ok v state =>
    have shaped := @shape_meets α _ (session.cleared.resume state) P E closed expected v
      (reads.of_ok done) state.cursor.offset
    unfold conclude
    dsimp only
    cases formed : (session.cleared.resume state).shape expected v state.cursor.offset with
    | error refused => exact .error (shaped.of_error formed)
    | ok w => exact .ok (shaped.of_ok formed)

theorem accept_result {text : List Char} {expected : Option ValueType} {whole : Bool} {v : Value α}
    (accepted : (session.accept text expected whole).2 = .ok v) :
    (session.accept text expected whole).1.result = some v := by
  rw [accept_eq] at accepted ⊢
  unfold conclude at accepted ⊢
  split at accepted
  · cases accepted
  · dsimp only at accepted ⊢
    split at accepted
    · cases accepted
    · cases accepted
      rfl

theorem argument_meets (closed : session.environment.Closed P E) (text : List Char) (start : Nat)
    (expected : Option ValueType) :
    Meets
      (fun answer => P answer.1 ∧ ∀ type, expected = some type → answer.1.type? = some type) E
      (session.argument text start expected).2 := by
  have run := closed.argumentAt (closed.evaluate (text.length + 1)) text start expected
  rw [argument_eq]
  cases done : Run.argumentAt session.environment (Run.evaluate session.environment (text.length + 1))
      text start expected (session.stateAt (.ofText text)) with
  | error error state => exact .error (run.of_error done)
  | ok answer state => exact .ok (run.of_ok done)

def separated (session : Session α) (rounds : Nat) :
    Option (Token × Cursor) → Session α × Except (EvalError α) Unit
  | none => (session, .ok ())
  | some (separator, rest) =>
    if separator.kind = .semicolon then session.assignFrom rest rounds
    else (session, .error (separator.wanted ["';'"]))

def assigned (session : Session α) (name : String) (rounds : Nat) :
    EStateM.Result (EvalError α) State (Value α) → Session α × Except (EvalError α) Unit
  | .error error state => (session.resume state, .error error)
  | .ok v state => ((session.resume state).setVariable name v).separated rounds state.cursor.next?

section Rounds

variable {cursor afterName : Cursor} {name : Token}

theorem assignFrom_unnamed (session : Session α) (found : cursor.next? = some (name, afterName))
    (other : name.kind ≠ .word) (rounds : Nat) :
    session.assignFrom cursor (rounds + 1) = (session, .error (name.wanted ["identifier"])) := by
  rw [assignFrom, found]
  exact if_pos other

theorem assignFrom_unsigned (session : Session α) (found : cursor.next? = some (name, afterName))
    (word : name.kind = .word) (other : afterName.current.kind ≠ .assign) (rounds : Nat) :
    session.assignFrom cursor (rounds + 1) = (session, .error (afterName.current.wanted ["'='"])) := by
  rw [assignFrom, found]
  dsimp only
  rw [if_neg (Decidable.not_not.mpr word)]
  exact if_pos other

theorem assignFrom_named (session : Session α) (found : cursor.next? = some (name, afterName))
    (word : name.kind = .word) (sign : afterName.current.kind = .assign) (rounds : Nat) :
    session.assignFrom cursor (rounds + 1) =
      session.assigned name.word rounds
        (Run.expression session.environment (session.stateAt afterName.advance)) := by
  rw [assignFrom, found]
  dsimp only
  rw [if_neg (Decidable.not_not.mpr word)]
  change (if afterName.current.kind ≠ .assign then _ else _) = _
  rw [if_neg (Decidable.not_not.mpr sign)]
  rfl

variable (α) (cursor)

/-- Whatever the session, assignments end at a place, well or with a plain failure, or a name and a sign
stand there and the expression behind them is evaluated. -/
theorem assignFrom_cases :
    (∃ answer, Meets (fun _ => True) EvalError.IsPlain answer ∧
      ∀ (session : Session α) (rounds : Nat),
        session.assignFrom cursor (rounds + 1) = (session, answer)) ∨
    cursor.current.kind = .word ∧ cursor.advance.current.kind = .assign ∧
      ∀ (session : Session α) (rounds : Nat), session.assignFrom cursor (rounds + 1) =
        session.assigned cursor.current.word rounds
          (Run.expression session.environment (session.stateAt cursor.advance.advance)) := by
  rcases cursor.read_cases with ⟨none, -⟩ | ⟨found, -⟩
  · refine .inl ⟨.ok (), trivial, fun session rounds => ?_⟩
    rw [assignFrom, none]
  · by_cases word : cursor.current.kind = .word
    · by_cases sign : cursor.advance.current.kind = .assign
      · exact .inr ⟨word, sign, fun session => session.assignFrom_named found word sign⟩
      · exact .inl ⟨_, .error Token.wanted_isPlain, fun session => session.assignFrom_unsigned found word sign⟩
    · exact .inl ⟨_, .error Token.wanted_isPlain, fun session => session.assignFrom_unnamed found word⟩

theorem separated_cases :
    (∃ answer, Meets (fun _ => True) EvalError.IsPlain answer ∧
      ∀ (session : Session α) (rounds : Nat),
        session.separated rounds cursor.next? = (session, answer)) ∨
    cursor.current.kind = .semicolon ∧ ∀ (session : Session α) (rounds : Nat),
      session.separated rounds cursor.next? = session.assignFrom cursor.advance rounds := by
  rcases cursor.read_cases with ⟨none, -⟩ | ⟨found, -⟩
  · refine .inl ⟨.ok (), trivial, fun session rounds => ?_⟩
    rw [none, separated]
  · by_cases semicolon : cursor.current.kind = .semicolon
    · refine .inr ⟨semicolon, fun session rounds => ?_⟩
      rw [found, separated, if_pos semicolon]
    · refine .inl ⟨.error (cursor.current.wanted ["';'"]), Token.wanted_isPlain, fun session rounds => ?_⟩
      rw [found, separated, if_neg semicolon]

end Rounds

theorem assignFrom_meets {B : OrderedMap String (Value α) → Prop}
    (closed : ∀ bindings, B bindings → { session.environment with bindings }.Closed P E)
    (grows : ∀ bindings name v, B bindings → P v → B (bindings.insert name v)) (rounds : Nat)
    (holds : B session.bindings) (cursor : Cursor) :
    B (session.assignFrom cursor rounds).1.bindings ∧
      Meets (fun _ => True) E (session.assignFrom cursor rounds).2 := by
  have plain := (closed _ holds).plain
  induction rounds generalizing session cursor with
  | zero => exact ⟨holds, plain _ trivial⟩
  | succ rounds ih =>
    rcases assignFrom_cases α cursor with ⟨answer, isPlain, ends⟩ | ⟨-, -, evaluates⟩
    · rw [ends]
      exact ⟨holds, isPlain.widen plain⟩
    · have run := (closed _ holds).expression
      rw [evaluates]
      cases done : Run.expression session.environment (session.stateAt cursor.advance.advance) with
      | error error state => exact ⟨holds, run.of_error done⟩
      | ok v state =>
        have grown := grows session.bindings cursor.current.word v holds (run.of_ok done)
        rw [assigned]
        rcases separated_cases α state.cursor with ⟨answer, isPlain, ends⟩ | ⟨-, further⟩
        · rw [ends]
          exact ⟨grown, isPlain.widen plain⟩
        · rw [further]
          exact @ih ((session.resume state).setVariable cursor.current.word v) closed grown _

end MeshLang.Session
