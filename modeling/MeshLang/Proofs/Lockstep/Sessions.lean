import MeshLang.Proofs.Evaluation.Sessions
import MeshLang.Proofs.Lockstep.Steps

namespace MeshLang.Session

variable {α : Type}

/-- What evaluations go on from, apart from values, is the same in two sessions. -/
structure InStep (session session' : Session α) : Prop where
  stop : session.stop = session'.stop
  position : session.position = session'.position
  origins : session.origins = session'.origins
  generator : session.generator = session'.generator
  trace : session.trace = session'.trace

inductive Ends {β γ : Type} (S : Session α → Session α → Prop) (R : β → γ → Prop)
    (T : Tolerance (EvalError α)) :
    Session α × Except (EvalError α) β → Session α × Except (EvalError α) γ → Prop where
  | ok {after after' : Session α} {v : β} {w : γ} : R v w → S after after' →
      Ends S R T (after, .ok v) (after', .ok w)
  | error {after after' : Session α} {error : EvalError α} : T.shared error → S after after' →
      Ends S R T (after, .error error) (after', .error error)
  | left {after : Session α} {error : EvalError α} {other : Session α × Except (EvalError α) γ} :
      T.excused error → Ends S R T (after, .error error) other
  | right {after' : Session α} {error : EvalError α} {result : Session α × Except (EvalError α) β} :
      T.excused error → Ends S R T result (after', .error error)

theorem Ends.agree {β γ : Type} {S : Session α → Session α → Prop} {R : β → γ → Prop}
    {T : Tolerance (EvalError α)} {result : Session α × Except (EvalError α) β}
    {other : Session α × Except (EvalError α) γ} (ends : Ends S R T result other) :
    Agree R T result.2 other.2 := by
  cases ends with
  | ok related _ => exact .ok related
  | error shared _ => exact .error shared
  | left excused => exact .left excused
  | right excused => exact .right excused

theorem Ends.ended {S : Session α → Session α → Prop} {T : Tolerance (EvalError α)}
    (plain : ∀ error, error.IsPlain → T.shared error) {answer : Except (EvalError α) Unit}
    (isPlain : Meets (fun _ => True) EvalError.IsPlain answer) {after after' : Session α}
    (stay : S after after') : Ends S (fun _ _ => True) T (after, answer) (after', answer) := by
  cases answer with
  | ok => exact .ok trivial stay
  | error error => exact .error (plain error isPlain) stay

theorem InStep.resume {session session' : Session α} (inStep : session.InStep session')
    (state : State) : (session.resume state).InStep (session'.resume state) :=
  ⟨inStep.stop, rfl, rfl, rfl, rfl⟩

theorem InStep.stateAt {session session' : Session α} (inStep : session.InStep session')
    (cursor : Cursor) : session'.stateAt cursor = session.stateAt cursor := by
  unfold Session.stateAt
  rw [inStep.origins, inStep.generator, inStep.trace]

variable [Scalar α] {session session' : Session α} {start : Cursor}
  {R : Value α → Value α → Prop} {T : Tolerance (EvalError α)}

theorem shape_agrees (lockstep : session.environment.Lockstep session'.environment start R T)
    (expected : Option ValueType) {v w : Value α} (related : R v w) (stop : Nat) :
    Agree R T (session.shape expected v stop) (session'.shape expected w stop) := by
  cases expected with
  | none =>
    have sameOptions : session'.options = session.options := lockstep.options.symm
    have sameMesh : session'.repository.mesh = session.repository.mesh := lockstep.mesh.symm
    unfold shape
    rw [sameOptions, sameMesh]
    exact .ok (lockstep.expand v w _ related)
  | some type => exact (lockstep.conform related type 0 stop).weaken fun _ _ both => both.1

theorem reading_agrees (lockstep : session.environment.Lockstep session'.environment start R T)
    (whole : Bool) :
    Run.Agree session.registry start R T (reading session.environment whole)
      (reading session'.environment whole) := by
  apply Run.Agree.bind lockstep.expression
  intro v w related
  dsimp only
  split
  · exact .bind (lockstep.finish related) fun _ _ _ => .pure related
  · exact .pure related

theorem accept_agrees {text : List Char}
    (lockstep : session.environment.Lockstep session'.environment (.ofText text) R T)
    (inStep : session.InStep session') (expected : Option ValueType) (whole : Bool) :
    Ends (fun after after' => after.InStep after' ∧ after.environment = session.environment ∧
        after'.environment = session'.environment ∧ Option.Rel R after.result after'.result) R T
      (session.accept text expected whole) (session'.accept text expected whole) := by
  have cleared : session.cleared.InStep session'.cleared :=
    ⟨inStep.stop, inStep.position, rfl, inStep.generator, inStep.trace⟩
  have ends := reading_agrees lockstep whole (session.cleared.stateAt (.ofText text)) .refl
  rw [accept_eq, accept_eq, cleared.stateAt]
  generalize reading session.environment whole _ = result at ends ⊢
  generalize reading session'.environment whole _ = other at ends ⊢
  cases ends with
  | error shared onward => exact .error shared ⟨cleared.resume _, rfl, rfl, .none⟩
  | left excused => exact .left excused
  | right excused => exact .right excused
  | @ok v w state related onward =>
    have shaped : Agree R T
        ((session.cleared.resume state).shape expected v state.cursor.offset)
        ((session'.cleared.resume state).shape expected w state.cursor.offset) :=
      shape_agrees lockstep expected related _
    unfold conclude
    dsimp only
    generalize (session.cleared.resume state).shape _ _ _ = first at shaped ⊢
    generalize (session'.cleared.resume state).shape _ _ _ = second at shaped ⊢
    rcases shaped with (formed | shared) | excused | excused
    · exact .ok formed ⟨⟨rfl, rfl, rfl, rfl, rfl⟩, rfl, rfl, .some formed⟩
    · exact .error shared ⟨cleared.resume state, rfl, rfl, .none⟩
    · exact .left excused
    · exact .right excused

theorem argument_agrees {text : List Char} {offset : Nat} (expected : Option ValueType)
    (lockstep : session.environment.Lockstep session'.environment
      (.within (session.origins.headD 0) text offset) R T)
    (inStep : session.InStep session') :
    Ends (fun after after' => after.InStep after' ∧ after.environment = session.environment ∧
        after'.environment = session'.environment)
      (fun answer other => R answer.1 other.1 ∧ answer.2 = other.2) T
      (session.argument text offset expected) (session'.argument text offset expected) := by
  have place : Cursor.within ((session.stateAt (.ofText text)).origins.headD 0) text offset =
    .within (session.origins.headD 0) text offset := rfl
  have ends := lockstep.argumentAt (lockstep.evaluate (text.length + 1)) expected place .refl
  rw [argument_eq, argument_eq, inStep.stateAt]
  generalize Run.argumentAt session.environment _ _ _ _ _ = result at ends ⊢
  generalize Run.argumentAt session'.environment _ _ _ _ _ = other at ends ⊢
  cases ends with
  | ok told onward => exact .ok ⟨told.1.1, told.1.2.1⟩ ⟨inStep.resume _, rfl, rfl⟩
  | error shared onward => exact .error shared ⟨inStep.resume _, rfl, rfl⟩
  | left excused => exact .left excused
  | right excused => exact .right excused

theorem assignFrom_agrees {B : OrderedMap String (Value α) → OrderedMap String (Value α) → Prop}
    (lockstep : ∀ bindings bindings', B bindings bindings' →
      { session.environment with bindings }.Lockstep
        { session'.environment with bindings := bindings' } start R T)
    (grows : ∀ bindings bindings' name v w, B bindings bindings' → R v w →
      B (bindings.insert name v) (bindings'.insert name w))
    (rounds : Nat) (holds : B session.bindings session'.bindings) {cursor : Cursor}
    (reached : session.registry.Reaches start cursor) (inStep : session.InStep session') :
    Ends (fun after after' => after.InStep after' ∧ B after.bindings after'.bindings ∧
        after.environment = { session.environment with bindings := after.bindings } ∧
        after'.environment = { session'.environment with bindings := after'.bindings })
      (fun _ _ => True) T (session.assignFrom cursor rounds) (session'.assignFrom cursor rounds) := by
  have plain := (lockstep _ _ holds).plain
  induction rounds generalizing session session' cursor with
  | zero => exact .error (plain _ trivial) ⟨inStep, holds, rfl, rfl⟩
  | succ rounds ih =>
    rcases assignFrom_cases α cursor with ⟨answer, isPlain, ends⟩ | ⟨-, -, evaluates⟩
    · rw [ends, ends]
      exact .ended plain isPlain ⟨inStep, holds, rfl, rfl⟩
    · have run : Run.Agree session.registry start R T (Run.expression session.environment)
          (Run.expression session'.environment) := (lockstep _ _ holds).expression
      have ends := run (session.stateAt cursor.advance.advance) reached.advance.advance
      rw [evaluates, evaluates, inStep.stateAt]
      generalize Run.expression session.environment _ = result at ends ⊢
      generalize Run.expression session'.environment _ = other at ends ⊢
      cases ends with
      | error shared onward => exact .error shared ⟨inStep.resume _, holds, rfl, rfl⟩
      | left excused => exact .left excused
      | right excused => exact .right excused
      | @ok v w state related onward =>
        have grown := grows _ _ cursor.current.word v w holds related
        have resumed : ((session.resume state).setVariable cursor.current.word v).InStep
            ((session'.resume state).setVariable cursor.current.word w) :=
          ⟨inStep.stop, rfl, rfl, rfl, rfl⟩
        rw [assigned, assigned]
        rcases separated_cases α state.cursor with ⟨answer, isPlain, ends⟩ | ⟨-, further⟩
        · rw [ends, ends]
          exact .ended plain isPlain ⟨resumed, grown, rfl, rfl⟩
        · rw [further, further]
          exact @ih ((session.resume state).setVariable cursor.current.word v)
            ((session'.resume state).setVariable cursor.current.word w) lockstep grown _
            ((reached.advance.advance.trans onward.1).advance) resumed

end MeshLang.Session
