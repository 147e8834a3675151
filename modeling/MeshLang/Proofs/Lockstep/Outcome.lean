import MeshLang.Proofs.Evaluation.Outcome
import MeshLang.Proofs.Lockstep.Places

namespace MeshLang

/-- The failures that two computations may have together, and those of either one that excuse
whatever the other one does. -/
structure Tolerance (ε : Type) where
  shared : ε → Prop
  excused : ε → Prop

namespace Tolerance

variable {ε δ : Type}

def comap (tolerance : Tolerance ε) (f : δ → ε) : Tolerance δ :=
  ⟨fun error => tolerance.shared (f error), fun error => tolerance.excused (f error)⟩

def strict (E : ε → Prop) : Tolerance ε := ⟨E, fun _ => False⟩

end Tolerance

inductive Same {ε β γ : Type} (R : β → γ → Prop) (E : ε → Prop) : Except ε β → Except ε γ → Prop where
  | ok {v : β} {w : γ} : R v w → Same R E (.ok v) (.ok w)
  | error {error : ε} : E error → Same R E (.error error) (.error error)

/-- Two results are alike, or one of them is an excused failure. -/
inductive Agree {ε β γ : Type} (R : β → γ → Prop) (T : Tolerance ε) :
    Except ε β → Except ε γ → Prop where
  | same {result : Except ε β} {other : Except ε γ} : Same R T.shared result other →
      Agree R T result other
  | left {error : ε} {other : Except ε γ} : T.excused error → Agree R T (.error error) other
  | right {result : Except ε β} {error : ε} : T.excused error → Agree R T result (.error error)

namespace Agree

variable {ε δ β γ β' γ' : Type} {R : β → γ → Prop} {Q : β' → γ' → Prop} {T : Tolerance ε}

theorem ok {v : β} {w : γ} (related : R v w) : Agree R T (.ok v) (.ok w) := .same (.ok related)

theorem error {error : ε} (shared : T.shared error) :
    Agree R T (.error error : Except ε β) (.error error : Except ε γ) :=
  .same (.error shared)

theorem refl {P : β → Prop} {E : ε → Prop} {result : Except ε β} (meets : Meets P E result)
    (shares : ∀ error, E error → T.shared error) :
    Agree (fun v w => v = w ∧ P v) T result result := by
  cases result with
  | ok v => exact .ok ⟨rfl, meets⟩
  | error error => exact .error (shares error meets)

theorem diagonal_iff {P : β → Prop} {E : ε → Prop} {result : Except ε β} :
    Agree (fun v w => v = w ∧ P v) (.strict E) result result ↔ Meets P E result := by
  refine ⟨fun agree => ?_, fun meets => refl meets fun _ shared => shared⟩
  cases result with
  | ok v =>
    cases agree with
    | same related => cases related with | ok both => exact both.2
  | error error =>
    cases agree with
    | same related => cases related with | error shared => exact shared
    | left never | right never => exact never.elim

theorem weaken {S : β → γ → Prop} {result : Except ε β} {other : Except ε γ}
    (agree : Agree R T result other) (implies : ∀ v w, R v w → S v w) : Agree S T result other := by
  rcases agree with (related | shared) | excused | excused
  · exact .ok (implies _ _ related)
  · exact .error shared
  · exact .left excused
  · exact .right excused

theorem widen {U : Tolerance ε} {result : Except ε β} {other : Except ε γ}
    (agree : Agree R T result other) (shares : ∀ error, T.shared error → U.shared error)
    (excuses : ∀ error, T.excused error → U.excused error) : Agree R U result other := by
  rcases agree with (related | shared) | excused | excused
  · exact .ok related
  · exact .error (shares _ shared)
  · exact .left (excuses _ excused)
  · exact .right (excuses _ excused)

theorem bind {first : Except ε β} {first' : Except ε γ} {next : β → Except ε β'}
    {next' : γ → Except ε γ'} (agree : Agree R T first first')
    (rest : ∀ v w, R v w → Agree Q T (next v) (next' w)) :
    Agree Q T (first >>= next) (first' >>= next') := by
  rcases agree with (related | shared) | excused | excused
  · exact rest _ _ related
  · exact .error shared
  · exact .left excused
  · exact .right excused

theorem map {f : β → β'} {g : γ → γ'} {result : Except ε β} {other : Except ε γ}
    (agree : Agree R T result other) (related : ∀ v w, R v w → Q (f v) (g w)) :
    Agree Q T (result.map f) (other.map g) := by
  rcases agree with (same | shared) | excused | excused
  · exact .ok (related _ _ same)
  · exact .error shared
  · exact .left excused
  · exact .right excused

theorem mapError {U : Tolerance δ} {f : ε → δ} {result : Except ε β} {other : Except ε γ}
    (agree : Agree R (U.comap f) result other) :
    Agree R U (result.mapError f) (other.mapError f) := by
  rcases agree with (same | shared) | excused | excused
  · exact .ok same
  · exact .error shared
  · exact .left excused
  · exact .right excused

end Agree

namespace Run

variable {α β γ β' γ' : Type} {R : β → γ → Prop} {Q : β' → γ' → Prop}
  {T : Tolerance (EvalError α)} {registry : Registry α} {start : Cursor}

/-- Two ends of steps: related answers or a shared failure in one state, or an excused failure. What the
state has to be like may depend on whether there is an answer. -/
inductive Ends (goal : Bool → State → Prop) (R : β → γ → Prop) (T : Tolerance (EvalError α)) :
    EStateM.Result (EvalError α) State β → EStateM.Result (EvalError α) State γ → Prop where
  | ok {v : β} {w : γ} {state : State} : R v w → goal true state →
      Ends goal R T (.ok v state) (.ok w state)
  | error {error : EvalError α} {state : State} : T.shared error → goal false state →
      Ends goal R T (.error error state) (.error error state)
  | left {error : EvalError α} {state : State} {other : EStateM.Result (EvalError α) State γ} :
      T.excused error → Ends goal R T (.error error state) other
  | right {result : EStateM.Result (EvalError α) State β} {error : EvalError α} {state : State} :
      T.excused error → Ends goal R T result (.error error state)

structure Lands (registry : Registry α) (place : Cursor) (origins : List Nat) (answered : Bool)
    (after : State) : Prop where
  reaches : registry.Reaches place after.cursor
  origins : after.origins = origins
  base : answered = true → after.cursor.base = place.base

abbrev Onward (registry : Registry α) (before : State) : Bool → State → Prop :=
  Lands registry before.cursor before.origins

theorem Lands.trans {place : Cursor} {origins : List Nat} {answered : Bool} {state after : State}
    (first : Lands registry place origins true state) (rest : Onward registry state answered after) :
    Lands registry place origins answered after :=
  ⟨first.reaches.trans rest.reaches, rest.origins.trans first.origins,
    fun answer => (rest.base answer).trans (first.base rfl)⟩

namespace Onward

variable {state : State} {answered : Bool}

theorem refl : Onward registry state answered state := ⟨.refl, rfl, fun _ => rfl⟩

theorem advance : Onward registry state answered { state with cursor := state.cursor.advance } :=
  ⟨.step, rfl, fun _ => Cursor.advance_base _⟩

end Onward

def Agree (registry : Registry α) (start : Cursor) (R : β → γ → Prop) (T : Tolerance (EvalError α))
    (run : Run α β) (other : Run α γ) : Prop :=
  ∀ state, registry.Reaches start state.cursor →
    Ends (Onward registry state) R T (run state) (other state)

namespace Ends

variable {goal : Bool → State → Prop}

theorem mono {further : Bool → State → Prop} {result : EStateM.Result (EvalError α) State β}
    {other : EStateM.Result (EvalError α) State γ} (ends : Ends goal R T result other)
    (onward : ∀ answered state, goal answered state → further answered state) :
    Ends further R T result other := by
  cases ends with
  | ok related at_goal => exact .ok related (onward _ _ at_goal)
  | error shared at_goal => exact .error shared (onward _ _ at_goal)
  | left excused => exact .left excused
  | right excused => exact .right excused

theorem fromCurrent {next : Token → Run α β} {next' : Token → Run α γ} {state : State}
    (rest : Ends goal R T (next state.cursor.current state) (next' state.cursor.current state)) :
    Ends goal R T ((Run.current >>= next) state) ((Run.current >>= next') state) :=
  rest

theorem bind {further : Bool → State → Prop} {first : Run α β} {first' : Run α γ} {next : β → Run α β'}
    {next' : γ → Run α γ'} {state : State} (ends : Ends goal R T (first state) (first' state))
    (stops : ∀ after, goal false after → further false after)
    (rest : ∀ v w after, R v w → goal true after → Ends further Q T (next v after) (next' w after)) :
    Ends further Q T ((first >>= next) state) ((first' >>= next') state) := by
  change Ends further Q T (EStateM.bind first next state) (EStateM.bind first' next' state)
  unfold EStateM.bind
  generalize first state = result at ends
  generalize first' state = other at ends
  cases ends with
  | ok related at_goal => exact rest _ _ _ related at_goal
  | error shared at_goal => exact .error shared (stops _ at_goal)
  | left excused => exact .left excused
  | right excused => exact .right excused

end Ends

namespace Agree

theorem pure {v : β} {w : γ} (related : R v w) :
    Agree registry start R T (Pure.pure v : Run α β) (Pure.pure w) :=
  fun _ _ => .ok related .refl

theorem throw {error : EvalError α} (shared : T.shared error) :
    Agree registry start R T (throw error : Run α β) (throw error : Run α γ) :=
  fun _ _ => .error shared .refl

theorem bind {first : Run α β} {first' : Run α γ} {next : β → Run α β'} {next' : γ → Run α γ'}
    (agree : Agree registry start R T first first')
    (rest : ∀ v w, R v w → Agree registry start Q T (next v) (next' w)) :
    Agree registry start Q T (first >>= next) (first' >>= next') := by
  intro state reached
  refine (agree state reached).bind (fun _ onward => onward) fun v w after related onward => ?_
  exact (rest v w related after (reached.trans onward.reaches)).mono fun _ _ => onward.trans

theorem andThen {first : Run α β} {next : β → Run α β'} {next' : β → Run α γ'}
    (agree : Agree registry start Eq T first first)
    (rest : ∀ v, Agree registry start Q T (next v) (next' v)) :
    Agree registry start Q T (first >>= next) (first >>= next') :=
  agree.bind fun v _ same => same ▸ rest v

theorem discarded {run : Run α β} (agree : Agree registry start Eq T run run) :
    Agree registry start Eq T (discard run) (discard run) :=
  agree.andThen fun _ => pure rfl

theorem lift {result : Except (EvalError α) β} {other : Except (EvalError α) γ}
    (agree : MeshLang.Agree R T result other) :
    Agree registry start R T (Run.lift result) (Run.lift other) := by
  intro state _
  rcases agree with (related | shared) | excused | excused
  · exact .ok related .refl
  · exact .error shared .refl
  · exact .left excused
  · exact .right excused

theorem liftField {result : Except (FieldError α) β} {other : Except (FieldError α) γ}
    (agree : MeshLang.Agree R (T.comap .field) result other) :
    Agree registry start R T (Run.liftField result) (Run.liftField other) :=
  lift agree.mapError

theorem fromState {next : State → Run α β} {next' : State → Run α γ}
    (rest : ∀ state, Agree registry start R T (next state) (next' state)) :
    Agree registry start R T (get >>= next) (get >>= next') :=
  fun state reached => rest state state reached

theorem current : Agree registry start Eq T (Run.current : Run α Token) Run.current :=
  fun _ _ => .ok rfl .refl

theorem advance : Agree registry start Eq T (Run.advance : Run α Token) Run.advance :=
  fun _ _ => .ok rfl .advance

theorem note {options : Options} {rule : String} :
    Agree registry start Eq T (Run.note options rule : Run α Unit) (Run.note options rule) := by
  intro state _
  unfold Run.note
  cases options.trace with
  | false => exact .ok rfl .refl
  | true => exact .ok rfl ⟨.refl, rfl, fun _ => rfl⟩

end Agree

end Run

end MeshLang
