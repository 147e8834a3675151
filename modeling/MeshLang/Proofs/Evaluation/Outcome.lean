import MeshLang.Evaluation

namespace MeshLang

def Meets {ε β : Type} (P : β → Prop) (E : ε → Prop) : Except ε β → Prop
  | .ok answer => P answer
  | .error error => E error

namespace Meets

variable {ε δ β γ : Type} {P : β → Prop} {Q : γ → Prop} {E : ε → Prop}

theorem ok {answer : β} (holds : P answer) : Meets P E (.ok answer) := holds

theorem error {error : ε} (holds : E error) : Meets P E (.error error) := holds

theorem of_ok {result : Except ε β} {answer : β} (meets : Meets P E result)
    (same : result = .ok answer) : P answer := by
  subst same
  exact meets

theorem of_error {result : Except ε β} {error : ε} (meets : Meets P E result)
    (same : result = .error error) : E error := by
  subst same
  exact meets

theorem any {result : Except ε β} : Meets (fun _ => True) (fun _ => True) result := by
  cases result <;> trivial

theorem weaken {R : β → Prop} {result : Except ε β} (meets : Meets P E result)
    (implies : ∀ answer, P answer → R answer) : Meets R E result := by
  cases result with
  | ok answer => exact implies answer meets
  | error error => exact meets

theorem widen {F : ε → Prop} {result : Except ε β} (meets : Meets P E result)
    (admits : ∀ error, E error → F error) : Meets P F result := by
  cases result with
  | ok answer => exact meets
  | error error => exact admits error meets

theorem and {R : β → Prop} {result : Except ε β} (meets : Meets P E result)
    (other : Meets R E result) : Meets (fun answer => P answer ∧ R answer) E result := by
  cases result with
  | ok answer => exact ⟨meets, other⟩
  | error error => exact meets

theorem within {result : Except ε β} (answers : Meets P (fun _ => True) result)
    (failures : Meets (fun _ => True) E result) : Meets P E result := by
  cases result with
  | ok answer => exact answers
  | error error => exact failures

theorem bind {first : Except ε β} {next : β → Except ε γ} (meets : Meets P E first)
    (rest : ∀ answer, P answer → Meets Q E (next answer)) : Meets Q E (first >>= next) := by
  cases first with
  | ok answer => exact rest answer meets
  | error error => exact meets

theorem map {f : γ → β} {result : Except ε γ} (meets : Meets (fun answer => P (f answer)) E result) :
    Meets P E (result.map f) := by
  cases result with
  | ok answer => exact meets
  | error error => exact meets

theorem mapError {F : δ → Prop} {f : ε → δ} {result : Except ε β}
    (meets : Meets P (fun error => F (f error)) result) : Meets P F (result.mapError f) := by
  cases result with
  | ok answer => exact meets
  | error error => exact meets

theorem foldlM {step : β → γ → Except ε β} {items : List γ}
    (keeps : ∀ sofar, P sofar → ∀ item ∈ items, Meets P E (step sofar item)) {start : β}
    (holds : P start) : Meets P E (items.foldlM step start) := by
  induction items generalizing start with
  | nil => exact .ok holds
  | cons item items ih =>
    refine .bind (keeps start holds item List.mem_cons_self) fun next held => ?_
    exact ih (fun sofar so other member => keeps sofar so other (List.mem_cons_of_mem _ member)) held

end Meets

namespace Run

variable {α β γ : Type} {P : β → Prop} {Q : γ → Prop} {E : EvalError α → Prop}

/-- The answer satisfies `P`, or the failure `E`. -/
def Delivers (P : β → Prop) (E : EvalError α → Prop) : EStateM.Result (EvalError α) State β → Prop
  | .ok answer _ => P answer
  | .error error _ => E error

/-- From every state, every answer satisfies `P` and every failure `E`. -/
def Meets (P : β → Prop) (E : EvalError α → Prop) (run : Run α β) : Prop :=
  ∀ state, Delivers P E (run state)

theorem Delivers.fromCurrent {next : Token → Run α γ} {state : State}
    (rest : Delivers Q E (next state.cursor.current state)) :
    Delivers Q E ((Run.current >>= next) state) :=
  rest

namespace Meets

theorem of_ok {run : Run α β} {state after : State} {answer : β} (meets : Meets P E run)
    (same : run state = .ok answer after) : P answer := by
  have delivered := meets state
  rw [same] at delivered
  exact delivered

theorem of_error {run : Run α β} {state after : State} {error : EvalError α}
    (meets : Meets P E run) (same : run state = .error error after) : E error := by
  have delivered := meets state
  rw [same] at delivered
  exact delivered

theorem pure {answer : β} (holds : P answer) : Meets P E (Pure.pure answer : Run α β) :=
  fun _ => holds

theorem throw {error : EvalError α} (holds : E error) : Meets P E (throw error : Run α β) :=
  fun _ => holds

theorem bind {first : Run α β} {next : β → Run α γ} (meets : Meets P E first)
    (rest : ∀ answer, P answer → Meets Q E (next answer)) : Meets Q E (first >>= next) := by
  intro state
  have delivered := meets state
  cases same : first state with
  | ok answer after =>
    rw [same] at delivered
    have further := rest answer delivered after
    simpa only [Bind.bind, EStateM.bind, same] using further
  | error error after =>
    rw [same] at delivered
    simp only [Bind.bind, EStateM.bind, same]
    exact delivered

theorem discarded {run : Run α β} (meets : Meets P E run) :
    Meets (fun _ => True) E (discard run) :=
  meets.bind fun _ _ => pure trivial

theorem lift {result : Except (EvalError α) β} (meets : MeshLang.Meets P E result) :
    Meets P E (Run.lift result) := by
  cases result with
  | ok answer => exact fun _ => meets
  | error error => exact fun _ => meets

theorem liftField {result : Except (FieldError α) β}
    (meets : MeshLang.Meets P (fun error => E (.field error)) result) :
    Meets P E (Run.liftField result) :=
  lift meets.mapError

theorem attempt {run : Run α β} (meets : Meets P E run) :
    Meets (MeshLang.Meets P E) E (Run.attempt run) := by
  intro state
  have delivered := meets state
  simp only [Run.attempt]
  cases same : run state with
  | ok answer after =>
    rw [same] at delivered
    exact delivered
  | error error after =>
    rw [same] at delivered
    exact delivered

theorem get : Meets (fun _ => True) E (MonadState.get : Run α State) := fun _ => trivial

theorem modified {f : State → State} : Meets (fun _ => True) E (modify f : Run α Unit) :=
  fun _ => trivial

theorem set {state : State} : Meets (fun _ => True) E (MonadStateOf.set state : Run α PUnit) :=
  fun _ => trivial

theorem current : Meets (fun _ => True) E (Run.current : Run α Token) := fun _ => trivial

theorem advance : Meets (fun _ => True) E (Run.advance : Run α Token) := fun _ => trivial

theorem jump {cursor : Cursor} : Meets (fun _ => True) E (Run.jump cursor : Run α Unit) :=
  fun _ => trivial

theorem note {options : Options} {rule : String} :
    Meets (fun _ => True) E (Run.note options rule : Run α Unit) := by
  intro state
  unfold Run.note
  cases options.trace <;> trivial

end Meets

end Run

end MeshLang
