import MeshLang.Proofs.Lockstep.Sessions

namespace MeshLang

variable {α : Type}

def Value.Both (P : Value α → Prop) (v w : Value α) : Prop := v = w ∧ P v

theorem Value.Both.same {P : Value α → Prop} {v : Value α} (holds : P v) : Value.Both P v v :=
  ⟨rfl, holds⟩

namespace Agree

variable {P : Value α → Prop} {E : EvalError α → Prop}

theorem both {result : Except (EvalError α) (Value α)} (meets : Meets P E result) :
    Agree (Value.Both P) (.strict E) result result :=
  diagonal_iff.mpr meets

theorem inField {result : Except (FieldError α) (Value α)}
    (meets : Meets P (fun error => E (.field error)) result) :
    Agree (Value.Both P) ((Tolerance.strict E).comap .field) result result :=
  refl meets fun _ shared => shared

theorem relabelled {kind : Kind} {result : Except (FieldError α) (Value α)}
    (meets : Meets (fun v => P (v.relabel kind)) (fun error => E (.field error)) result) :
    Agree (fun v w => Value.Both P (v.relabel kind) (w.relabel kind))
      ((Tolerance.strict E).comap .field) result result := by
  refine (refl meets fun _ shared => shared).weaken fun v w related => ?_
  obtain ⟨rfl, holds⟩ := related
  exact ⟨rfl, holds⟩

end Agree

theorem Run.Ends.delivers {β : Type} {goal : Bool → State → Prop} {P : β → Prop} {E : EvalError α → Prop}
    {result : EStateM.Result (EvalError α) State β}
    (ends : Run.Ends goal (fun v w => v = w ∧ P v) (.strict E) result result) :
    Run.Delivers P E result := by
  cases result with
  | ok v state => cases ends with | ok related _ => exact related.2
  | error error state =>
    cases ends with
    | error shared _ => exact shared
    | left never | right never => exact never.elim

variable [Scalar α]

abbrev Environment.Preserves (env : Environment α) (start : Cursor) (P : Value α → Prop)
    (E : EvalError α → Prop) : Prop :=
  env.Lockstep env start (Value.Both P) (.strict E)

/-- The values that evaluations of a text read from `start` on make of operands, calls, parts,
choices and operators, at whatever depth, one reduction after the other. -/
inductive Environment.Yields (env : Environment α) (start : Cursor) : Value α → Prop where
  | operand {depth : Nat} {before after : State} {v : Value α} :
      env.registry.Reaches start before.cursor →
      Run.operand env (Run.evaluate env depth) before = .ok v after → Yields env start v
  | call {depth : Nat} {cursor : Cursor} {before after : State} {v : Value α} :
      env.registry.Reaches start cursor → cursor.current.kind = .word →
      cursor.advance.current.kind = .openParen → before.cursor = cursor.advance →
      Run.call env (Run.evaluate env depth) cursor.current before = .ok v after → Yields env start v
  | component {before after : State} {v w : Value α} : Yields env start v →
      env.registry.Reaches start before.cursor → Run.component env v before = .ok w after →
      Yields env start w
  | choose {depth : Nat} {before after : State} {v w : Value α} : Yields env start v →
      env.registry.Reaches start before.cursor →
      Run.choose env (Run.evaluate env depth) v before = .ok w after → Yields env start w
  | operation {depth : Nat} {binding : Binding} {before after : State} {v w : Value α} :
      Yields env start v → env.registry.Reaches start before.cursor →
      Run.operation env (Run.evaluate env depth) v binding before = .ok w after → Yields env start w
  | expression {depth bound : Nat} {before after : State} {v : Value α} :
      env.registry.Reaches start before.cursor →
      Run.evaluate env depth none bound before = .ok v after → Yields env start v
  | further {depth bound : Nat} {before after : State} {v w : Value α} : Yields env start v →
      env.registry.Reaches start before.cursor →
      Run.evaluate env depth (some v) bound before = .ok w after → Yields env start w
  | argument {depth offset stop : Nat} {text : List Char} {expected : Option ValueType}
      {before after : State} {v : Value α} :
      env.registry.Reaches start (.within (before.origins.headD 0) text offset) →
      Run.argumentAt env (Run.evaluate env depth) text offset expected before = .ok (v, stop) after →
      Yields env start v

theorem Environment.Yields.holds {env : Environment α} {start : Cursor} {P : Value α → Prop}
    {E : EvalError α → Prop} {v : Value α} (preserves : env.Preserves start P E)
    (yielded : env.Yields start v) : P v := by
  have agrees (depth : Nat) := preserves.evaluate depth
  have delivered {goal : Bool → State → Prop} {result : EStateM.Result (EvalError α) State (Value α)}
      {w : Value α} {after : State}
      (ends : Run.Ends goal (Value.Both P) (.strict E) result result) (made : result = .ok w after) :
      P w := by
    have delivers := Run.Ends.delivers ends
    rw [made] at delivers
    exact delivers
  induction yielded with
  | operand reached made => exact delivered (preserves.operand (agrees _) _ reached) made
  | call reached word parenthesis behind made =>
    exact delivered (preserves.call (agrees _) reached word parenthesis behind) made
  | component _ reached made ih => exact delivered (preserves.component (.same ih) _ reached) made
  | choose _ reached made ih =>
    exact delivered (preserves.choose (agrees _) (.same ih) _ reached) made
  | operation _ reached made ih =>
    exact delivered (preserves.operation (agrees _) (.same ih) _ _ reached) made
  | expression reached made => exact delivered ((agrees _).fresh _ _ reached) made
  | further _ reached made ih => exact delivered ((agrees _).further (.same ih) _ _ reached) made
  | @argument depth _ _ _ expected _ _ _ reached made =>
    have ends := preserves.argumentAt (agrees depth) expected rfl reached
    rw [made] at ends
    cases ends with
    | ok told _ => exact told.1.1.2

namespace Session

variable {session : Session α} {P : Value α → Prop} {E : EvalError α → Prop}

omit [Scalar α] in
theorem InStep.refl (session : Session α) : session.InStep session := ⟨rfl, rfl, rfl, rfl, rfl⟩

theorem accept_preserves {text : List Char} (preserves : session.environment.Preserves (.ofText text) P E)
    (expected : Option ValueType) (whole : Bool) :
    Meets P E (session.accept text expected whole).2 :=
  Agree.diagonal_iff.mp (accept_agrees preserves (.refl session) expected whole).agree

theorem argument_preserves {text : List Char} {offset : Nat}
    (preserves : session.environment.Preserves (.within (session.origins.headD 0) text offset) P E)
    (expected : Option ValueType) :
    Meets (fun answer => P answer.1) E (session.argument text offset expected).2 := by
  have agree := (argument_agrees expected preserves (.refl session)).agree
  generalize (session.argument text offset expected).2 = result at agree
  cases result with
  | ok answer =>
    cases agree with
    | same related => cases related with | ok both => exact both.1.2
  | error error =>
    cases agree with
    | same related => cases related with | error shared => exact shared
    | left never | right never => exact never.elim

theorem assign_preserves {text : List Char}
    (preserves : ∀ bindings : OrderedMap String (Value α),
      (∀ name v, bindings.get? name = some v → P v) →
      { session.environment with bindings }.Preserves (.ofText text) P E)
    (bindings : ∀ name v, session.bindings.get? name = some v → P v) :
    (∀ name v, (session.assign text).1.bindings.get? name = some v → P v) ∧
      Meets (fun _ => True) E (session.assign text).2 := by
  have lockstep (known known' : OrderedMap String (Value α))
      (all : known = known' ∧ ∀ name v, known.get? name = some v → P v) :
      { session.environment with bindings := known }.Lockstep
        { session.environment with bindings := known' } (.ofText text) (Value.Both P) (.strict E) := by
    obtain ⟨rfl, holds⟩ := all
    exact preserves known holds
  have grows (known known' : OrderedMap String (Value α)) (name : String) (v w : Value α)
      (all : known = known' ∧ ∀ name v, known.get? name = some v → P v) (value : Value.Both P v w) :
      known.insert name v = known'.insert name w ∧
        ∀ other u, (known.insert name v).get? other = some u → P u := by
    obtain ⟨rfl, holds⟩ := all
    obtain ⟨rfl, held⟩ := value
    exact ⟨rfl, OrderedMap.forall_insert holds held⟩
  have ends := assignFrom_agrees lockstep grows (text.length + 1) ⟨rfl, bindings⟩ .refl (.refl session)
  change Ends _ _ _ (session.assign text) (session.assign text) at ends
  generalize session.assign text = outcome at ends
  obtain ⟨after, result⟩ := outcome
  cases result with
  | ok _ => cases ends with | ok _ all => exact ⟨all.2.1.2, trivial⟩
  | error error =>
    cases ends with
    | error shared all => exact ⟨all.2.1.2, shared⟩
    | left never | right never => exact never.elim

/-- What all entry points deliver for texts that call none of some functions: values with a property,
also where these are made on the way, and failures in `E` only. -/
structure Delivers (session : Session α) (names : List String) (P : Value α → Prop)
    (E : EvalError α → Prop) : Prop where
  reductions : ∀ bindings : OrderedMap String (Value α),
    (∀ name v, bindings.get? name = some v → P v) → ∀ start v, session.registry.Omits start names →
      { session.environment with bindings }.Yields start v → P v
  whole : ∀ text, session.registry.Omits (.ofText text) names → Meets P E (session.evaluate text).2
  start : ∀ text, session.registry.Omits (.ofText text) names → Meets P E (session.evaluateStart text).2
  typed : ∀ text type, session.registry.Omits (.ofText text) names →
    Meets P E (session.evaluateAs text type).2
  logical : ∀ text location, session.registry.Omits (.ofText text) names →
    Meets P E (session.evaluateLogical text location).2
  argument : ∀ text offset expected,
    session.registry.Omits (.within (session.origins.headD 0) text offset) names →
    Meets (fun answer => P answer.1) E (session.argument text offset expected).2
  assignments : ∀ text, session.registry.Omits (.ofText text) names →
    (∀ name v, (session.assign text).1.bindings.get? name = some v → P v) ∧
      Meets (fun _ => True) E (session.assign text).2

theorem delivers {names : List String}
    (preserves : ∀ bindings : OrderedMap String (Value α),
      (∀ name v, bindings.get? name = some v → P v) → ∀ start, session.registry.Omits start names →
        { session.environment with bindings }.Preserves start P E)
    (bindings : ∀ name v, session.bindings.get? name = some v → P v) :
    session.Delivers names P E := by
  have here {start : Cursor} (omits : session.registry.Omits start names) :
      session.environment.Preserves start P E :=
    preserves session.bindings bindings start omits
  exact {
    reductions := fun other all start _ omits made => made.holds (preserves other all start omits)
    whole := fun _ omits => accept_preserves (here omits) none true
    start := fun _ omits => accept_preserves (here omits) none false
    typed := fun _ type omits => accept_preserves (here omits) (some type) true
    logical := fun _ location omits => accept_preserves (here omits) (some ⟨.logical, location⟩) true
    argument := fun _ _ expected omits => argument_preserves (here omits) expected
    assignments := fun _ omits =>
      assign_preserves (fun other all => preserves other all _ omits) bindings }

end Session

end MeshLang
