import MeshLang.Evaluation
import MeshLang.Proofs.Plugin.Bounded

namespace MeshLang

abbrev Draw (α : Type) := Bool → Run α (Value α)

namespace Run

variable {α : Type} [Scalar α]

def unseeded (env : Environment α) : Draw α := fun isNormal => random env isNormal none

def callBuiltinWith (env : Environment α) (draw : Draw α) (recurse : Recursion α) (name : Token) :
    Builtin → Run α (Value α)
  | .random isNormal false => do
    match ← seedArgument with
    | some seed => random env isNormal (some seed)
    | none => draw isNormal
  | builtin => callBuiltin env recurse name builtin

def callWith (env : Environment α) (draw : Draw α) (recurse : Recursion α) (name : Token) :
    Run α (Value α) :=
  match Builtin.ofName? name.word with
  | some builtin => do
    let value ← callBuiltinWith env draw recurse name builtin
    note env.options s!"{name.word}(...) -> {value.describe}"
    return value
  | none =>
    match env.repository.tables.get? name.word with
    | some table => callTable env recurse name table
    | none =>
      match env.repository.foreign.get? name.word with
      | some region => do
        let (field, old) ← foreignArgument
        lift (env.applyForeign region name field old)
      | none =>
        match env.registry.get? name.word with
        | some plugin => callPlugin env recurse name plugin
        | none => throw (.unknownFunction name.word)

def nameWith (env : Environment α) (draw : Draw α) (recurse : Recursion α) : Run α (Value α) := do
  let following ← second
  let token ← advance
  if following = .openParen then callWith env draw recurse token
  else if token.word = "unitTensor" then return .constantTensor .tensor Mat3.identity
  else return env.options.adopt (← lift (env.lookup token.word))

def operandWith (env : Environment α) (draw : Draw α) (recurse : Recursion α) :
    Run α (Value α) := do
  let token ← current
  match token.kind with
  | .minus => signed env recurse .negate
  | .bang => signed env recurse .not
  | .openParen => grouped recurse
  | .integer | .decimal => do
    discard advance
    number token
  | .piWord => do
    discard advance
    return .constantScalar Scalar.pi
  | .trueWord => do
    discard advance
    return .constantLogical true
  | .falseWord => do
    discard advance
    return .constantLogical false
  | .word => nameWith env draw recurse
  | .invalid => throw token.invalid
  | _ => throw (token.unexpected .missingExpression operandStart)

def stepWith (env : Environment α) (draw : Draw α) (recurse : Recursion α) : Recursion α
  | some v, bound => continueFrom env recurse v bound
  | none, bound => do
    let v ← operandWith env draw recurse
    continueFrom env recurse v bound

def evaluateWith (env : Environment α) (draw : Draw α) : Nat → Recursion α
  | 0 => fun _ _ => throw .exhausted
  | depth + 1 => stepWith env draw (evaluateWith env draw depth)

def expressionWith (env : Environment α) (draw : Draw α) : Run α (Value α) := do
  evaluateWith env draw ((← get).cursor.rest.length + 1) none 0

variable (env : Environment α)

theorem callBuiltinWith_unseeded (recurse : Recursion α) (name : Token) (builtin : Builtin) :
    callBuiltinWith env (unseeded env) recurse name builtin = callBuiltin env recurse name builtin := by
  cases builtin with
  | random isNormal fixed =>
    cases fixed with
    | true => rfl
    | false =>
      show (do
        match ← seedArgument with
        | some seed => random env isNormal (some seed)
        | none => random env isNormal none) = (do random env isNormal (← seedArgument))
      rfl
  | _ => rfl

theorem callWith_unseeded (recurse : Recursion α) (name : Token) :
    callWith env (unseeded env) recurse name = call env recurse name := by
  unfold callWith
  simp only [callBuiltinWith_unseeded]
  rfl

theorem operandWith_unseeded (recurse : Recursion α) :
    operandWith env (unseeded env) recurse = operand env recurse := by
  unfold operandWith nameWith
  simp only [callWith_unseeded]
  rfl

theorem evaluateWith_unseeded (depth : Nat) :
    evaluateWith env (unseeded env) depth = evaluate env depth := by
  induction depth with
  | zero => rfl
  | succ depth ih =>
    funext given bound
    rw [evaluateWith, evaluate, ih]
    cases given with
    | some v => rfl
    | none => simp only [stepWith, step, operandWith_unseeded]

theorem expressionWith_unseeded : expressionWith env (unseeded env) = expression env := by
  unfold expressionWith expression
  simp only [evaluateWith_unseeded]

end Run

end MeshLang

namespace MeshLang

variable {α β γ : Type}

/-- What two states have in common within plugins that were called at given places. Reading on,
noting reductions, and entering and leaving plugins must not break it. In a lenient comparison the
second evaluation may go on where the first one fails. -/
structure Frame where
  holds : List Nat → State → State → Prop
  cursor : ∀ {origins state state'}, holds origins state state' → state'.cursor = state.cursor
  origins : ∀ {origins state state'}, holds origins state state' →
    state.origins = origins ∧ state'.origins = origins
  moved : ∀ {origins state state'}, holds origins state state' → ∀ cursor,
    holds origins { state with cursor } { state' with cursor }
  noted : ∀ {origins state state'}, holds origins state state' → ∀ rule,
    holds origins { state with trace := state.trace ++ [rule] }
      { state' with trace := state'.trace ++ [rule] }
  within : ∀ {origins state state'}, holds origins state state' → ∀ others,
    holds others { state with origins := others } { state' with origins := others }

namespace Frame

/-- Two steps end with the same answer or the same failure, or only the first one fails. -/
inductive Ends (frame : Frame) (lenient : Prop) (origins : List Nat) :
    EStateM.Result (EvalError α) State β → EStateM.Result (EvalError α) State β → Prop where
  | ok {v : β} {state state' : State} : frame.holds origins state state' →
      Ends frame lenient origins (.ok v state) (.ok v state')
  | error {error : EvalError α} {state state' : State} : frame.holds origins state state' →
      Ends frame lenient origins (.error error state) (.error error state')
  | excused {error : EvalError α} {state : State}
      {result : EStateM.Result (EvalError α) State β} : lenient →
      Ends frame lenient origins (.error error state) result

/-- From states that keep to the frame the second step does what the first one does. -/
structure Follows (frame : Frame) (lenient : Prop) (run run' : Run α β) : Prop where
  ends : ∀ {origins state state'}, frame.holds origins state state' →
    frame.Ends lenient origins (run state) (run' state')

def sameWhere (P : Generator → Prop) : Frame where
  holds origins state state' := state' = state ∧ state.origins = origins ∧ P state.generator
  cursor holds := by rw [holds.1]
  origins holds := ⟨holds.2.1, holds.1 ▸ holds.2.1⟩
  moved holds _ := ⟨by rw [holds.1], holds.2⟩
  noted holds _ := ⟨by rw [holds.1], holds.2⟩
  within holds _ := ⟨by rw [holds.1], rfl, holds.2.2⟩

abbrev same : Frame := sameWhere fun _ => True

def besidesTrace : Frame where
  holds origins state state' := state.origins = origins ∧ state' = { state with trace := state'.trace }
  cursor holds := by rw [holds.2]
  origins holds := ⟨holds.1, by rw [holds.2]; exact holds.1⟩
  moved holds _ := ⟨holds.1, by rw [holds.2]⟩
  noted holds _ := ⟨holds.1, by rw [holds.2]⟩
  within holds _ := ⟨rfl, by rw [holds.2]⟩

variable {frame : Frame} {lenient : Prop}

theorem Ends.bind {origins : List Nat} {others : List Nat} {state state' : State}
    {first first' : Run α β} {next next' : β → Run α γ}
    (ends : frame.Ends lenient others (first state) (first' state'))
    (rest : ∀ {v after after'}, frame.holds others after after' →
      frame.Ends lenient origins (next v after) (next' v after'))
    (failed : ∀ {after after'}, frame.holds others after after' →
      frame.holds origins after after') :
    frame.Ends lenient origins ((first >>= next) state) ((first' >>= next') state') := by
  show frame.Ends lenient origins (EStateM.bind first next state) (EStateM.bind first' next' state')
  unfold EStateM.bind
  generalize first state = result, first' state' = other at ends
  cases ends with
  | ok onward => exact rest onward
  | error onward => exact .error (failed onward)
  | excused may => exact .excused may

namespace Follows

theorem bind {first first' : Run α β} {next next' : β → Run α γ}
    (follows : frame.Follows lenient first first')
    (rest : ∀ v, frame.Follows lenient (next v) (next' v)) :
    frame.Follows lenient (first >>= next) (first' >>= next') :=
  ⟨fun holds => (follows.ends holds).bind (rest _).ends id⟩

theorem pure (v : β) : frame.Follows lenient (Pure.pure v : Run α β) (Pure.pure v) :=
  ⟨fun holds => .ok holds⟩

theorem throw (error : EvalError α) :
    frame.Follows lenient (MonadExcept.throw error : Run α β) (MonadExcept.throw error) :=
  ⟨fun holds => .error holds⟩

theorem guarded {refused : Prop} [Decidable refused] {error : EvalError α} {run run' : Run α β}
    (follows : frame.Follows lenient run run') :
    frame.Follows lenient
      (if refused then MonadExcept.throw error >>= fun _ : PUnit => run else run)
      (if refused then MonadExcept.throw error >>= fun _ : PUnit => run' else run') := by
  split
  · exact (throw error).bind fun _ => follows
  · exact follows

theorem discarded {run run' : Run α β} (follows : frame.Follows lenient run run') :
    frame.Follows lenient (discard run) (discard run') :=
  follows.bind fun _ => pure ()

theorem lift (outcome : Except (EvalError α) β) :
    frame.Follows lenient (Run.lift outcome) (Run.lift outcome) := by
  cases outcome with
  | ok v => exact pure v
  | error error => exact throw error

theorem relabelled (outcome : Except (FieldError α) (Value α)) (kind : Kind) :
    frame.Follows lenient (do return (← Run.liftField outcome).relabel kind)
      (do return (← Run.liftField outcome).relabel kind) :=
  (lift _).bind fun _ => pure _

theorem note (options : Options) (rule : String) :
    frame.Follows lenient (Run.note options rule : Run α Unit) (Run.note options rule) := by
  unfold Run.note
  split
  · exact ⟨fun holds => .ok (frame.noted holds rule)⟩
  · exact pure ()

theorem noted (options : Options) (rule : String) (v : β) :
    frame.Follows lenient (do Run.note options rule; return v : Run α β)
      (do Run.note options rule; return v) :=
  (note options rule).bind fun _ => pure v

theorem fromCursor {next next' : Cursor → Run α β}
    (rest : ∀ cursor, frame.Follows lenient (next cursor) (next' cursor)) :
    frame.Follows lenient (do next (← get).cursor) (do next' (← get).cursor) := by
  constructor
  intro origins state state' holds
  show frame.Ends lenient origins (next state.cursor state) (next' state'.cursor state')
  rw [frame.cursor holds]
  exact (rest state.cursor).ends holds

theorem current : frame.Follows lenient (Run.current : Run α Token) Run.current :=
  fromCursor fun cursor => pure cursor.current

theorem second : frame.Follows lenient (Run.second : Run α TokenKind) Run.second :=
  fromCursor fun cursor => pure cursor.advance.current.kind

theorem jump (cursor : Cursor) :
    frame.Follows lenient (Run.jump cursor : Run α Unit) (Run.jump cursor) :=
  ⟨fun holds => .ok (frame.moved holds cursor)⟩

theorem leaving {run run' : Run α β} (follows : frame.Follows lenient run run') {place : Nat}
    {origins : List Nat} {state state' : State} (holds : frame.holds (place :: origins) state state') :
    frame.Ends lenient origins
      ((do
        modify fun state => { state with origins := state.origins.drop 1 }
        run : Run α β) state)
      ((do
        modify fun state => { state with origins := state.origins.drop 1 }
        run' : Run α β) state') := by
  obtain ⟨kept, kept'⟩ := frame.origins holds
  have left : state.origins.drop 1 = origins := by rw [kept]; rfl
  have left' : state'.origins.drop 1 = origins := by rw [kept']; rfl
  show frame.Ends lenient origins (run { state with origins := state.origins.drop 1 })
    (run' { state' with origins := state'.origins.drop 1 })
  rw [left, left']
  exact follows.ends (frame.within holds origins)

theorem advance : frame.Follows lenient (Run.advance : Run α Token) Run.advance :=
  fromCursor fun cursor => (jump cursor.advance).bind fun _ => pure cursor.current

theorem skipped : frame.Follows lenient (discard Run.advance : Run α Unit) (discard Run.advance) :=
  advance.discarded

theorem expect (kind : TokenKind) :
    frame.Follows lenient (Run.expect kind : Run α Token) (Run.expect kind) := by
  refine current.bind fun token => ?_
  split
  · exact advance
  · exact throw _

theorem close (opening : Token) :
    frame.Follows lenient (Run.close opening : Run α Unit) (Run.close opening) := by
  refine current.bind fun token => ?_
  split
  · exact skipped
  · exact throw _

theorem nameArgument : frame.Follows lenient (Run.nameArgument : Run α Token) Run.nameArgument :=
  (expect _).bind fun opening => (expect _).bind fun name => (close opening).bind fun _ => pure name

theorem seedOf (token : Token) :
    frame.Follows lenient (Run.seedOf token : Run α UInt64) (Run.seedOf token) := by
  unfold Run.seedOf
  dsimp only
  split
  · exact pure _
  · exact throw _

theorem seedArgument :
    frame.Follows lenient (Run.seedArgument : Run α (Option UInt64)) Run.seedArgument := by
  refine (expect _).bind fun opening => current.bind fun token => ?_
  have last (seed : Option UInt64) : frame.Follows lenient
      (do Run.close opening; return seed : Run α (Option UInt64))
      (do Run.close opening; return seed) := (close opening).bind fun _ => pure seed
  dsimp only
  split
  · exact skipped.bind fun _ => (seedOf token).bind fun seed => last (some seed)
  · split
    · exact last none
    · exact (throw _).bind last

theorem foreignArgument :
    frame.Follows lenient (Run.foreignArgument : Run α (Token × Bool)) Run.foreignArgument := by
  refine (expect _).bind fun opening => (expect _).bind fun first => current.bind fun token => ?_
  have last (old : Bool) (name : Token) : frame.Follows lenient
      (do Run.close opening; return (name, old) : Run α (Token × Bool))
      (do Run.close opening; return (name, old)) := (close opening).bind fun _ => pure (name, old)
  dsimp only
  split
  · exact nameArgument.bind (last _)
  · exact last _ first

theorem finish (v : Value α) : frame.Follows lenient (Run.finish v) (Run.finish v) := by
  refine current.bind fun token => ?_
  split
  · exact pure ()
  · exact throw _
  · exact throw _

section Reductions

variable [Scalar α]

theorem number (token : Token) :
    frame.Follows lenient (Run.number token : Run α (Value α)) (Run.number token) := by
  unfold Run.number
  split
  · exact pure _
  · exact throw _

theorem unary (options : Options) (op : UnaryOp) (v : Value α) (place : Token) :
    frame.Follows lenient (Run.unary options op v place) (Run.unary options op v place) := by
  unfold Run.unary
  split
  · exact throw _
  · exact (note _ _).bind fun _ => relabelled _ _

theorem binary (options : Options) (op : BinaryOp) (v w : Value α) (place : Token) :
    frame.Follows lenient (Run.binary options op v w place) (Run.binary options op v w place) := by
  unfold Run.binary
  split
  · exact throw _
  · exact (lift _).bind fun _ => (note _ _).bind fun _ => relabelled _ _

theorem choice (options : Options) (c v w : Value α) (question colon : Token) :
    frame.Follows lenient (Run.choice options c v w question colon)
      (Run.choice options c v w question colon) := by
  unfold Run.choice
  split
  · exact throw _
  · refine (lift _).bind fun _ => (lift _).bind fun _ => (lift _).bind fun _ => ?_
    exact (note _ _).bind fun _ => relabelled _ _

omit [Scalar α] in
theorem part (options : Options) (v : Value α) (name : Token) :
    frame.Follows lenient (Run.part options v name) (Run.part options v name) := by
  unfold Run.part
  split
  · exact noted _ _ _
  · exact throw _

theorem tensorPart (env : Environment α) (v : Value α) (name : Token) (function : TensorFunction) :
    frame.Follows lenient (Run.tensorPart env v name function)
      (Run.tensorPart env v name function) := by
  refine (expect _).discarded.bind fun _ => (expect _).discarded.bind fun _ => ?_
  exact guarded ((note _ _).bind fun _ => lift _)

theorem component (env : Environment α) (v : Value α) :
    frame.Follows lenient (Run.component env v) (Run.component env v) := by
  refine skipped.bind fun _ => current.bind fun token => guarded ?_
  refine advance.bind fun name => current.bind fun following => ?_
  split
  · split
    · exact tensorPart env v name _
    · exact part _ v name
  · exact part _ v name

theorem unseeded (env : Environment α) (isNormal : Bool) :
    same.Follows lenient (Run.unseeded env isNormal)
      (Run.unseeded env isNormal) := by
  constructor
  rintro origins state state' ⟨rfl, kept, -⟩
  exact .ok ⟨rfl, kept, trivial⟩

theorem unseeded_besidesTrace (env : Environment α) (isNormal : Bool) :
    besidesTrace.Follows lenient (Run.unseeded env isNormal) (Run.unseeded env isNormal) := by
  constructor
  rintro origins state state' ⟨kept, same⟩
  rw [same]
  exact .ok ⟨kept, rfl⟩

end Reductions

end Follows

end Frame

end MeshLang
