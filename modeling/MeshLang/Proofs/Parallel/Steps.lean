import MeshLang.Proofs.Parallel.Calls

namespace MeshLang

variable {α : Type}

namespace Correspondence

variable {L : Correspondence α} {n n' : Nat} {recurse recurse' : Recursion α}

def argumentsAfter (recurse : Recursion α) (opening : Token) (rounds : Nat) (a : Argument α) :
    Run α (List (Argument α)) := do
  let token ← Run.current
  match token.kind with
  | .comma => do
    discard Run.advance
    return a :: (← Run.argumentsFrom recurse opening rounds)
  | .closeParen => do
    discard Run.advance
    return [a]
  | .invalid => throw token.invalid
  | .finish => throw (token.unclosed opening)
  | _ => throw (token.unexpected .unexpectedToken ["','", "')'"])

theorem argumentsFrom_succ (recurse : Recursion α) (opening : Token) (rounds : Nat) :
    Run.argumentsFrom recurse opening (rounds + 1) = (do
      let start ← Run.current
      let value ← recurse none 0
      argumentsAfter recurse opening rounds ⟨value, start⟩) := rfl

def operatorAfter [Scalar α] (env : Environment α) (recurse : Recursion α) (v : Value α) (bound : Nat)
    (sign : Token) : Run α (Value α) :=
  match sign.kind.binding? v.kind with
  | none =>
    if sign.kind = .doubleAmpersand && bound ≤ Binding.conjunction then
      throw (undefinedAfter "&&" v sign)
    else return v
  | some binding =>
    if binding.left < bound then return v
    else if (binding.op.rightKinds v.kind).isEmpty then
      throw (undefinedAfter binding.op.symbol v sign)
    else do recurse (some (← Run.operation env recurse v binding)) bound

namespace Parallel

theorem argumentsAfter_of {rounds rounds' : Nat} {opening opening' : Token}
    (further : ∀ state state', State.Related L.opens state state' → state.cursor.rest.length < n →
      state'.cursor.rest.length < n' → state.cursor.rest.length < rounds →
      state'.cursor.rest.length < rounds' →
      L.Arrives (List.Forall₂ L.Matches) state state' (Run.argumentsFrom recurse opening rounds state)
        (Run.argumentsFrom recurse' opening' rounds' state'))
    (opened : L.tokens opening opening') (kind : opening.kind = .openParen) {a a' : Argument α}
    (alike : L.Matches a a') {state state' : State} (states : L.States state state')
    (below : state.cursor.rest.length < n) (below' : state'.cursor.rest.length < n')
    (enough : state.cursor.rest.length < rounds + 1)
    (enough' : state'.cursor.rest.length < rounds' + 1) :
    L.Arrives (List.Forall₂ L.Matches) state state' (argumentsAfter recurse opening rounds a state)
      (argumentsAfter recurse' opening' rounds' a' state') := by
  refine .fromCurrent ?_
  have here := L.current states.places
  rw [L.kind here]
  cases found : state.cursor.current.kind with
  | comma =>
    have reads : L.Reads state state' := reads states (by rw [found]; decide)
    have gathered : L.Arrives (List.Forall₂ L.Matches) (behind state) (behind state')
        ((do return a :: (← Run.argumentsFrom recurse opening rounds) : Run α (List (Argument α)))
          (behind state))
        ((do return a' :: (← Run.argumentsFrom recurse' opening' rounds') :
          Run α (List (Argument α))) (behind state')) :=
      (further _ _ reads.states (reads.length_lt (Nat.lt_succ_of_lt below))
        (reads.length_lt' (Nat.lt_succ_of_lt below')) (reads.length_lt enough)
        (reads.length_lt' enough')).bind
          fun _ _ _ _ matched _ _ states => .ok (.cons alike matched) .refl .refl states
    exact gathered.fromBehind
  | closeParen =>
    exact .ok (.cons alike .nil) .advance .advance
      ⟨L.advance states.places (by rw [found]; rfl), states.generator⟩
  | invalid => exact .error (.invalid here) rfl rfl states.generator
  | finish => exact .error (.unclosed here opened kind) rfl rfl states.generator
  | _ => exact .error (.unexpected here) rfl rfl states.generator

theorem argumentsFrom (recurses : L.Recurses n n' recurse recurse') {opening opening' : Token}
    (opened : L.tokens opening opening') (kind : opening.kind = .openParen) (rounds rounds' : Nat)
    {state state' : State} (states : State.Related L.opens state state')
    (below : state.cursor.rest.length < n) (below' : state'.cursor.rest.length < n')
    (enough : state.cursor.rest.length < rounds) (enough' : state'.cursor.rest.length < rounds') :
    L.Arrives (List.Forall₂ L.Matches) state state'
      (Run.argumentsFrom recurse opening rounds state)
      (Run.argumentsFrom recurse' opening' rounds' state') := by
  induction rounds generalizing rounds' state state' with
  | zero => omega
  | succ rounds ih =>
    obtain _ | rounds' := rounds'
    · omega
    rw [argumentsFrom_succ, argumentsFrom_succ]
    refine .fromCurrent ?_
    have started : L.starts state.cursor.current state'.cursor.current := by
      rcases states.places with places | hole
      · exact L.start (L.current places)
      · exact (L.hole hole).2.2
    refine (recurses.fresh 0 state state' states below below').bind ?_
    intro v w after after' same onward onward' states
    subst same
    have alike : L.Matches ⟨v, state.cursor.current⟩ ⟨v, state'.cursor.current⟩ := ⟨rfl, started⟩
    have shorter := onward.precedes.length_le
    have shorter' := onward'.precedes.length_le
    exact argumentsAfter_of (fun _ _ => ih rounds') opened kind alike states (by omega) (by omega)
      (by omega) (by omega)

theorem arguments {P : Cursor → Cursor → Prop} (enters : L.Enters P)
    (recurses : L.Recurses n n' recurse recurse') :
    L.ParallelFrom P n n' (List.Forall₂ L.Matches) (Run.arguments recurse) (Run.arguments recurse') := by
  refine expecting enters (by decide) fun opening opening' opened kind => ?_
  intro state state' states below below'
  have listed := argumentsFrom recurses opened kind _ _ states below below' (Nat.lt_succ_self _)
    (Nat.lt_succ_self _)
  refine .fromCurrent ?_
  rcases states.places with places | hole
  · rw [L.kind (L.current places)]
    split
    · rename_i closes
      exact .ok .nil .advance .advance
        ⟨L.advance places (by rw [closes]; rfl), states.generator⟩
    · exact listed
  · obtain ⟨word, opens, -⟩ := L.hole hole
    rw [word, opens]
    exact listed

end Parallel

end Correspondence

namespace Environment.Corresponds

open Correspondence

variable {env env' : Environment α} {L : Correspondence α} {n n' : Nat}
  {recurse recurse' : Recursion α}

section Reductions

variable [Scalar α]

theorem callBuiltin (corresponds : env.Corresponds env' L) (recurses : L.Recurses n n' recurse recurse')
    {name name' : Token} (called : L.tokens name name') (builtin : Builtin) {state state' : State}
    (reads : L.Reads state state')
    (named : builtin.shape = .name → State.Related (L.Closed L.places) state state')
    (seeded : builtin.shape = .seed → State.Related (L.Closed L.barred) state state')
    (below : state.cursor.rest.length < n) (below' : state'.cursor.rest.length < n') :
    L.Arrives Eq state state' (Run.callBuiltin env recurse name builtin state)
      (Run.callBuiltin env' recurse' name' builtin state') := by
  unfold Run.callBuiltin
  cases shape : builtin.shape with
  | name =>
    have takes : L.ParallelFrom (L.Closed L.places) n n' Eq
        (do
          let arg ← Run.nameArgument
          Run.lift (env.applyNamed builtin arg))
        (do
          let arg ← Run.nameArgument
          Run.lift (env'.applyNamed builtin arg)) :=
      Parallel.nameArgument.bind fun arg arg' related =>
        .lift (corresponds.toShares.applyNamed builtin related)
    exact takes _ _ (named shape) below below'
  | seed =>
    refine (Parallel.seedArgument.andThen fun seed => ?_) _ _ (seeded shape) below below'
    split
    · exact corresponds.random _ seed
    · exact .lift (.wrongCount called 0 0 1)
  | expressions least most =>
    have takes : L.ParallelFrom L.Readable n n' Eq
        (do
          let args ← Run.arguments recurse
          Run.applied env name builtin least most args)
        (do
          let args ← Run.arguments recurse'
          Run.applied env' name' builtin least most args) :=
      (Parallel.arguments enters_readable recurses).bind fun args args' alike =>
        corresponds.applied_alike called builtin _ _ alike
    exact takes _ _ reads below below'

theorem callTable {P : Cursor → Cursor → Prop} (enters : L.Enters P)
    (corresponds : env.Corresponds env' L) (recurses : L.Recurses n n' recurse recurse')
    {name name' : Token} (named : L.tokens name name') (table : LookupTable α) :
    L.ParallelFrom P n n' Eq (Run.callTable env recurse name table)
      (Run.callTable env' recurse' name' table) :=
  (Parallel.arguments enters recurses).bind fun _ _ alike =>
    corresponds.tabulated_alike named table alike

theorem call (corresponds : env.Corresponds env' L) (recurses : L.Recurses n n' recurse recurse')
    {name name' : Token} (named : L.tokens name name') {state state' : State}
    (reads : L.Reads state state') (exactly : L.exact → state.cursor.Meets state'.cursor)
    (closed : env.takesName name.word = true → State.Related (L.Closed L.places) state state')
    (seeded : ∀ builtin, Builtin.ofName? name.word = some builtin → builtin.shape = .seed →
      State.Related (L.Closed L.barred) state state')
    (plugins : L.Plugins state.cursor state'.cursor (env.plugin? name.word) (env'.plugin? name.word))
    (below : state.cursor.rest.length < n) (below' : state'.cursor.rest.length < n') :
    L.Arrives Eq state state' (Run.call env recurse name state)
      (Run.call env' recurse' name' state') := by
  have generator := reads.generator
  unfold Environment.takesName at closed
  unfold Run.call
  rw [L.word named, corresponds.repository]
  cases known : Builtin.ofName? name.word with
  | some builtin =>
    rw [known] at closed
    refine (corresponds.callBuiltin recurses named builtin reads (fun shape => closed (by simpa using shape))
      (seeded builtin known) below below').bind ?_
    intro v _ after after' same _ _ states
    subst same
    have noted : L.Parallel (after.cursor.rest.length + 1) (after'.cursor.rest.length + 1) Eq
        (do
          Run.note env.options s!"{name.word}(...) -> {v.describe}"
          return v)
        (do
          Run.note env'.options s!"{name.word}(...) -> {v.describe}"
          return v) := .andThen corresponds.note fun _ => .pure rfl
    exact noted _ _ states (Nat.lt_succ_self _) (Nat.lt_succ_self _)
  | none =>
    rw [known] at closed
    dsimp only
    cases tables : env.repository.tables.get? name.word with
    | some table =>
      exact callTable enters_readable corresponds recurses named table state state' reads below below'
    | none =>
      dsimp only
      cases foreign : env.repository.foreign.get? name.word with
      | some region =>
        rw [tables, foreign] at closed
        have old {c c' : Cursor} (places : L.places c c') (word : c.current.kind = .word)
            (opens : c.advance.current.kind = .openParen) (isOld : c.current.word = "oldTime") :
            L.places c.advance.advance c'.advance.advance :=
          corresponds.names places word opens (by rw [isOld]; rfl)
        refine ((Parallel.foreignArgument old).bind fun field field' both => .lift ?_) _ _ (closed rfl)
          below below'
        rw [corresponds.functions.2.2, ← both.2]
        exact applyForeign_alike named both.1 region _
      | none =>
        dsimp only
        simp only [Environment.plugin?, corresponds.repository, known, tables, foreign, Option.isNone_none,
          Bool.and_self, if_true] at plugins
        generalize env.registry.get? name.word = plugin at plugins ⊢
        generalize env'.registry.get? name.word = plugin' at plugins ⊢
        cases plugins with
        | none => exact .error (.plain trivial) rfl rfl generator
        | some calls => exact corresponds.callPlugin recurses named exactly generator below below' calls

theorem name (corresponds : env.Corresponds env' L) (recurses : L.Recurses n n' recurse recurse')
    {state state' : State} (states : L.States state state')
    (word : state.cursor.current.kind = .word) (below : state.cursor.rest.length < n + 1)
    (below' : state'.cursor.rest.length < n' + 1) :
    L.Arrives Eq (behind state) (behind state') (Run.name env recurse state)
      (Run.name env' recurse' state') := by
  have reads : L.Reads state state' := reads states (by rw [word]; decide)
  have here := reads.token
  have past : L.States (behind state) (behind state') := reads.past (by rw [word]; rfl)
  have following : state'.cursor.advance.current.kind = state.cursor.advance.current.kind :=
    L.kind (L.current past.places)
  have found := corresponds.toShares.lookup here
  have named : L.Arrives Eq (behind state) (behind state')
      ((if state.cursor.advance.current.kind = .openParen then
          Run.call env recurse state.cursor.current
        else if state.cursor.current.word = "unitTensor" then
          return .constantTensor .tensor Mat3.identity
        else return env.options.adopt (← Run.lift (env.lookup state.cursor.current.word)) :
        Run α (Value α)) (behind state))
      ((if state'.cursor.advance.current.kind = .openParen then
          Run.call env' recurse' state'.cursor.current
        else if state'.cursor.current.word = "unitTensor" then
          return .constantTensor .tensor Mat3.identity
        else return env'.options.adopt (← Run.lift (env'.lookup state'.cursor.current.word)) :
        Run α (Value α)) (behind state')) := by
    rw [L.word here] at found ⊢
    rw [following, corresponds.options]
    split
    · rename_i opens
      have next : L.Reads (behind state) (behind state') :=
        Correspondence.reads past (by change state.cursor.advance.current.kind ≠ _; rw [opens]; decide)
      have closed (takes : env.takesName state.cursor.current.word = true) :
          State.Related (L.Closed L.places) (behind state) (behind state') :=
        ⟨⟨next.token, fun _ => corresponds.names states.places word opens takes⟩, past.generator⟩
      have seeded (builtin : Builtin) (known : Builtin.ofName? state.cursor.current.word = some builtin)
          (seed : builtin.shape = .seed) :
          State.Related (L.Closed L.barred) (behind state) (behind state') :=
        ⟨⟨next.token, fun _ => corresponds.seeds states.places word opens known seed⟩, past.generator⟩
      exact corresponds.call recurses here next (fun exact => L.samePlace exact past.places) closed seeded
        (corresponds.plugins states.places word opens) (reads.length_lt below) (reads.length_lt' below')
    · split
      · exact .ok rfl .refl .refl past
      · have looked : L.Parallel n n' Eq
            (do return env.options.adopt (← Run.lift (env.lookup state.cursor.current.word)))
            (do return env.options.adopt (← Run.lift (env'.lookup state.cursor.current.word))) :=
          .andThen (.lift found) fun v => .pure rfl
        exact looked _ _ past (reads.length_lt below) (reads.length_lt' below')
  exact named

theorem signed (corresponds : env.Corresponds env' L) (recurses : L.Recurses n n' recurse recurse')
    (op : UnaryOp) {state state' : State} (reads : L.Reads state state')
    (below : state.cursor.rest.length < n + 1) (below' : state'.cursor.rest.length < n' + 1) :
    L.Arrives Eq (behind state) (behind state') (Run.signed env recurse op state)
      (Run.signed env' recurse' op state') :=
  reads.read below below' <| (recurses.fresh _).andThen fun v => corresponds.unary op v reads.token

omit [Scalar α] in
theorem grouped (recurses : L.Recurses n n' recurse recurse') {state state' : State}
    (reads : L.Reads state state') (opens : state.cursor.current.kind = .openParen)
    (below : state.cursor.rest.length < n + 1) (below' : state'.cursor.rest.length < n' + 1) :
    L.Arrives Eq (behind state) (behind state') (Run.grouped recurse state)
      (Run.grouped recurse' state') :=
  reads.read below below' <| (recurses.fresh 0).andThen fun _ =>
    .andThen (.close reads.token opens) fun _ => .pure rfl

theorem operand (corresponds : env.Corresponds env' L) (recurses : L.Recurses n n' recurse recurse')
    {state state' : State} (states : L.States state state')
    (below : state.cursor.rest.length < n + 1) (below' : state'.cursor.rest.length < n' + 1) :
    L.Arrives Eq (behind state) (behind state') (Run.operand env recurse state)
      (Run.operand env' recurse' state') := by
  have here := L.current states.places
  have reads (more : state.cursor.current.kind ≠ .finish) : L.Reads state state' := reads states more
  have past (bars : state.cursor.current.kind.barsOperand = true) : L.States (behind state) (behind state') :=
    ⟨L.advance states.places bars, states.generator⟩
  refine .fromCurrent ?_
  rw [L.kind here]
  cases kind : state.cursor.current.kind with
  | minus => exact corresponds.signed recurses .negate (reads (by rw [kind]; decide)) below below'
  | bang => exact corresponds.signed recurses .not (reads (by rw [kind]; decide)) below below'
  | openParen => exact grouped recurses (reads (by rw [kind]; decide)) kind below below'
  | integer | decimal =>
    exact (reads (by rw [kind]; decide)).arrivesPast (by rw [kind]; rfl) (Parallel.number here) below below'
  | piWord | trueWord | falseWord => exact .ok rfl .refl .refl (past (by rw [kind]; rfl))
  | word => exact corresponds.name recurses states kind below below'
  | invalid => exact .error (.invalid here) rfl rfl states.generator
  | _ => exact .error (.unexpected here) rfl rfl states.generator

theorem choose (corresponds : env.Corresponds env' L) (recurses : L.Recurses n n' recurse recurse')
    (condition : Value α) {state state' : State} (reads : L.Reads state state')
    (below : state.cursor.rest.length < n + 1) (below' : state'.cursor.rest.length < n' + 1) :
    L.Arrives Eq (behind state) (behind state') (Run.choose env recurse condition state)
      (Run.choose env' recurse' condition state') := by
  have asked := reads.token
  have branches : L.ParallelFrom L.opens n n' Eq
      (do
        let first ← recurse none 0
        let colon ← Run.expect .colon
        let second ← recurse none Binding.otherwise
        Run.choice env.options condition first second state.cursor.current colon)
      (do
        let first ← recurse' none 0
        let colon ← Run.expect .colon
        let second ← recurse' none Binding.otherwise
        Run.choice env'.options condition first second state'.cursor.current colon) := by
    refine (recurses.fresh 0).andThen fun first => ?_
    refine .expecting enters_places (by decide) fun colon colon' parted _ => ?_
    refine (recurses.fresh _).andThen fun second => ?_
    exact corresponds.choice condition first second asked parted
  refine reads.read below below' ?_
  split
  · exact .thrown (.mismatch (L.start asked) (by decide)) _ _
  · exact branches

theorem operation (corresponds : env.Corresponds env' L)
    (recurses : L.Recurses n n' recurse recurse') (v : Value α) (binding : Binding)
    {state state' : State} (reads : L.Reads state state')
    (below : state.cursor.rest.length < n + 1) (below' : state'.cursor.rest.length < n' + 1) :
    L.Arrives Eq (behind state) (behind state') (Run.operation env recurse v binding state)
      (Run.operation env' recurse' v binding state') :=
  reads.read below below' <| (recurses.fresh _).andThen fun w =>
    corresponds.binary binding.op v w reads.token

omit [Scalar α] in
theorem goOn (recurses : L.Recurses n n' recurse recurse') (bound : Nat) {first first' : Run α (Value α)}
    {state state' : State} (reads : L.Reads state state')
    (below : state.cursor.rest.length < n + 1) (below' : state'.cursor.rest.length < n' + 1)
    (arrives : L.Arrives Eq (behind state) (behind state') (first state) (first' state')) :
    L.Arrives Eq (behind state) (behind state') ((do recurse (some (← first)) bound) state)
      ((do recurse' (some (← first')) bound) state') := by
  refine arrives.bind ?_
  intro v w after after' same onward onward' states
  subst same
  exact recurses.further v bound after after' states
    (Nat.lt_of_le_of_lt onward.precedes.length_le (reads.length_lt below))
    (Nat.lt_of_le_of_lt onward'.precedes.length_le (reads.length_lt' below'))

theorem continueFrom_operator (corresponds : env.Corresponds env' L)
    (recurses : L.Recurses n n' recurse recurse') (v : Value α) (bound : Nat) {state state' : State}
    (states : L.States state state') (below : state.cursor.rest.length < n + 1)
    (below' : state'.cursor.rest.length < n' + 1) :
    L.Arrives Eq state state'
      (operatorAfter env recurse v bound state.cursor.current state)
      (operatorAfter env' recurse' v bound state'.cursor.current state') := by
  have here := L.current states.places
  have stays : L.Arrives Eq state state' (.ok v state) (.ok v state') := .ok rfl .refl .refl states
  have undefined (symbol : String) : L.Fails (undefinedAfter symbol v state.cursor.current)
      (undefinedAfter symbol v state'.cursor.current) := .mismatch (L.start here) (by decide)
  unfold operatorAfter
  rw [L.kind here]
  cases found : state.cursor.current.kind.binding? v.kind with
  | none =>
    dsimp only
    split
    · exact .error (undefined _) rfl rfl states.generator
    · exact stays
  | some binding =>
    have reads : L.Reads state state' := reads states fun finish => by
      rw [finish] at found
      cases found
    dsimp only
    split
    · exact stays
    · split
      · exact .error (undefined _) rfl rfl states.generator
      · exact (goOn recurses _ reads below below'
          (corresponds.operation recurses v binding reads below below')).fromBehind

theorem continueFrom (corresponds : env.Corresponds env' L)
    (recurses : L.Recurses n n' recurse recurse') (v : Value α) (bound : Nat) :
    L.Parallel (n + 1) (n' + 1) Eq (Run.continueFrom env recurse v bound)
      (Run.continueFrom env' recurse' v bound) := by
  intro state state' states below below'
  have here := L.current states.places
  have stays : L.Arrives Eq state state' (.ok v state) (.ok v state') := .ok rfl .refl .refl states
  have operates := corresponds.continueFrom_operator recurses v bound states below below'
  refine .fromCurrent ?_
  rw [L.kind here]
  cases kind : state.cursor.current.kind with
  | invalid => exact .error (.invalid here) rfl rfl states.generator
  | point =>
    have reads : L.Reads state state' := reads states (by rw [kind]; decide)
    dsimp only
    split
    · exact stays
    · exact (goOn recurses bound reads below below'
        (corresponds.component v states kind below below')).fromBehind
  | question =>
    have reads : L.Reads state state' := reads states (by rw [kind]; decide)
    dsimp only
    split
    · exact stays
    · exact (goOn recurses bound reads below below'
        (corresponds.choose recurses v reads below below')).fromBehind
  | _ =>
    unfold operatorAfter at operates
    rw [L.kind here, kind] at operates
    exact operates

theorem step (corresponds : env.Corresponds env' L) (recurses : L.Recurses n n' recurse recurse')
    (bridges : L.Bridges env env' (n + 1) (n' + 1) recurse recurse') :
    L.Recurses (n + 1) (n' + 1) (Run.step env recurse) (Run.step env' recurse') where
  fresh bound := by
    have operands : L.ParallelFrom L.opens (n + 1) (n' + 1) Eq (Run.operand env recurse)
        (Run.operand env' recurse') := by
      intro state state' states below below'
      rcases states.places with places | hole
      · exact (corresponds.operand recurses ⟨places, states.generator⟩ below below').fromBehind
      · exact bridges state state' ⟨hole, states.generator⟩ below below'
    exact operands.andThen fun v => corresponds.continueFrom recurses v bound
  further v bound := corresponds.continueFrom recurses v bound

/-- Whole evaluations, by induction on the depth on both sides: each level goes side by side with the
other one if the levels below do. -/
theorem evaluate (corresponds : env.Corresponds env' L) (n n' : Nat) :
    L.Recurses n n' (Run.evaluate env n) (Run.evaluate env' n') := by
  induction n generalizing n' with
  | zero =>
    exact ⟨fun _ _ _ _ below _ => absurd below (Nat.not_lt_zero _),
      fun _ _ _ _ _ below _ => absurd below (Nat.not_lt_zero _)⟩
  | succ n ih =>
    cases n' with
    | zero =>
      exact ⟨fun _ _ _ _ _ below => absurd below (Nat.not_lt_zero _),
        fun _ _ _ _ _ _ below => absurd below (Nat.not_lt_zero _)⟩
    | succ n' => exact corresponds.step (ih n') (corresponds.bridges n n')

theorem expression (corresponds : env.Corresponds env' L) {state state' : State}
    (states : State.Related L.opens state state') :
    L.Arrives Eq state state' (Run.expression env state) (Run.expression env' state') :=
  (corresponds.evaluate _ _).fresh 0 state state' states (Nat.lt_succ_self _) (Nat.lt_succ_self _)

end Reductions

end Environment.Corresponds

end MeshLang
