import MeshLang.Proofs.Parallel.Reductions
import MeshLang.Proofs.Parallel.Scripts

namespace MeshLang

variable {α : Type}

namespace Correspondence

/-- What a name stands for where it is called before two places: plugins that answer alike, or none. -/
inductive Plugins (L : Correspondence α) (b b' : Cursor) :
    Option (Plugin α) → Option (Plugin α) → Prop where
  | none : Plugins L b b' none none
  | some {plugin plugin' : Plugin α} : L.Calls b b' plugin plugin' →
      Plugins L b b' (some plugin) (some plugin')

def Told (L : Correspondence α) (b b' : Cursor) (start start' : Nat) (answer answer' : Value α × Nat) :
    Prop :=
  answer.1 = answer'.1 ∧ ∃ c c', (Cursor.within b.place b.rest start).Precedes c ∧
    (Cursor.within b'.place b'.rest start').Precedes c' ∧ L.places c c' ∧
    answer.2 = c.place - b.place ∧ answer'.2 = c'.place - b'.place

inductive Plays {β γ : Type} (L : Correspondence α) (Q : β → γ → Prop) (before before' : State) :
    EStateM.Result (EvalError α) State (Except (PluginError α) β) →
    EStateM.Result (EvalError α) State (Except (PluginError α) γ) → Prop where
  | ok {v : β} {w : γ} {after after' : State} : Q v w → after.origins = before.origins →
      after'.origins = before'.origins → after'.generator = after.generator →
      Plays L Q before before' (.ok (.ok v) after) (.ok (.ok w) after')
  | error {error error' : PluginError α} {after after' : State} :
      (∀ name, L.Fails (.plugin name error) (.plugin name error')) →
      after.origins = before.origins → after'.origins = before'.origins →
      after'.generator = after.generator →
      Plays L Q before before' (.ok (.error error) after) (.ok (.error error') after')

theorem Plays.after {β γ : Type} {L : Correspondence α} {Q : β → γ → Prop}
    {before before' state state' : State}
    {result : EStateM.Result (EvalError α) State (Except (PluginError α) β)}
    {other : EStateM.Result (EvalError α) State (Except (PluginError α) γ)}
    (plays : L.Plays Q state state' result other) (origins : state.origins = before.origins)
    (origins' : state'.origins = before'.origins) : L.Plays Q before before' result other := by
  cases plays with
  | ok related kept kept' generator =>
    exact .ok related (kept.trans origins) (kept'.trans origins') generator
  | error fails kept kept' generator =>
    exact .error fails (kept.trans origins) (kept'.trans origins') generator

structure Recurses (L : Correspondence α) (n n' : Nat) (recurse recurse' : Recursion α) : Prop where
  fresh : ∀ bound, L.ParallelFrom L.opens n n' Eq (recurse none bound) (recurse' none bound)
  further : ∀ v bound, L.Parallel n n' Eq (recurse (some v) bound) (recurse' (some v) bound)

def Bridges [Scalar α] (L : Correspondence α) (env env' : Environment α) (n n' : Nat)
    (recurse recurse' : Recursion α) : Prop :=
  ∀ state state', State.Related L.holes state state' → state.cursor.rest.length < n →
    state'.cursor.rest.length < n' →
    L.Arrives Eq state state' (Run.operand env recurse state) (Run.operand env' recurse' state')

end Correspondence

def Environment.takesName (env : Environment α) (name : String) : Bool :=
  match Builtin.ofName? name with
  | some builtin => builtin.shape = .name
  | none => (env.repository.tables.get? name).isNone && (env.repository.foreign.get? name).isSome

def Environment.plugin? (env : Environment α) (name : String) : Option (Plugin α) :=
  if (Builtin.ofName? name).isNone && (env.repository.tables.get? name).isNone &&
      (env.repository.foreign.get? name).isNone then
    env.registry.get? name
  else none

theorem Environment.get?_of_plugin? {env : Environment α} {name : String} {plugin : Plugin α}
    (found : env.plugin? name = some plugin) : env.registry.get? name = some plugin := by
  unfold plugin? at found
  split at found
  · exact found
  · cases found

/-- Two environments that share what evaluations read along a correspondence. Their plugins answer
alike wherever they can be called, operands have the same value at holes, and there are none where a
bare name has to stand; where a seed has to, there are none or both sides fail. -/
structure Environment.Corresponds [Scalar α] (env env' : Environment α) (L : Correspondence α) : Prop extends
    env.Shares env' L where
  plugins : ∀ {c c' : Cursor}, L.places c c' → c.current.kind = .word →
    c.advance.current.kind = .openParen →
    L.Plugins c.advance c'.advance (env.plugin? c.current.word) (env'.plugin? c.current.word)
  names : ∀ {c c' : Cursor}, L.places c c' → c.current.kind = .word →
    c.advance.current.kind = .openParen → env.takesName c.current.word = true →
    L.places c.advance.advance c'.advance.advance
  seeds : ∀ {c c' : Cursor} {builtin : Builtin}, L.places c c' → c.current.kind = .word →
    c.advance.current.kind = .openParen → Builtin.ofName? c.current.word = some builtin →
    builtin.shape = .seed → L.barred c.advance.advance c'.advance.advance
  bridges : ∀ n n', L.Bridges env env' (n + 1) (n' + 1) (Run.evaluate env n) (Run.evaluate env' n')

namespace Correspondence

def told (env : Environment α) (base start : Nat) (expected : Option ValueType) (v : Value α) :
    Run α (Value α × Nat) := do
  let stop := (← get).cursor.offset
  match expected with
  | none => return (v, stop)
  | some type => return (← Run.lift (Run.conform env v type (base + start) (base + stop)), stop)

theorem argumentAt_eq (env : Environment α) (recurse : Recursion α) (text : List Char) (start : Nat)
    (expected : Option ValueType) (state : State) :
    Run.argumentAt env recurse text start expected state =
      (recurse none 0 >>= told env (state.origins.headD 0) start expected)
        { state with cursor := .within (state.origins.headD 0) text start } := rfl

def playOn (env : Environment α) (recurse : Recursion α) (text : List Char)
    (next : Except (EvalError α) (Value α × Nat) → Script α β) :
    EStateM.Result (EvalError α) State (Value α × Nat) → EStateM.Result (EvalError α) State β
  | .ok answer state => Run.play env recurse text (next (.ok answer)) state
  | .error error state => Run.play env recurse text (next (.error error)) state

theorem play_argument (env : Environment α) (recurse : Recursion α) (text : List Char) (start : Nat)
    (expected : Option ValueType) (next : Except (EvalError α) (Value α × Nat) → Script α β)
    (state : State) :
    Run.play env recurse text (.argument start expected next) state =
      playOn env recurse text next (Run.argumentAt env recurse text start expected state) := by
  change EStateM.bind (Run.attempt _) _ state = _
  unfold EStateM.bind Run.attempt
  cases Run.argumentAt env recurse text start expected state <;> rfl

end Correspondence

namespace Environment.Corresponds

open Correspondence

variable [Scalar α] {env env' : Environment α} {L : Correspondence α} {n n' : Nat} {β γ : Type}
  {recurse recurse' : Recursion α}

theorem conformed (corresponds : env.Corresponds env' L) (v : Value α) {b b' : Cursor} {start start' : Nat}
    (expected : Option ValueType) (exactly : L.exact → b.Meets b' ∧ start = start') {state state' : State}
    (states : L.States state state')
    (onward : (Cursor.within b.place b.rest start).Precedes state.cursor)
    (onward' : (Cursor.within b'.place b'.rest start').Precedes state'.cursor)
    (base : state.cursor.base = b.place) (base' : state'.cursor.base = b'.place) :
    L.Arrives (L.Told b b' start start') state state' (told env b.place start expected v state)
      (told env' b'.place start' expected v state') := by
  have stop : state.cursor.offset = state.cursor.place - b.place := by
    rw [← base, Cursor.place, Nat.add_sub_cancel_left]
  have stop' : state'.cursor.offset = state'.cursor.place - b'.place := by
    rw [← base', Cursor.place, Nat.add_sub_cancel_left]
  have related (u : Value α) : L.Told b b' start start' (u, state.cursor.offset)
      (u, state'.cursor.offset) :=
    ⟨rfl, _, _, onward, onward', states.places, stop, stop'⟩
  cases expected with
  | none => exact .ok (related v) .refl .refl states
  | some type =>
    have formed : L.Same Eq (Run.conform env v type (b.place + start) (b.place + state.cursor.offset))
        (Run.conform env' v type (b'.place + start') (b'.place + state'.cursor.offset)) := by
      refine corresponds.conform v type fun exact => ?_
      obtain ⟨same, rfl⟩ := exactly exact
      rw [stop, stop', (L.samePlace exact states.places).place, same.place]
      exact ⟨rfl, rfl⟩
    have last : L.Parallel (state.cursor.rest.length + 1) (state'.cursor.rest.length + 1)
        (L.Told b b' start start')
        (do return (← Run.lift (Run.conform env v type (b.place + start) (b.place + state.cursor.offset)),
          state.cursor.offset))
        (do return (← Run.lift (Run.conform env' v type (b'.place + start')
          (b'.place + state'.cursor.offset)), state'.cursor.offset)) :=
      .bind (.lift formed) fun u _ same => .pure (same ▸ related u)
    exact last _ _ states (Nat.lt_succ_self _) (Nat.lt_succ_self _)

theorem argumentAt (corresponds : env.Corresponds env' L) (recurses : L.Recurses n n' recurse recurse')
    {b b' : Cursor} {start start' : Nat} (expected : Option ValueType) {state state' : State}
    (places : L.opens (.within b.place b.rest start) (.within b'.place b'.rest start'))
    (exactly : L.exact → b.Meets b' ∧ start = start')
    (base : state.origins.headD 0 = b.place) (base' : state'.origins.headD 0 = b'.place)
    (generator : state'.generator = state.generator)
    (below : b.rest.length < n) (below' : b'.rest.length < n') :
    L.Arrives (L.Told b b' start start')
      { state with cursor := .within b.place b.rest start }
      { state' with cursor := .within b'.place b'.rest start' }
      (Run.argumentAt env recurse b.rest start expected state)
      (Run.argumentAt env' recurse' b'.rest start' expected state') := by
  have arrives := recurses.fresh 0 { state with cursor := .within b.place b.rest start }
    { state' with cursor := .within b'.place b'.rest start' } ⟨places, generator⟩
    (Nat.lt_of_le_of_lt (b.precedes_within start).length_le below)
    (Nat.lt_of_le_of_lt (b'.precedes_within start').length_le below')
  rw [argumentAt_eq, argumentAt_eq, base, base']
  refine arrives.bind ?_
  intro v w after after' same onward onward' states
  subst same
  exact corresponds.conformed v expected exactly states onward.precedes onward'.precedes
    (onward.base.trans (Cursor.within_base _ _ _)) (onward'.base.trans (Cursor.within_base _ _ _))

omit [Scalar α] in
theorem playOn_of {b b' : Cursor} {start start' : Nat} {Q : β → γ → Prop}
    {next : Except (EvalError α) (Value α × Nat) → Script α (Except (PluginError α) β)}
    {next' : Except (EvalError α) (Value α × Nat) → Script α (Except (PluginError α) γ)}
    {before before' : State} {result other : EStateM.Result (EvalError α) State (Value α × Nat)}
    (arrives : L.Arrives (L.Told b b' start start') before before' result other)
    (base : before.origins.headD 0 = b.place) (base' : before'.origins.headD 0 = b'.place)
    (toldOk : ∀ v c c' after after', (Cursor.within b.place b.rest start).Precedes c →
      (Cursor.within b'.place b'.rest start').Precedes c' → L.places c c' →
      after.origins.headD 0 = b.place → after'.origins.headD 0 = b'.place →
      after'.generator = after.generator →
      L.Plays Q after after' (Run.play env recurse b.rest (next (.ok (v, c.place - b.place))) after)
        (Run.play env' recurse' b'.rest (next' (.ok (v, c'.place - b'.place))) after'))
    (toldError : ∀ error error' after after', L.Fails error error' →
      after.origins.headD 0 = b.place → after'.origins.headD 0 = b'.place →
      after'.generator = after.generator →
      L.Plays Q after after' (Run.play env recurse b.rest (next (.error error)) after)
        (Run.play env' recurse' b'.rest (next' (.error error')) after')) :
    L.Plays Q before before' (playOn env recurse b.rest next result)
      (playOn env' recurse' b'.rest next' other) := by
  cases arrives with
  | @ok answer answer' after after' told onward onward' states =>
    obtain ⟨v, stop⟩ := answer
    obtain ⟨v', stop'⟩ := answer'
    obtain ⟨sameValue, c, c', behind, behind', places, stops, stops'⟩ := told
    cases sameValue
    cases stops
    cases stops'
    have further := toldOk v c c' after after' behind behind' places
      (by rw [onward.origins]; exact base) (by rw [onward'.origins]; exact base') states.generator
    exact further.after onward.origins onward'.origins
  | @error error error' after after' fails origins origins' generator =>
    have further := toldError error error' after after' fails
      (by rw [origins]; exact base) (by rw [origins']; exact base') generator
    exact further.after origins origins'

theorem play (corresponds : env.Corresponds env' L) (recurses : L.Recurses n n' recurse recurse')
    {b b' : Cursor} (exactly : L.exact → b.Meets b') (below : b.rest.length < n)
    (below' : b'.rest.length < n') {β γ : Type} {Q : β → γ → Prop}
    {script : Script α (Except (PluginError α) β)} {script' : Script α (Except (PluginError α) γ)}
    (scripts : L.Scripts b b' Q script script') {state state' : State}
    (base : state.origins.headD 0 = b.place) (base' : state'.origins.headD 0 = b'.place)
    (generator : state'.generator = state.generator) :
    L.Plays Q state state' (Run.play env recurse b.rest script state)
      (Run.play env' recurse' b'.rest script' state') := by
  induction scripts generalizing state state' with
  | ok related => exact .ok related rfl rfl generator
  | error fails => exact .error fails rfl rfl generator
  | @ask start start' expected next next' places same toldOk toldError ihOk ihError =>
    rw [play_argument, play_argument]
    have arrives := corresponds.argumentAt recurses expected places
      (fun exact => ⟨exactly exact, same exact⟩) base base' generator below below'
    have plays := playOn_of arrives base base'
      (fun v c c' after after' behind behind' places => ihOk v c c' behind behind' places)
      (fun error error' after after' fails => ihError error error' fails)
    exact plays.after rfl rfl

def handBack (env : Environment α) (name : Token) (start : Cursor)
    (outcome : Except (PluginError α) (Value α × Nat)) : Run α (Value α) := do
  modify fun state => { state with origins := state.origins.drop 1 }
  match outcome with
  | .error error => throw (.plugin name.word error)
  | .ok (value, consumed) =>
    match Text.dropBytes? consumed start.rest with
    | none => throw (.plugin name.word (.overrun consumed (Text.byteSize start.rest)))
    | some rest => do
      Run.jump { start with rest, offset := start.offset + consumed }
      Run.note env.options s!"{name.word}<plugin> -> {value.describe}"
      return env.options.adopt value

omit [Scalar α] in
theorem callPlugin_eq (env : Environment α) (recurse : Recursion α) (name : Token)
    (plugin : Plugin α) (state : State) :
    Run.callPlugin env recurse name plugin state =
      (Run.play env recurse state.cursor.rest (plugin.call state.cursor.rest) >>=
        handBack env name state.cursor)
        { state with origins := state.cursor.place :: state.origins } := rfl

omit [Scalar α] in
theorem handBack_eq (env : Environment α) (name : Token) {start : Cursor} (v : Value α) {used : Nat}
    {rest : List Char} (cut : Text.dropBytes? used start.rest = some rest) (state : State) :
    handBack env name start (.ok (v, used)) state =
      .ok (env.options.adopt v)
        { state with
          cursor := ⟨rest, start.base, start.offset + used⟩
          origins := state.origins.drop 1
          trace := state.trace ++ Run.notes env.options s!"{name.word}<plugin> -> {v.describe}" } := by
  unfold handBack
  simp only [cut]
  have noted := Run.note_eq (α := α) env.options s!"{name.word}<plugin> -> {v.describe}"
    { state with cursor := ⟨rest, start.base, start.offset + used⟩, origins := state.origins.drop 1 }
  change EStateM.bind (Run.note env.options _) _ _ = _
  unfold EStateM.bind
  rw [noted]
  rfl

omit [Scalar α] in
theorem handBack_fits (env : Environment α) (name : Token) {start : Cursor} (v : Value α) {used : Nat}
    {rest : List Char} (cut : Text.dropBytes? used start.rest = some rest) (state : State) :
    ∃ trace, handBack env name start (.ok (v, used)) state =
      .ok (env.options.adopt v)
        { state with
          cursor := ⟨rest, start.base, start.offset + used⟩, origins := state.origins.drop 1, trace } :=
  ⟨_, handBack_eq env name v cut state⟩

omit [Scalar α] in
theorem handBack_beyond (env : Environment α) (name : Token) {start : Cursor} (v : Value α) {used : Nat}
    (cut : Text.dropBytes? used start.rest = none) (state : State) :
    handBack env name start (.ok (v, used)) state =
      .error (.plugin name.word (.overrun used (Text.byteSize start.rest)))
        { state with origins := state.origins.drop 1 } := by
  unfold handBack
  simp only [cut]
  rfl

theorem handedBack (corresponds : env.Corresponds env' L) {name name' : Token}
    (named : L.tokens name name') {b b' : Cursor} (exactly : L.exact → b.Meets b') {state state' : State}
    (here : state.cursor = b) (here' : state'.cursor = b')
    {run : Run α (Except (PluginError α) (Value α × Nat))}
    {run' : Run α (Except (PluginError α) (Value α × Nat))}
    (plays : L.Plays (fun answer other => answer.1 = other.1 ∧ L.Stops b b' answer.2 other.2)
      { state with origins := b.place :: state.origins }
      { state' with origins := b'.place :: state'.origins }
      (run { state with origins := b.place :: state.origins })
      (run' { state' with origins := b'.place :: state'.origins })) :
    L.Arrives Eq state state'
      ((run >>= handBack env name b) { state with origins := b.place :: state.origins })
      ((run' >>= handBack env' name' b') { state' with origins := b'.place :: state'.origins }) := by
  change L.Arrives Eq state state' (EStateM.bind _ _ _) (EStateM.bind _ _ _)
  unfold EStateM.bind
  generalize run _ = result at plays ⊢
  generalize run' _ = other at plays ⊢
  subst here
  subst here'
  cases plays with
  | @ok answer answer' after after' both origins origins' generator =>
    obtain ⟨v, used⟩ := answer
    obtain ⟨v', used'⟩ := answer'
    obtain ⟨same, stops⟩ := both
    cases same
    cases stops with
    | fits cut cut' places =>
      obtain ⟨trace, done⟩ := handBack_fits env name v cut after
      obtain ⟨trace', done'⟩ := handBack_fits env' name' v cut' after'
      dsimp only
      rw [done, done', corresponds.options]
      exact .ok rfl ⟨⟨.of_dropBytes? cut, congrArg (List.drop 1) origins⟩, rfl⟩
        ⟨⟨.of_dropBytes? cut', congrArg (List.drop 1) origins'⟩, rfl⟩ ⟨places, generator⟩
    | beyond cut cut' same =>
      dsimp only
      rw [handBack_beyond env name v cut, handBack_beyond env' name' v cut', L.word named]
      refine .error (.overrun fun exact => ⟨same exact, ?_⟩) (congrArg (List.drop 1) origins)
        (congrArg (List.drop 1) origins') generator
      rw [(exactly exact).rest]
  | @error error error' after after' fails origins origins' generator =>
    refine .error ?_ (congrArg (List.drop 1) origins) (congrArg (List.drop 1) origins') generator
    rw [L.word named]
    exact fails _

theorem callPlugin (corresponds : env.Corresponds env' L)
    (recurses : L.Recurses n n' recurse recurse') {name name' : Token} (named : L.tokens name name')
    {plugin plugin' : Plugin α} {state state' : State}
    (exactly : L.exact → state.cursor.Meets state'.cursor)
    (generator : state'.generator = state.generator)
    (below : state.cursor.rest.length < n) (below' : state'.cursor.rest.length < n')
    (calls : L.Calls state.cursor state'.cursor plugin plugin') :
    L.Arrives Eq state state' (Run.callPlugin env recurse name plugin state)
      (Run.callPlugin env' recurse' name' plugin' state') := by
  have plays : L.Plays _ { state with origins := state.cursor.place :: state.origins }
      { state' with origins := state'.cursor.place :: state'.origins } _ _ :=
    corresponds.play recurses exactly below below' calls rfl rfl generator
  rw [callPlugin_eq, callPlugin_eq]
  exact corresponds.handedBack named exactly rfl rfl plays

end Environment.Corresponds

end MeshLang
