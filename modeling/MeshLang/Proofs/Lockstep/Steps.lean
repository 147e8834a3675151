import MeshLang.Proofs.Lockstep.Functions

namespace MeshLang

variable {α : Type}

def Recursion.Agrees (recurse recurse' : Recursion α) (registry : Registry α) (start : Cursor)
    (R : Value α → Value α → Prop) (T : Tolerance (EvalError α)) : Prop :=
  ∀ left left' bound, Option.Rel R left left' →
    Run.Agree registry start R T (recurse left bound) (recurse' left' bound)

namespace Recursion.Agrees

variable {recurse recurse' : Recursion α} {registry : Registry α} {start : Cursor}
  {R : Value α → Value α → Prop} {T : Tolerance (EvalError α)}

theorem fresh (agrees : recurse.Agrees recurse' registry start R T) (bound : Nat) :
    Run.Agree registry start R T (recurse none bound) (recurse' none bound) :=
  agrees none none bound .none

theorem further (agrees : recurse.Agrees recurse' registry start R T) {v w : Value α}
    (related : R v w) (bound : Nat) :
    Run.Agree registry start R T (recurse (some v) bound) (recurse' (some w) bound) :=
  agrees (some v) (some w) bound (.some related)

end Recursion.Agrees

namespace Environment.Lockstep

variable [Scalar α] {env env' : Environment α} {start : Cursor} {R : Value α → Value α → Prop}
  {T : Tolerance (EvalError α)} {recurse recurse' : Recursion α}

theorem fails (lockstep : env.Lockstep env' start R T) {β γ : Type} {Q : β → γ → Prop}
    {error : EvalError α} (isPlain : error.IsPlain) :
    Run.Agree env.registry start Q T (throw error : Run α β) (throw error : Run α γ) :=
  .throw (lockstep.plain error isPlain)

theorem guarded (lockstep : env.Lockstep env' start R T) {β γ δ : Type} {Q : γ → δ → Prop}
    {P : β → Prop} {check : Except (EvalError α) β} {next : β → Run α γ} {next' : β → Run α δ}
    (condition : MeshLang.Meets P EvalError.IsPlain check)
    (rest : ∀ answer, P answer → Run.Agree env.registry start Q T (next answer) (next' answer)) :
    Run.Agree env.registry start Q T (Run.lift check >>= next) (Run.lift check >>= next') := by
  refine .bind (.lift (.refl condition lockstep.plain)) fun v w both => ?_
  obtain ⟨rfl, holds⟩ := both
  exact rest v holds

omit [Scalar α] in
theorem relabelled {registry : Registry α} {kind : Kind}
    {result other : Except (FieldError α) (Value α)}
    (agree : MeshLang.Agree (fun v w => R (v.relabel kind) (w.relabel kind)) (T.comap .field)
      result other) :
    Run.Agree registry start R T (do return (← Run.liftField result).relabel kind)
      (do return (← Run.liftField other).relabel kind) :=
  .bind (.liftField agree) fun _ _ related => .pure related

theorem expect (lockstep : env.Lockstep env' start R T) (kind : TokenKind) :
    Run.Agree env.registry start Eq T (Run.expect kind : Run α Token) (Run.expect kind) := by
  apply Run.Agree.andThen .current
  intro token
  split
  · exact .advance
  · exact lockstep.fails token.wanted_isPlain

theorem close (lockstep : env.Lockstep env' start R T) (opening : Token) :
    Run.Agree env.registry start Eq T (Run.close opening : Run α Unit) (Run.close opening) := by
  apply Run.Agree.andThen .current
  intro token
  split
  · exact .discarded .advance
  · exact lockstep.fails token.unclosed_isPlain

theorem nameArgument (lockstep : env.Lockstep env' start R T) :
    Run.Agree env.registry start Eq T (Run.nameArgument : Run α Token) Run.nameArgument := by
  refine .andThen (lockstep.expect .openParen) fun opening => ?_
  refine .andThen (lockstep.expect .word) fun name => ?_
  exact .andThen (lockstep.close opening) fun _ => .pure rfl

theorem afterWord (lockstep : env.Lockstep env' start R T) {β γ : Type} {Q : β → γ → Prop}
    {next : Token → Run α β} {next' : Token → Run α γ}
    (rest : ∀ cursor, env.registry.Reaches start cursor → cursor.current.kind = .word →
      ∀ state, state.cursor = cursor.advance →
        Run.Ends (Run.Onward env.registry state) Q T (next cursor.current state)
          (next' cursor.current state)) :
    Run.Agree env.registry start Q T (Run.expect .word >>= next) (Run.expect .word >>= next') := by
  intro state reached
  change Run.Ends (Run.Onward env.registry state) Q T (EStateM.bind (Run.expect .word) next state)
    (EStateM.bind (Run.expect .word) next' state)
  by_cases word : state.cursor.current.kind = .word
  · have read : (Run.expect .word : Run α Token) state =
        .ok state.cursor.current { state with cursor := state.cursor.advance } :=
      congrFun (if_pos word) state
    simp only [EStateM.bind, read]
    exact (rest _ reached word _ rfl).mono fun _ _ => Run.Onward.advance.trans
  · have failed : (Run.expect .word : Run α Token) state =
        .error (state.cursor.current.wanted [TokenKind.word.displayName]) state :=
      congrFun (if_neg word) state
    simp only [EStateM.bind, failed]
    exact .error (lockstep.plain _ state.cursor.current.wanted_isPlain) .refl

theorem foreignArgument (lockstep : env.Lockstep env' start R T) :
    Run.Agree env.registry start
      (fun answer other => answer = other ∧ (answer.2 = true → env.registry.Calls start "oldTime")) T
      (Run.foreignArgument : Run α (Token × Bool)) Run.foreignArgument := by
  apply Run.Agree.andThen (lockstep.expect .openParen)
  intro opening
  apply lockstep.afterWord
  intro cursor reached word state after
  have last {name : Token} {old : Bool} (called : old = true → env.registry.Calls start "oldTime") :
      Run.Agree env.registry start
        (fun answer other => answer = other ∧ (answer.2 = true → env.registry.Calls start "oldTime"))
        T (do Run.close opening; return (name, old) : Run α (Token × Bool))
        (do Run.close opening; return (name, old)) :=
    .andThen (lockstep.close opening) fun _ => .pure ⟨rfl, called⟩
  have chosen (old : Bool) (called : old = true → env.registry.Calls start "oldTime") :
      Run.Agree env.registry start
        (fun answer other => answer = other ∧ (answer.2 = true → env.registry.Calls start "oldTime"))
        T (do
          let name ← if old then Run.nameArgument else pure cursor.current
          Run.close opening
          return (name, old) : Run α (Token × Bool))
        (do
          let name ← if old then Run.nameArgument else pure cursor.current
          Run.close opening
          return (name, old)) := by
    split
    · exact .andThen lockstep.nameArgument fun name => last called
    · exact last called
  refine chosen (cursor.current.word = "oldTime" && state.cursor.current.kind = .openParen) ?_ state ?_
  · intro both
    rw [Bool.and_eq_true, decide_eq_true_eq, decide_eq_true_eq, after] at both
    exact ⟨cursor, reached, word, both⟩
  · rw [after]
    exact reached.advance

theorem seedOf (lockstep : env.Lockstep env' start R T) (token : Token) :
    Run.Agree env.registry start Eq T (Run.seedOf token : Run α UInt64) (Run.seedOf token) := by
  unfold Run.seedOf
  dsimp only
  split
  · exact .pure rfl
  · exact lockstep.fails trivial

theorem seedArgument (lockstep : env.Lockstep env' start R T) :
    Run.Agree env.registry start Eq T (Run.seedArgument : Run α (Option UInt64))
      Run.seedArgument := by
  apply Run.Agree.andThen (lockstep.expect .openParen)
  intro opening
  apply Run.Agree.andThen .current
  intro token
  have last (seed : Option UInt64) : Run.Agree env.registry start Eq T
      (do Run.close opening; return seed : Run α (Option UInt64))
      (do Run.close opening; return seed) :=
    .andThen (lockstep.close opening) fun _ => .pure rfl
  dsimp only
  split
  · apply Run.Agree.andThen (.discarded .advance)
    intro _
    exact .andThen (lockstep.seedOf token) fun seed => last (some seed)
  · split
    · exact last none
    · exact .andThen (lockstep.fails trivial) last

theorem argumentsFrom (lockstep : env.Lockstep env' start R T)
    (agrees : recurse.Agrees recurse' env.registry start R T) (opening : Token) (rounds : Nat) :
    Run.Agree env.registry start (List.Forall₂ (Argument.Alike R)) T
      (Run.argumentsFrom recurse opening rounds) (Run.argumentsFrom recurse' opening rounds) := by
  induction rounds with
  | zero => exact lockstep.fails trivial
  | succ rounds ih =>
    apply Run.Agree.andThen .current
    intro first
    apply Run.Agree.bind (agrees.fresh 0)
    intro v w related
    apply Run.Agree.andThen .current
    intro token
    split
    · refine .andThen (.discarded .advance) fun _ => .bind ih fun args args' alike => ?_
      exact .pure (.cons ⟨rfl, related⟩ alike)
    · refine .andThen (.discarded .advance) fun _ => .pure ?_
      exact .cons ⟨rfl, related⟩ .nil
    · exact lockstep.fails trivial
    · exact lockstep.fails token.unclosed_isPlain
    · exact lockstep.fails trivial

theorem arguments (lockstep : env.Lockstep env' start R T)
    (agrees : recurse.Agrees recurse' env.registry start R T) :
    Run.Agree env.registry start (List.Forall₂ (Argument.Alike R)) T (Run.arguments recurse)
      (Run.arguments recurse') := by
  apply Run.Agree.andThen (lockstep.expect .openParen)
  intro opening
  apply Run.Agree.andThen .current
  intro token
  split
  · exact .andThen (.discarded .advance) fun _ => .pure .nil
  · exact .fromState fun state => lockstep.argumentsFrom agrees opening _

theorem conform (lockstep : env.Lockstep env' start R T) {v w : Value α} (related : R v w)
    (type : ValueType) (first last : Nat) :
    MeshLang.Agree (fun a b => R a b ∧ a.type? = some type) T (Run.conform env v type first last)
      (Run.conform env' w type first last) := by
  have expanded := lockstep.expand v w type.location related
  have sameMesh : env'.repository.mesh = env.repository.mesh := lockstep.mesh.symm
  have kind : w.kind = v.kind := (lockstep.kind related).symm
  have describe : w.describe = v.describe := (lockstep.describe related).symm
  cases found : v.location with
  | none =>
    have found' : w.location = none := (lockstep.location related).symm.trans found
    simp only [Run.conform, found, found', kind, describe, sameMesh, Bool.and_true, decide_eq_true_eq]
    split
    · rename_i same
      refine .ok ⟨expanded, ?_⟩
      simp [Value.broadcastTo, Value.isConstant, Value.uniform, Value.type?, found, same]
    · exact .error (lockstep.plain _ trivial)
  | some location =>
    have found' : w.location = some location := (lockstep.location related).symm.trans found
    simp only [Run.conform, found, found', kind, describe, sameMesh, Bool.and_eq_true,
      decide_eq_true_eq, beq_iff_eq]
    split
    · rename_i same
      refine .ok ⟨expanded, ?_⟩
      simp [Value.broadcastTo, Value.isConstant, Value.type?, found, same]
    · exact .error (lockstep.plain _ trivial)

theorem argumentAt (lockstep : env.Lockstep env' start R T)
    (agrees : recurse.Agrees recurse' env.registry start R T) {text : List Char} {offset : Nat}
    (expected : Option ValueType) {state : State} {place : Cursor}
    (there : Cursor.within (state.origins.headD 0) text offset = place)
    (reached : env.registry.Reaches start place) :
    Run.Ends (Run.Lands env.registry place state.origins)
      (fun answer other => (R answer.1 other.1 ∧ answer.2 = other.2 ∧
        ∀ type, expected = some type → answer.1.type? = some type) ∧
        ∃ cursor, env.registry.Reaches place cursor ∧ cursor.base = place.base ∧
          answer.2 = cursor.offset) T
      (Run.argumentAt env recurse text offset expected state)
      (Run.argumentAt env' recurse' text offset expected state) := by
  subst there
  have ends := agrees.fresh 0 { state with cursor := .within (state.origins.headD 0) text offset } reached
  change Run.Ends _ _ T (EStateM.bind (recurse none 0) _ _) (EStateM.bind (recurse' none 0) _ _)
  refine Run.Ends.bind ends (fun _ onward => onward) fun v w after related onward => ?_
  cases expected with
  | none => exact .ok ⟨⟨related, rfl, by simp⟩, after.cursor, onward.reaches, onward.base rfl, rfl⟩ onward
  | some type =>
    have formed := lockstep.conform related type (state.origins.headD 0 + offset)
      (state.origins.headD 0 + after.cursor.offset)
    change Run.Ends _ _ T (EStateM.bind (Run.lift (Run.conform env v type _ _)) _ _)
      (EStateM.bind (Run.lift (Run.conform env' w type _ _)) _ _)
    refine Run.Ends.bind (Run.Agree.lift formed after (reached.trans onward.reaches))
      (fun _ => onward.trans) ?_
    intro a b last both on
    refine .ok ⟨⟨both.1, rfl, fun other same => ?_⟩, after.cursor, onward.reaches, onward.base rfl, rfl⟩
      (onward.trans on)
    cases same
    exact both.2

inductive Plays {β : Type} (goal : State → Prop)
    (Q : Except (PluginError α) β → Except (PluginError α) β → Prop) (U : Tolerance (PluginError α)) :
    EStateM.Result (EvalError α) State (Except (PluginError α) β) →
    EStateM.Result (EvalError α) State (Except (PluginError α) β) → Prop where
  | ok {answer other : Except (PluginError α) β} {state : State} : Q answer other → goal state →
      Plays goal Q U (.ok answer state) (.ok other state)
  | left {error : PluginError α} {state : State}
      {other : EStateM.Result (EvalError α) State (Except (PluginError α) β)} : U.excused error →
      Plays goal Q U (.ok (.error error) state) other
  | right {error : PluginError α} {state : State}
      {result : EStateM.Result (EvalError α) State (Except (PluginError α) β)} : U.excused error →
      Plays goal Q U result (.ok (.error error) state)

omit [Scalar α] in
theorem Plays.bind {β γ : Type} {goal : State → Prop} {further : Bool → State → Prop}
    {Q : Except (PluginError α) β → Except (PluginError α) β → Prop} {U : Tolerance (PluginError α)}
    {S : γ → γ → Prop} {first first' : Run α (Except (PluginError α) β)}
    {next next' : Except (PluginError α) β → Run α γ} {state : State}
    (plays : Plays goal Q U (first state) (first' state))
    (rest : ∀ answer other after, Q answer other → goal after →
      Run.Ends further S T (next answer after) (next' other after))
    (fails : ∀ error after, U.excused error →
      ∃ failure last, next (.error error) after = .error failure last ∧ T.excused failure)
    (fails' : ∀ error after, U.excused error →
      ∃ failure last, next' (.error error) after = .error failure last ∧ T.excused failure) :
    Run.Ends further S T (EStateM.bind first next state) (EStateM.bind first' next' state) := by
  unfold EStateM.bind
  generalize first state = result at plays
  generalize first' state = other at plays
  cases plays with
  | ok related onward => exact rest _ _ _ related onward
  | left excused =>
    obtain ⟨failure, last, failed, gone⟩ := fails _ _ excused
    dsimp only
    rw [failed]
    exact .left gone
  | right excused =>
    obtain ⟨failure, last, failed, gone⟩ := fails' _ _ excused
    dsimp only
    rw [failed]
    exact .right gone

theorem play (lockstep : env.Lockstep env' start R T)
    (agrees : recurse.Agrees recurse' env.registry start R T) {origin behind : Cursor}
    (reached : env.registry.Reaches start origin)
    {Q : Value α × Nat → Value α × Nat → Prop} {U : Tolerance (PluginError α)}
    {script script' : Script α (Except (PluginError α) (Value α × Nat))}
    (scripts : script.Agrees R T Q U script')
    (leads : env.registry.Leads origin (.script behind script)) {state : State}
    (here : env.registry.Reaches origin state.cursor) (base : state.origins.headD 0 = behind.place) :
    Plays (fun after => env.registry.Reaches origin after.cursor ∧ after.origins = state.origins)
      (fun answer other => Same Q U.shared answer other ∧
        env.registry.Leads origin (.script behind (.done answer))) U
      (Run.play env recurse behind.rest script state)
      (Run.play env' recurse' behind.rest script' state) := by
  -- By induction on what the scripts ask for. What they are told is reached from the place of the call,
  -- so what they do with it starts there again.
  induction scripts generalizing state with
  | done same => exact .ok ⟨same, leads⟩ ⟨here, rfl⟩
  | left gone =>
    obtain ⟨error, rfl, excused⟩ := gone
    exact .left excused
  | right gone =>
    obtain ⟨error, rfl, excused⟩ := gone
    exact .right excused
  | @argument offset expected next next' _ gaveUp gaveUp' ih =>
    have asked : env.registry.Reaches origin (.within behind.place behind.rest offset) := leads.asked
    have ends := lockstep.argumentAt agrees expected
      (congrArg (Cursor.within · behind.rest offset) base) (reached.trans asked)
    change Plays _ _ U
      (EStateM.bind (Run.attempt (Run.argumentAt env recurse behind.rest offset expected)) _ state)
      (EStateM.bind (Run.attempt (Run.argumentAt env' recurse' behind.rest offset expected)) _ state)
    unfold EStateM.bind Run.attempt
    generalize Run.argumentAt env recurse behind.rest offset expected state = result at ends
    generalize Run.argumentAt env' recurse' behind.rest offset expected state = other at ends
    cases ends with
    | @ok answer other after told onward =>
      obtain ⟨alike, cursor, ended, inside, stop⟩ := told
      have next : env.registry.Leads origin (.script behind (next (.ok answer))) := by
        obtain ⟨value, _⟩ := answer
        cases stop
        exact leads.answered ended (inside.trans (Cursor.within_base _ _ _))
      have rest := ih (.ok answer) (.ok other) (.ok alike) next (asked.trans onward.reaches)
        ((congrArg (List.headD · 0) onward.origins).trans base)
      rw [onward.origins] at rest
      exact rest
    | @error error after shared onward =>
      have rest := ih (.error error) (.error error) (.error shared) leads.refused
        (asked.trans onward.reaches) ((congrArg (List.headD · 0) onward.origins).trans base)
      rw [onward.origins] at rest
      exact rest
    | @left error _ _ excused =>
      obtain ⟨failure, stopped, gone⟩ := gaveUp error excused
      dsimp only
      rw [stopped]
      exact .left gone
    | @right _ error _ excused =>
      obtain ⟨failure, stopped, gone⟩ := gaveUp' error excused
      dsimp only
      rw [stopped]
      exact .right gone

theorem callPlugin (lockstep : env.Lockstep env' start R T)
    (agrees : recurse.Agrees recurse' env.registry start R T) {cursor : Cursor} {name : Token}
    {plugin : Plugin α} (reached : env.registry.Reaches start cursor) (calls : cursor.Calls name.word)
    (found : env.registry.get? name.word = some plugin) {state : State}
    (behind : state.cursor = cursor.advance) :
    Run.Ends (Run.Lands env.registry cursor state.origins) R T
      (Run.callPlugin env recurse name plugin state)
      (Run.callPlugin env' recurse' name plugin state) := by
  obtain ⟨place, origins, generator, trace⟩ := state
  obtain rfl : place = cursor.advance := behind
  have called : env.registry.Leads cursor
      (.script cursor.advance (plugin.call cursor.advance.rest)) :=
    .called .here calls found
  have plays := @play _ _ _ _ _ _ _ _ _ lockstep agrees cursor cursor.advance reached _ _ _ _
    (lockstep.plugins _ _ found _) called
    ⟨cursor.advance, cursor.advance.place :: origins, generator, trace⟩ .step rfl
  change Run.Ends _ _ _ (EStateM.bind (Run.play env recurse _ _) _ _)
    (EStateM.bind (Run.play env' recurse' _ _) _ _)
  refine plays.bind ?_ (fun error after excused => ⟨_, _, rfl, excused name.word⟩)
    fun error after excused => ⟨_, _, rfl, excused name.word⟩
  intro answer other after both onward
  have left : after.origins.drop 1 = origins := onward.2 ▸ rfl
  have failed : Run.Lands env.registry cursor origins false { after with origins := after.origins.drop 1 } :=
    ⟨onward.1, left, nofun⟩
  obtain ⟨same, leads⟩ := both
  cases same with
  | error shared => exact .error (shared name.word) failed
  | @ok v w alike =>
    obtain ⟨value, consumed⟩ := v
    obtain ⟨value', consumed'⟩ := w
    obtain ⟨related, used⟩ := alike
    cases used
    cases rest : Text.dropBytes? consumed cursor.advance.rest with
    | none =>
      simp only [rest]
      exact .error (lockstep.plain _ trivial) failed
    | some further =>
      have resumed : env.registry.Reaches cursor
          ⟨further, cursor.advance.base, cursor.advance.offset + consumed⟩ := leads.resumed rest
      have told : Run.Agree env.registry start R T
          (do
            Run.note env.options s!"{name.word}<plugin> -> {value.describe}"
            return env.options.adopt value)
          (do
            Run.note env.options s!"{name.word}<plugin> -> {value.describe}"
            return env.options.adopt value') :=
        .andThen .note fun _ => .pure (lockstep.adopt related)
      simp only [rest, ← lockstep.options, ← lockstep.describe related]
      refine Run.Ends.mono (told { after with cursor := _, origins := _ } (reached.trans resumed)) ?_
      exact fun _ last on => Run.Lands.trans ⟨resumed, left, fun _ => Cursor.advance_base _⟩ on

theorem random (lockstep : env.Lockstep env' start R T) (isNormal : Bool) (seed : Option UInt64) :
    Run.Agree env.registry start R T (Run.random env isNormal seed)
      (Run.random env' isNormal seed) := by
  have sameMesh : env'.mesh = env.mesh := lockstep.mesh.symm
  unfold Run.random
  rw [sameMesh]
  cases seed with
  | some seed => exact .pure (lockstep.cells _ (Generator.sample_length _ _ _))
  | none =>
    exact fun state _ =>
      .ok (lockstep.cells _ (Generator.sample_length _ _ _)) ⟨.refl, rfl, fun _ => rfl⟩

theorem callBuiltin (lockstep : env.Lockstep env' start R T)
    (agrees : recurse.Agrees recurse' env.registry start R T) {name : Token} {builtin : Builtin}
    (known : Builtin.ofName? name.word = some builtin)
    (called : env.registry.Calls start name.word) :
    Run.Agree env.registry start R T (Run.callBuiltin env recurse name builtin)
      (Run.callBuiltin env' recurse' name builtin) := by
  unfold Run.callBuiltin
  split
  · exact .andThen lockstep.nameArgument fun arg =>
      .lift (lockstep.applyNamed known called arg)
  · apply Run.Agree.andThen lockstep.seedArgument
    intro seed
    split
    · exact lockstep.random _ seed
    · exact lockstep.fails trivial
  · apply Run.Agree.bind (lockstep.arguments agrees)
    intro args args' alike
    rw [← alike.length_eq]
    dsimp only
    split
    · exact .bind (lockstep.fails (Q := fun _ _ => False) trivial) fun _ _ never => never.elim
    · rename_i count
      simp only [Bool.or_eq_true, decide_eq_true_eq, not_or, Nat.not_lt] at count
      exact .lift (lockstep.apply known (by assumption) count.1 count.2 alike)

theorem callTable (lockstep : env.Lockstep env' start R T)
    (agrees : recurse.Agrees recurse' env.registry start R T) (name : Token)
    (table : LookupTable α) :
    Run.Agree env.registry start R T (Run.callTable env recurse name table)
      (Run.callTable env' recurse' name table) := by
  apply Run.Agree.bind (lockstep.arguments agrees)
  intro args args' alike
  apply Run.Agree.bind (.lift (lockstep.applyTable table alike))
  intro v w related
  rcases alike with _ | ⟨first, _ | ⟨second, rest⟩⟩
  · exact .pure related
  · dsimp only
    rw [← lockstep.options, ← lockstep.describe first.2]
    exact .andThen .note fun _ => .pure related
  · exact .pure related

theorem call (lockstep : env.Lockstep env' start R T)
    (agrees : recurse.Agrees recurse' env.registry start R T) {cursor : Cursor}
    (reached : env.registry.Reaches start cursor) (word : cursor.current.kind = .word)
    (parenthesis : cursor.advance.current.kind = .openParen) {state : State}
    (behind : state.cursor = cursor.advance) :
    Run.Ends (Run.Lands env.registry cursor state.origins) R T
      (Run.call env recurse cursor.current state) (Run.call env' recurse' cursor.current state) := by
  have calls : cursor.Calls cursor.current.word := ⟨word, rfl, parenthesis⟩
  have onward {first second : Run α (Value α)}
      (agree : Run.Agree env.registry start R T first second) :
      Run.Ends (Run.Lands env.registry cursor state.origins) R T (first state) (second state) := by
    have here : Run.Lands env.registry cursor state.origins true state :=
      ⟨behind ▸ .step, rfl, fun _ => behind ▸ Cursor.advance_base _⟩
    exact (agree state (reached.trans here.reaches)).mono fun _ _ => here.trans
  have foreign := lockstep.meshes cursor.current.word
  unfold Run.call
  cases known : Builtin.ofName? cursor.current.word with
  | some builtin =>
    apply onward
    apply Run.Agree.bind (lockstep.callBuiltin agrees known ⟨cursor, reached, calls⟩)
    intro v w related
    rw [← lockstep.options, ← lockstep.describe related]
    exact .andThen .note fun _ => .pure related
  | none =>
    rw [← lockstep.tables, ← lockstep.registry]
    cases env.repository.tables.get? cursor.current.word with
    | some table => exact onward (lockstep.callTable agrees cursor.current table)
    | none =>
      generalize env.repository.foreign.get? cursor.current.word = region at foreign ⊢
      generalize env'.repository.foreign.get? cursor.current.word = region' at foreign ⊢
      cases foreign with
      | some meshes =>
        apply onward
        apply Run.Agree.bind lockstep.foreignArgument
        intro field other both
        obtain ⟨rfl, called⟩ := both
        exact .lift (meshes cursor.current field.1 field.2 called)
      | none =>
        cases found : env.registry.get? cursor.current.word with
        | some plugin => exact lockstep.callPlugin agrees reached calls found behind
        | none => exact onward (lockstep.fails trivial)

theorem name (lockstep : env.Lockstep env' start R T)
    (agrees : recurse.Agrees recurse' env.registry start R T) {state : State}
    (reached : env.registry.Reaches start state.cursor) (word : state.cursor.current.kind = .word) :
    Run.Ends (Run.Onward env.registry state) R T (Run.name env recurse state)
      (Run.name env' recurse' state) := by
  have named : Run.Ends (Run.Onward env.registry state) R T
      ((if state.cursor.advance.current.kind = .openParen then
          Run.call env recurse state.cursor.current
        else if state.cursor.current.word = "unitTensor" then
          return .constantTensor .tensor Mat3.identity
        else return env.options.adopt (← Run.lift (env.lookup state.cursor.current.word)) :
        Run α (Value α)) { state with cursor := state.cursor.advance })
      ((if state.cursor.advance.current.kind = .openParen then
          Run.call env' recurse' state.cursor.current
        else if state.cursor.current.word = "unitTensor" then
          return .constantTensor .tensor Mat3.identity
        else return env'.options.adopt (← Run.lift (env'.lookup state.cursor.current.word)) :
        Run α (Value α)) { state with cursor := state.cursor.advance }) := by
    split
    · rename_i parenthesis
      have behind : ({ state with cursor := state.cursor.advance } : State).cursor =
          state.cursor.advance := rfl
      exact lockstep.call agrees reached word parenthesis behind
    · split
      · exact .ok lockstep.identity .advance
      · rw [← lockstep.options]
        have found : Run.Agree env.registry start R T
            (do return env.options.adopt (← Run.lift (env.lookup state.cursor.current.word)))
            (do return env.options.adopt (← Run.lift (env'.lookup state.cursor.current.word))) :=
          .bind (.lift (lockstep.names _)) fun _ _ related => .pure (lockstep.adopt related)
        exact (found _ reached.advance).mono fun _ _ => Run.Onward.advance.trans
  exact named

theorem number (lockstep : env.Lockstep env' start R T) (token : Token) :
    Run.Agree env.registry start R T (Run.number token : Run α (Value α)) (Run.number token) := by
  unfold Run.number
  split
  · exact .pure (lockstep.numbers _)
  · exact lockstep.fails trivial

theorem unary (lockstep : env.Lockstep env' start R T) (op : UnaryOp) {v w : Value α}
    (related : R v w) (place : Token) :
    Run.Agree env.registry start R T (Run.unary env.options op v place)
      (Run.unary env'.options op w place) := by
  unfold Run.unary
  rw [← lockstep.options, ← lockstep.describe related, ← lockstep.kind related]
  split
  · exact lockstep.fails trivial
  · rename_i kind legal
    exact .andThen .note fun _ => relabelled (lockstep.signs op v w kind legal related)

theorem binary (lockstep : env.Lockstep env' start R T) (op : BinaryOp) {v v' w w' : Value α}
    (left : R v v') (right : R w w') (place : Token) :
    Run.Agree env.registry start R T (Run.binary env.options op v w place)
      (Run.binary env'.options op v' w' place) := by
  unfold Run.binary
  rw [← lockstep.options, ← lockstep.describe left, ← lockstep.describe right, ← lockstep.kind left,
    ← lockstep.kind right, ← lockstep.checkLocations_congr left right]
  split
  · exact lockstep.fails trivial
  · rename_i kind legal
    refine lockstep.guarded (checkLocations_together op.symbol v w place) fun _ together => ?_
    apply Run.Agree.andThen .note
    intro _
    exact relabelled (lockstep.operators op v v' w w' kind legal together left right)

theorem choice (lockstep : env.Lockstep env' start R T) {c c' v v' w w' : Value α}
    (condition : R c c') (first : R v v') (second : R w w') (question colon : Token) :
    Run.Agree env.registry start R T (Run.choice env.options c v w question colon)
      (Run.choice env'.options c' v' w' question colon) := by
  unfold Run.choice
  rw [← lockstep.options, ← lockstep.describe condition, ← lockstep.describe first,
    ← lockstep.describe second, ← lockstep.kind condition, ← lockstep.kind first,
    ← lockstep.kind second, ← lockstep.checkLocations_congr condition first,
    ← lockstep.checkLocations_congr first second, ← lockstep.checkLocations_congr condition second]
  split
  · exact lockstep.fails trivial
  · rename_i kind legal
    refine lockstep.guarded (checkLocations_together "?:" c v question) fun _ one => ?_
    refine lockstep.guarded (checkLocations_together "?:" v w colon) fun _ both => ?_
    refine lockstep.guarded (checkLocations_together "?:" c w question) fun _ other => ?_
    apply Run.Agree.andThen .note
    intro _
    exact relabelled (lockstep.choices c c' v v' w w' kind legal one both other condition first second)

theorem part (lockstep : env.Lockstep env' start R T) {v w : Value α} (related : R v w)
    (name : Token) :
    Run.Agree env.registry start R T (Run.part env.options v name) (Run.part env'.options w name) := by
  have components := lockstep.components v w name.word related
  unfold Run.part
  rw [← lockstep.options, ← lockstep.describe related, ← lockstep.kind related]
  generalize v.component? name.word = found at components ⊢
  generalize w.component? name.word = found' at components ⊢
  cases components with
  | some component => exact .andThen .note fun _ => .pure component
  | none => exact lockstep.fails trivial

theorem tensorPart (lockstep : env.Lockstep env' start R T) {v w : Value α} (related : R v w)
    (name : Token) (function : TensorFunction) :
    Run.Agree env.registry start R T (Run.tensorPart env v name function)
      (Run.tensorPart env' w name function) := by
  unfold Run.tensorPart
  rw [← lockstep.options, ← lockstep.describe related, ← lockstep.kind related]
  apply Run.Agree.andThen (.discarded (lockstep.expect .openParen))
  intro _
  apply Run.Agree.andThen (.discarded (lockstep.expect .closeParen))
  intro _
  by_cases tensorLike : v.kind.isTensorLike
  · simp only [tensorLike, Bool.not_true, Bool.false_eq_true, if_false]
    exact .andThen .note fun _ => .liftField (lockstep.tensors function v w tensorLike related)
  · simp only [tensorLike, Bool.not_false, if_true]
    exact .bind (lockstep.fails (Q := fun _ _ => False) trivial) fun _ _ never => never.elim

theorem component (lockstep : env.Lockstep env' start R T) {v w : Value α} (related : R v w) :
    Run.Agree env.registry start R T (Run.component env v) (Run.component env' w) := by
  unfold Run.component
  rw [← lockstep.kind related]
  refine .andThen (.discarded .advance) fun _ => .andThen .current fun token => ?_
  split
  · exact .bind (lockstep.fails (Q := fun _ _ => False) trivial) fun _ _ never => never.elim
  · refine .andThen .advance fun name => .andThen .current fun following => ?_
    split
    · split
      · exact lockstep.tensorPart related name _
      · exact lockstep.part related name
    · exact lockstep.part related name

theorem signed (lockstep : env.Lockstep env' start R T)
    (agrees : recurse.Agrees recurse' env.registry start R T) (op : UnaryOp) :
    Run.Agree env.registry start R T (Run.signed env recurse op) (Run.signed env' recurse' op) := by
  apply Run.Agree.andThen .advance
  intro token
  exact .bind (agrees.fresh _) fun v w related => lockstep.unary op related token

theorem grouped (lockstep : env.Lockstep env' start R T)
    (agrees : recurse.Agrees recurse' env.registry start R T) :
    Run.Agree env.registry start R T (Run.grouped recurse) (Run.grouped recurse') := by
  refine .andThen .advance fun opening => .bind (agrees.fresh 0) fun v w related => ?_
  exact .andThen (lockstep.close opening) fun _ => .pure related

theorem operand (lockstep : env.Lockstep env' start R T)
    (agrees : recurse.Agrees recurse' env.registry start R T) :
    Run.Agree env.registry start R T (Run.operand env recurse) (Run.operand env' recurse') := by
  have numbered (token : Token) : Run.Agree env.registry start R T
      (do discard Run.advance; Run.number token : Run α (Value α))
      (do discard Run.advance; Run.number token) :=
    .andThen (.discarded .advance) fun _ => lockstep.number token
  have constant {v : Value α} (related : R v v) : Run.Agree env.registry start R T
      (do discard Run.advance; return v : Run α (Value α))
      (do discard Run.advance; return v) :=
    .andThen (.discarded .advance) fun _ => .pure related
  refine fun state reached => .fromCurrent ?_
  cases kind : state.cursor.current.kind with
  | minus => exact lockstep.signed agrees .negate state reached
  | bang => exact lockstep.signed agrees .not state reached
  | openParen => exact lockstep.grouped agrees state reached
  | integer | decimal => exact numbered _ state reached
  | piWord => exact constant (lockstep.numbers _) state reached
  | trueWord => exact constant (lockstep.truths true) state reached
  | falseWord => exact constant (lockstep.truths false) state reached
  | word => exact lockstep.name agrees reached kind
  | invalid => exact .error (lockstep.plain _ Token.invalid_isPlain) .refl
  | _ => exact .error (lockstep.plain _ Token.unexpected_isPlain) .refl

theorem choose (lockstep : env.Lockstep env' start R T)
    (agrees : recurse.Agrees recurse' env.registry start R T) {condition condition' : Value α}
    (related : R condition condition') :
    Run.Agree env.registry start R T (Run.choose env recurse condition)
      (Run.choose env' recurse' condition') := by
  unfold Run.choose
  rw [← lockstep.kind related, ← lockstep.describe related]
  apply Run.Agree.andThen .advance
  intro question
  have branches : Run.Agree env.registry start R T
      (do
        let first ← recurse none 0
        let colon ← Run.expect .colon
        let second ← recurse none Binding.otherwise
        Run.choice env.options condition first second question colon)
      (do
        let first ← recurse' none 0
        let colon ← Run.expect .colon
        let second ← recurse' none Binding.otherwise
        Run.choice env'.options condition' first second question colon) := by
    refine .bind (agrees.fresh 0) fun first first' one => ?_
    refine .andThen (lockstep.expect .colon) fun colon => ?_
    refine .bind (agrees.fresh _) fun second second' other => ?_
    exact lockstep.choice related one other question colon
  split
  · exact .bind (lockstep.fails (Q := fun _ _ => True) trivial) fun _ _ _ => branches
  · exact branches

theorem operation (lockstep : env.Lockstep env' start R T)
    (agrees : recurse.Agrees recurse' env.registry start R T) {v v' : Value α} (left : R v v')
    (binding : Binding) :
    Run.Agree env.registry start R T (Run.operation env recurse v binding)
      (Run.operation env' recurse' v' binding) := by
  refine .andThen .advance fun sign => .bind (agrees.fresh _) fun w w' right => ?_
  exact lockstep.binary binding.op left right sign

theorem undefinedAfter_congr (lockstep : env.Lockstep env' start R T) {v w : Value α}
    (related : R v w) (symbol : String) (place : Token) :
    undefinedAfter symbol w place = (undefinedAfter symbol v place : EvalError α) := by
  unfold undefinedAfter
  rw [lockstep.kind related, lockstep.describe related]

theorem continueFrom (lockstep : env.Lockstep env' start R T)
    (agrees : recurse.Agrees recurse' env.registry start R T) {v w : Value α} (related : R v w)
    (bound : Nat) :
    Run.Agree env.registry start R T (Run.continueFrom env recurse v bound)
      (Run.continueFrom env' recurse' w bound) := by
  unfold Run.continueFrom
  simp only [← lockstep.kind related, lockstep.undefinedAfter_congr related]
  apply Run.Agree.andThen .current
  intro token
  split
  · exact lockstep.fails token.invalid_isPlain
  · split
    · exact .pure related
    · exact .bind (lockstep.component related) fun _ _ part => agrees.further part bound
  · split
    · exact .pure related
    · exact .bind (lockstep.choose agrees related) fun _ _ chosen => agrees.further chosen bound
  · split
    · split
      · exact lockstep.fails trivial
      · exact .pure related
    · split
      · exact .pure related
      · split
        · exact lockstep.fails trivial
        · refine .bind (lockstep.operation agrees related _) fun _ _ result => ?_
          exact agrees.further result bound

theorem step (lockstep : env.Lockstep env' start R T)
    (agrees : recurse.Agrees recurse' env.registry start R T) :
    Recursion.Agrees (Run.step env recurse) (Run.step env' recurse') env.registry start R T := by
  intro left left' bound related
  cases related with
  | none =>
    refine .bind (lockstep.operand agrees) fun v w value => ?_
    exact lockstep.continueFrom agrees value bound
  | some related => exact lockstep.continueFrom agrees related bound

/-- Whole evaluations, by induction on the depth: each level keeps in step if the one below it does. -/
theorem evaluate (lockstep : env.Lockstep env' start R T) (depth : Nat) :
    Recursion.Agrees (Run.evaluate env depth) (Run.evaluate env' depth) env.registry start R T := by
  induction depth with
  | zero => exact fun _ _ _ _ => lockstep.fails trivial
  | succ depth agrees => exact lockstep.step agrees

theorem expression (lockstep : env.Lockstep env' start R T) :
    Run.Agree env.registry start R T (Run.expression env) (Run.expression env') :=
  .fromState fun _ => (lockstep.evaluate _).fresh 0

theorem finish (lockstep : env.Lockstep env' start R T) {v w : Value α} (related : R v w) :
    Run.Agree env.registry start Eq T (Run.finish v : Run α Unit) (Run.finish w) := by
  unfold Run.finish
  rw [← lockstep.kind related]
  apply Run.Agree.andThen .current
  intro token
  split
  · exact .pure rfl
  · exact lockstep.fails token.invalid_isPlain
  · exact lockstep.fails trivial

end Environment.Lockstep

end MeshLang
