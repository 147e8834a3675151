import MeshLang.Proofs.Relocation.Reductions

namespace MeshLang

variable {α : Type}

namespace Run

theorem conform_shift (env : Environment α) (v : Value α) (type : ValueType) (start stop distance : Nat) :
    conform env v type (start + distance) (stop + distance) =
      shiftFailure distance (conform env v type start stop) := by
  unfold conform
  dsimp only
  rw [Nat.add_max_add_right]
  symm
  exact apply_ite (shiftFailure distance) _ _ _

/-- A value in the form that is asked for; messages are about the bytes from `start` to `stop`. -/
def formed (env : Environment α) (expected : Option ValueType) (start stop : Nat) (v : Value α) :
    Except (EvalError α) (Value α) :=
  match expected with
  | none => .ok v
  | some type => conform env v type start stop

theorem formed_shift (env : Environment α) (expected : Option ValueType) (v : Value α)
    (start stop distance : Nat) :
    formed env expected (start + distance) (stop + distance) v =
      shiftFailure distance (formed env expected start stop v) := by
  cases expected with
  | none => rfl
  | some type => exact conform_shift env v type start stop distance

end Run

namespace Motion

open Correspondence Environment.Corresponds

variable {motion : Motion} {start source : Cursor} {n n' : Nat} {env : Environment α}
  {recurse recurse' : Recursion α}

def stopped (state : State) :
    Except (EvalError α) (Value α) → EStateM.Result (EvalError α) State (Value α × Nat)
  | .ok v => .ok (v, state.cursor.offset) state
  | .error error => .error error state

theorem told_eq (expected : Option ValueType) (base first : Nat) (v : Value α) (state : State) :
    told env base first expected v state =
      stopped state (Run.formed env expected (base + first) (base + state.cursor.offset) v) := by
  cases expected with
  | none => rfl
  | some type =>
    change ((do
      return (← Run.lift (Run.conform env v type (base + first) (base + state.cursor.offset)),
        state.cursor.offset)) : Run α (Value α × Nat)) state =
      stopped state (Run.conform env v type (base + first) (base + state.cursor.offset))
    cases Run.conform env v type (base + first) (base + state.cursor.offset) <;> rfl

theorem told_moved (expected : Option ValueType) (base first : Nat) (v : Value α) (state : State)
    (footing : motion.Footing) :
    motion.Ends footing (fun answer => (answer.1, answer.2 + footing.offset))
      (told env base first expected v state)
      (told env (footing.base + base) (first + footing.offset) expected v (state.moved footing)) := by
  have further (place : Nat) : footing.base + base + (place + footing.offset) =
      base + place + motion.distance := by
    have sum := footing.sum
    omega
  rw [told_eq, told_eq, further]
  change motion.Ends footing _ _ (stopped (state.moved footing) (Run.formed env expected _
    (footing.base + base + (state.cursor.offset + footing.offset)) v))
  rw [further, Run.formed_shift]
  cases Run.formed env expected (base + first) (base + state.cursor.offset) v with
  | ok w => exact .ok
  | error error => exact .error footing rfl

theorem told_end (run : Run α (Value α)) (expected : Option ValueType) (base first : Nat) (state : State) :
    endOf ((run >>= told env base first expected) state) = endOf (run state) := by
  change endOf (EStateM.bind run (told env base first expected) state) = endOf (run state)
  unfold EStateM.bind
  cases run state with
  | error error after => rfl
  | ok v after =>
    dsimp only
    rw [told_eq]
    cases Run.formed env expected (base + first) (base + after.cursor.offset) v <;> rfl

theorem told_answer {expected : Option ValueType} {base first : Nat} {v : Value α} {state after : State}
    {answer : Value α × Nat} (answered : told env base first expected v state = .ok answer after) :
    ∃ w, answer = (w, after.cursor.offset) ∧ after = state := by
  rw [told_eq] at answered
  cases formed : Run.formed env expected (base + first) (base + state.cursor.offset) v with
  | ok w =>
    rw [formed] at answered
    cases answered
    exact ⟨w, rfl, rfl⟩
  | error error =>
    rw [formed] at answered
    cases answered

structure Asks (motion : Motion) (registry : Registry α) (base : Cursor) (first : Nat) (state : State)
    (run run' : Run α (Value α × Nat)) : Prop where
  moved : ∀ footing : motion.Footing, footing.origins.headD 0 = base.place + motion.distance →
    motion.Ends (motion.inside footing.origins) id (run state) (run' (state.moved footing))
  precedes : (Cursor.within base.place base.rest first).Precedes (endOf (run state)).cursor
  origins : (endOf (run state)).origins = state.origins
  stops : ∀ answer after, run state = .ok answer after → ∃ v,
    answer = (v, after.cursor.offset) ∧ after.cursor.base = base.place ∧
    registry.Reaches (.within base.place base.rest first) after.cursor

theorem argumentAt_asks (recurses : motion.Recurses env.registry start n n' recurse recurse')
    {base : Cursor} {first : Nat} (expected : Option ValueType) {state : State}
    (inside : state.origins.headD 0 = base.place)
    (reached : env.registry.Reaches start (.within base.place base.rest first))
    (ready : Ready n n' base.rest.length) :
    Asks motion env.registry base first state (Run.argumentAt env recurse base.rest first expected)
      (Run.argumentAt env recurse' base.rest first expected) := by
  have shorter := (base.precedes_within first).length_le
  have stands : Stands env.registry start n n'
      { state with cursor := .within base.place base.rest first } := by
    refine ⟨reached, ?_⟩
    rcases ready with same | ⟨enough, enough'⟩
    · exact .inl same
    · exact .inr ⟨Nat.lt_of_le_of_lt shorter enough, Nat.lt_of_le_of_lt shorter enough'⟩
  let within : State := { state with cursor := .within base.place base.rest first }
  obtain ⟨moved, goes, arrives⟩ := recurses.tracks 0 within stands
  -- Both sides evaluate at the place within the plugin's text and tell the plugin where they stopped.
  have asked (footing : motion.Footing) (there : footing.origins.headD 0 = base.place + motion.distance) :
      Run.argumentAt env recurse' base.rest first expected (state.moved footing) =
        (recurse' none 0 >>= told env (motion.distance + base.place) first expected)
          (within.moved (motion.inside footing.origins)) := by
    rw [argumentAt_eq]
    change (recurse' none 0 >>= told env (footing.origins.headD 0) first expected)
      { state.moved footing with cursor := .within (footing.origins.headD 0) base.rest first } = _
    rw [there, Nat.add_comm, Cursor.within_shift]
    rfl
  have here : Run.argumentAt env recurse base.rest first expected state =
      (recurse none 0 >>= told env base.place first expected) within := by
    rw [argumentAt_eq, inside]
  refine ⟨fun footing there => ?_, ?_, ?_, fun answer final answered => ?_⟩
  · rw [asked footing there, here]
    exact (moved _).bind fun v after _ => told_moved expected base.place first v after _
  · rw [here, told_end]
    exact goes.precedes
  · rw [here, told_end]
    exact goes.origins
  · rw [here] at answered
    change EStateM.bind (recurse none 0) (told env base.place first expected) within = _ at answered
    unfold EStateM.bind at answered
    cases found : recurse none 0 within with
    | error error after =>
      rw [found] at answered
      cases answered
    | ok v after =>
      rw [found] at answered
      obtain ⟨w, told, same⟩ := told_answer answered
      subst same
      obtain ⟨onward, reaches⟩ := arrives v final found
      exact ⟨w, told, onward.base.trans (Cursor.within_base _ _ _), reaches⟩

/-- A plugin that was called at `base` does the same further on, whatever it asks for. -/
structure Plays (motion : Motion) (registry : Registry α) (source base : Cursor) (state : State)
    (run run' : Run α (Except (PluginError α) (Value α × Nat))) : Prop where
  moved : ∀ footing : motion.Footing, footing.origins.headD 0 = base.place + motion.distance →
    ∃ last : motion.Footing, last.origins = footing.origins ∧
      motion.Ends last (Except.mapError (PluginError.shift motion.distance)) (run state)
        (run' (state.moved footing))
  precedes : base.Precedes (endOf (run state)).cursor
  origins : (endOf (run state)).origins = state.origins
  answers : ∃ answer after, run state = .ok answer after ∧ registry.Leads source (.script base (.done answer))

theorem Plays.asked {registry : Registry α} {base : Cursor} {state after : State}
    {run run' next next' : Run α (Except (PluginError α) (Value α × Nat))}
    (plays : Plays motion registry source base after next next') (goes : run state = next after)
    (goes' : ∀ footing : motion.Footing, footing.origins.headD 0 = base.place + motion.distance →
      ∃ last : motion.Footing, last.origins = footing.origins ∧
        run' (state.moved footing) = next' (after.moved last))
    (origins : after.origins = state.origins) : Plays motion registry source base state run run' where
  moved footing there := by
    obtain ⟨middle, same, asked⟩ := goes' footing there
    obtain ⟨last, same', ends⟩ := plays.moved middle (same ▸ there)
    refine ⟨last, same'.trans same, ?_⟩
    rw [asked, goes]
    exact ends
  precedes := by
    rw [goes]
    exact plays.precedes
  origins := by
    rw [goes]
    exact plays.origins.trans origins
  answers := by
    rw [goes]
    exact plays.answers

theorem play (recurses : motion.Recurses env.registry start n n' recurse recurse') {base : Cursor}
    {script script' : Script α (Except (PluginError α) (Value α × Nat))}
    (shifts : script.Shifts motion.distance script')
    (reached : env.registry.Reaches start source) (leads : env.registry.Leads source (.script base script))
    (ready : Ready n n' base.rest.length) {state : State} (inside : state.origins.headD 0 = base.place)
    (behind : base.Precedes state.cursor) :
    Plays motion env.registry source base state (Run.play env recurse base.rest script)
      (Run.play env recurse' base.rest script') := by
  induction shifts generalizing state with
  | done => exact ⟨fun footing _ => ⟨footing, rfl, .ok⟩, behind, rfl, _, _, rfl, leads⟩
  | @argument first expected next next' tells ih =>
    obtain ⟨moved, precedes, origins, stops⟩ := argumentAt_asks recurses expected inside
      (reached.trans leads.asked) ready
    have goes : Run.play env recurse base.rest (.argument first expected next) state =
        playOn env recurse base.rest next (Run.argumentAt env recurse base.rest first expected state) :=
      play_argument _ _ _ _ _ _ _
    have goes' (footing : motion.Footing) :
        Run.play env recurse' base.rest (.argument first expected next') (state.moved footing) =
          playOn env recurse' base.rest next'
            (Run.argumentAt env recurse' base.rest first expected (state.moved footing)) :=
      play_argument _ _ _ _ _ _ _
    have further := (base.precedes_within first).trans precedes
    have inside : (endOf (Run.argumentAt env recurse base.rest first expected state)).origins.headD 0 =
        base.place := by
      rw [origins, inside]
    cases found : Run.argumentAt env recurse base.rest first expected state with
    | ok answer after =>
      rw [found] at origins further goes inside
      obtain ⟨v, rfl, own, reaches⟩ := stops answer after found
      have plays := ih (.ok (v, after.cursor.offset)) (leads.answered reaches own) inside further
      refine plays.asked goes (fun footing there => ⟨motion.inside footing.origins, rfl, ?_⟩) origins
      have ends := moved footing there
      rw [found] at ends
      rw [goes', ends.answered]
      rfl
    | error error after =>
      rw [found] at origins further goes inside
      refine (ih (.error error) leads.refused inside further).asked goes (fun footing there => ?_) origins
      have ends := moved footing there
      rw [found] at ends
      obtain ⟨last, same, told⟩ := ends.failed
      exact ⟨last, same, by rw [goes', told]; rfl⟩

theorem handBack_ok (name : Token) {base : Cursor} (v : Value α) {used : Nat} {rest : List Char}
    (cut : Text.dropBytes? used base.rest = some rest) (state : State) :
    handBack env name base (.ok (v, used)) state =
      (do
        Run.note env.options s!"{name.word}<plugin> -> {v.describe}"
        return env.options.adopt v : Run α (Value α))
        { state with
          cursor := ⟨rest, base.base, base.offset + used⟩, origins := state.origins.drop 1 } := by
  unfold handBack
  simp only [cut]
  rfl

theorem handBack_moved (name : Token) (base : Cursor) (answer : Except (PluginError α) (Value α × Nat))
    (state : State) (footing last : motion.Footing) (left : last.origins.drop 1 = footing.origins) :
    motion.Ends footing id (handBack env name base answer state)
      (handBack env (name.shift motion.distance) (base.move footing.base footing.offset)
        (answer.mapError (PluginError.shift motion.distance)) (state.moved last)) := by
  let dropped : motion.Footing := { last with origins := last.origins.drop 1 }
  cases answer with
  | error error =>
    have ends : motion.Ends footing id (handBack env name base (.error error) state)
        (.error ((EvalError.plugin name.word error).shift motion.distance)
          (State.moved dropped { state with origins := state.origins.drop 1 })) := .error dropped left
    simp only [EvalError.shift] at ends
    exact ends
  | ok answer =>
    obtain ⟨v, used⟩ := answer
    change motion.Ends footing id _ (handBack env (name.shift motion.distance)
      (base.move footing.base footing.offset) (.ok (v, used)) _)
    have rest : (base.move footing.base footing.offset).rest = base.rest := rfl
    cases cut : Text.dropBytes? used base.rest with
    | none =>
      let error : EvalError α := .plugin name.word (.overrun used (Text.byteSize base.rest))
      have ends : motion.Ends footing (id : Value α → Value α)
          (.error error { state with origins := state.origins.drop 1 })
          (.error (error.shift motion.distance)
            (State.moved dropped { state with origins := state.origins.drop 1 })) := .error dropped left
      simp only [error, EvalError.shift, PluginError.shift] at ends
      rw [handBack_beyond env name v cut, handBack_beyond env _ v (rest ▸ cut)]
      exact ends
    | some behind =>
      have place : base.offset + footing.offset + used = base.offset + used + footing.offset :=
        Nat.add_right_comm _ _ _
      let adopted : Run α (Value α) := do
        Run.note env.options s!"{name.word}<plugin> -> {v.describe}"
        return env.options.adopt v
      let resumed : State :=
        { state with
          cursor := ⟨behind, base.base, base.offset + used⟩, origins := state.origins.drop 1 }
      have noted : motion.Carries env.registry resumed.cursor resumed id resumed adopted adopted :=
        .bind (.note _ _) fun _ _ _ _ _ _ => .pure (env.options.adopt v)
      rw [handBack_ok name v cut, handBack_ok _ v (rest ▸ cut)]
      change motion.Ends footing id _ (adopted ⟨⟨behind, footing.base + base.base,
        base.offset + footing.offset + used⟩, last.origins.drop 1, motion.reseed state.generator, state.trace⟩)
      rw [place, left]
      exact noted.moved footing

theorem handBack_ends (name : Token) (base : Cursor) (answer : Except (PluginError α) (Value α × Nat))
    (state : State) (behind : base.Precedes state.cursor) :
    base.Precedes (endOf (handBack env name base answer state)).cursor ∧
      (endOf (handBack env name base answer state)).origins = state.origins.drop 1 ∧
      ∀ w after, handBack env name base answer state = .ok w after → ∃ v used rest,
        answer = .ok (v, used) ∧ Text.dropBytes? used base.rest = some rest ∧
        after.cursor = ⟨rest, base.base, base.offset + used⟩ := by
  cases answer with
  | error error => exact ⟨behind, rfl, nofun⟩
  | ok answer =>
    obtain ⟨v, used⟩ := answer
    cases cut : Text.dropBytes? used base.rest with
    | none =>
      rw [handBack_beyond env name v cut]
      exact ⟨behind, rfl, nofun⟩
    | some rest =>
      obtain ⟨trace, done⟩ := handBack_fits env name v cut state
      rw [done]
      refine ⟨.of_dropBytes? cut, rfl, fun w after same => ?_⟩
      cases same
      exact ⟨v, used, rest, rfl, cut, rfl⟩

theorem Recurses.callPlugin (recurses : motion.Recurses env.registry start n n' recurse recurse')
    (name : Token) {plugin : Plugin α} (shifts : plugin.Shifts motion.distance) {state : State}
    (reached : env.registry.Reaches start source)
    (leads : env.registry.Leads source (.script state.cursor (plugin.call state.cursor.rest)))
    (ready : Ready n n' state.cursor.rest.length) :
    motion.Carries env.registry source state id state (Run.callPlugin env recurse name plugin)
      (Run.callPlugin env recurse' (name.shift motion.distance) plugin) := by
  let inside : State := { state with origins := state.cursor.place :: state.origins }
  have plays : Plays motion env.registry source state.cursor inside
      (Run.play env recurse state.cursor.rest (plugin.call state.cursor.rest))
      (Run.play env recurse' state.cursor.rest (plugin.call state.cursor.rest)) :=
    play recurses (shifts state.cursor.rest) reached leads ready rfl .refl
  obtain ⟨moved, precedes, origins, answer, after, played, answers⟩ := plays
  rw [played] at precedes origins
  have here : Run.callPlugin env recurse name plugin state =
      handBack env name state.cursor answer after := by
    rw [callPlugin_eq]
    change EStateM.bind _ _ _ = _
    unfold EStateM.bind
    rw [played]
  have there (footing : motion.Footing) : ∃ last : motion.Footing,
      last.origins.drop 1 = footing.origins ∧
      Run.callPlugin env recurse' (name.shift motion.distance) plugin (state.moved footing) =
        handBack env (name.shift motion.distance) (state.cursor.move footing.base footing.offset)
          (answer.mapError (PluginError.shift motion.distance)) (after.moved last) := by
    let called : motion.Footing :=
      { footing with origins := (state.cursor.place + motion.distance) :: footing.origins }
    obtain ⟨last, same, ends⟩ := moved called rfl
    rw [played] at ends
    have place : (state.moved footing).cursor.place = state.cursor.place + motion.distance := by
      rw [← footing.sum]
      exact state.cursor.place_move footing.base footing.offset
    refine ⟨last, by rw [same]; rfl, ?_⟩
    rw [callPlugin_eq, place]
    change EStateM.bind (Run.play env recurse' state.cursor.rest (plugin.call state.cursor.rest))
      (handBack env (name.shift motion.distance) (state.cursor.move footing.base footing.offset))
      (inside.moved called) = _
    unfold EStateM.bind
    rw [ends.answered]
  obtain ⟨onward, restored, ends⟩ := @handBack_ends _ env name state.cursor answer after precedes
  refine ⟨fun footing => ?_, ⟨?_, ?_⟩, fun w final => ?_⟩
  · obtain ⟨last, left, same⟩ := there footing
    rw [same, here]
    exact handBack_moved name state.cursor answer after footing last left
  · rw [here]
    exact onward
  · rw [here, restored]
    exact congrArg (List.drop 1) origins
  · rw [here]
    intro answered
    obtain ⟨v, used, rest, rfl, cut, stopped⟩ := ends w final answered
    rw [answered] at onward restored
    refine ⟨⟨⟨onward, restored.trans (congrArg (List.drop 1) origins)⟩, ?_⟩, ?_⟩
    · rw [stopped]
    · rw [stopped]
      exact answers.resumed cut

section Reductions

variable [Scalar α]

omit [Scalar α] in
theorem seedArgument_none {state after : State}
    (unseeded : (Run.seedArgument : Run α (Option UInt64)) state = .ok none after) :
    state.cursor.advance.current.kind = .closeParen := by
  by_contra other
  have any {β : Type} (run : Run α β) : Run.Meets (fun _ => True) (fun _ => True) run := by
    intro state
    cases run state <;> trivial
  have last (opening : Token) (seed : UInt64) : Run.Meets (fun seed => seed ≠ none) (fun _ => True)
      (do Run.close opening; return some seed : Run α (Option UInt64)) :=
    (any _).bind fun _ _ => .pure nofun
  have seeded : Run.Delivers (fun seed => seed ≠ none) (fun _ => True)
      ((Run.seedArgument : Run α (Option UInt64)) state) := by
    change Run.Delivers _ _ ((Run.expect .openParen >>= _) state)
    rw [expect_bind]
    split
    · refine .fromCurrent ?_
      change ¬ (behind state).cursor.current.kind = .closeParen at other
      split
      · exact (any _).bind (fun _ _ => (any _).bind fun seed _ => last _ seed) _
      · trivial
    · trivial
  rw [unseeded] at seeded
  exact seeded rfl

theorem Recurses.callBuiltin (recurses : motion.Recurses env.registry start n n' recurse recurse')
    (name : Token) (builtin : Builtin) {state : State} (stands : Stands env.registry start n n' state)
    (same : (∃ isNormal, builtin = .random isNormal false) →
      state.cursor.advance.current.kind = .closeParen → motion.reseed = id) :
    motion.Carries env.registry state.cursor state id state (Run.callBuiltin env recurse name builtin)
      (Run.callBuiltin env recurse' (name.shift motion.distance) builtin) := by
  unfold Run.callBuiltin
  cases shape : builtin.shape with
  | name =>
    have named : motion.Tracks env.registry start n n' id
        (do
          let arg ← Run.nameArgument
          Run.lift (env.applyNamed builtin arg))
        (do
          let arg ← Run.nameArgument
          Run.lift (env.applyNamed builtin arg)) := by
      refine .bind .nameArgument fun arg => ?_
      rw [env.applyNamed_shift]
      exact .lift _
    exact named state stands
  | seed =>
    dsimp only
    refine (Tracks.seedArgument state stands).bind fun seed after answered proceeds _ reaches => ?_
    have onward := stands.after proceeds reaches
    cases builtin with
    | random isNormal seeded =>
      refine Tracks.random env isNormal seed (fun none => ?_) after onward
      subst none
      have unseeded : seeded = false := by
        cases seeded with
        | false => rfl
        | true => cases shape
      subst unseeded
      exact same ⟨isNormal, rfl⟩ (seedArgument_none answered)
    | _ =>
      rw [wrongCount_shift]
      exact .throw _
  | expressions least most =>
    exact ((Tracks.arguments recurses).bind fun args =>
      Tracks.applied env name builtin least most args) state stands

theorem Recurses.callTable (recurses : motion.Recurses env.registry start n n' recurse recurse')
    (name : Token) (table : LookupTable α) :
    motion.Tracks env.registry start n n' id (Run.callTable env recurse name table)
      (Run.callTable env recurse' (name.shift motion.distance) table) :=
  (Tracks.arguments recurses).bind fun args => Tracks.tabulated env name table args

theorem Recurses.call (recurses : motion.Recurses env.registry start n n' recurse recurse')
    (relocates : env.Relocates motion start) {state : State}
    (reached : env.registry.Reaches start state.cursor) (word : state.cursor.current.kind = .word)
    (opens : state.cursor.advance.current.kind = .openParen)
    (stands : Stands env.registry start n n' (behind state)) :
    motion.Carries env.registry state.cursor (behind state) id (behind state)
      (Run.call env recurse state.cursor.current)
      (Run.call env recurse' (state.cursor.current.shift motion.distance)) := by
  unfold Run.call
  rw [Token.shift_word]
  cases known : Builtin.ofName? state.cursor.current.word with
  | some builtin =>
    refine .fromSource ?_ .step
    refine Carries.bind (f := id) ?_ fun v _ _ _ _ _ =>
      .bind (.note _ _) fun _ _ _ _ _ _ => .pure v
    refine recurses.callBuiltin _ builtin stands fun random closes => ?_
    obtain ⟨isNormal, rfl⟩ := random
    refine relocates.quiet.resolve_right fun never => never _ reached ⟨?_, closes⟩
    cases isNormal with
    | false => exact .inl ⟨word, Builtin.name_of_rand known, opens⟩
    | true => exact .inr ⟨word, Builtin.name_of_randNormal known, opens⟩
  | none =>
    dsimp only
    cases env.repository.tables.get? state.cursor.current.word with
    | some table => exact (recurses.callTable _ table _ stands).fromSource .step
    | none =>
      dsimp only
      cases env.repository.foreign.get? state.cursor.current.word with
      | some region =>
        refine ((Tracks.bind .foreignArgument fun answer => ?_) _ stands).fromSource .step
        dsimp only
        rw [env.applyForeign_shift]
        exact .lift _
      | none =>
        dsimp only
        cases found : env.registry.get? state.cursor.current.word with
        | some plugin =>
          exact recurses.callPlugin _ (relocates.plugins _ _ found) reached
            (.called .here ⟨word, rfl, opens⟩ found) stands.ready
        | none =>
          have fails : (EvalError.unknownFunction state.cursor.current.word : EvalError α).shift
              motion.distance = .unknownFunction state.cursor.current.word := by simp only [EvalError.shift]
          let error : EvalError α := .unknownFunction state.cursor.current.word
          have thrown : motion.Carries env.registry state.cursor (behind state) (id : Value α → Value α)
              (behind state) (MonadExcept.throw error) (MonadExcept.throw (error.shift motion.distance)) :=
            .throw error
          rwa [fails] at thrown

theorem Recurses.name (recurses : motion.Recurses env.registry start n n' recurse recurse')
    (relocates : env.Relocates motion start) {state : State}
    (stands : Stands env.registry start (n + 1) (n' + 1) state)
    (word : state.cursor.current.kind = .word) :
    motion.Carries env.registry state.cursor (behind state) id state (Run.name env recurse)
      (Run.name env recurse') := by
  have inner : motion.Carries env.registry state.cursor (behind state) id (behind state)
      (if state.cursor.advance.current.kind = .openParen then
          Run.call env recurse state.cursor.current
        else if state.cursor.current.word = "unitTensor" then
          return .constantTensor .tensor Mat3.identity
        else return env.options.adopt (← Run.lift (env.lookup state.cursor.current.word)) : Run α (Value α))
      (if state.cursor.advance.current.kind = .openParen then
          Run.call env recurse' (state.cursor.current.shift motion.distance)
        else if state.cursor.current.word = "unitTensor" then
          return .constantTensor .tensor Mat3.identity
        else return env.options.adopt (← Run.lift (env.lookup state.cursor.current.word))) := by
    have below := stands.behind (by rw [word]; decide)
    split
    · rename_i opens
      exact recurses.call relocates stands.reached word opens below
    · have onward : env.registry.Reaches state.cursor (behind state).cursor := .step
      refine Carries.fromSource ?_ onward
      split
      · exact .pure _
      · exact Carries.bind (f := id) (.lifted (env.lookup_shift _)) fun v _ _ _ _ _ =>
          .pure (env.options.adopt v)
  refine inner.past rfl fun footing => ?_
  have opens : (state.moved footing).cursor.advance.current =
      state.cursor.advance.current.shift motion.distance := by
    have moved := current_moved footing (behind state)
    rwa [← behind_moved] at moved
  change (if (state.moved footing).cursor.advance.current.kind = .openParen then
      Run.call env recurse' (state.moved footing).cursor.current
    else if (state.moved footing).cursor.current.word = "unitTensor" then
      return .constantTensor .tensor Mat3.identity
    else do
      let v ← Run.lift (env.lookup (state.moved footing).cursor.current.word)
      return env.options.adopt v : Run α (Value α)) _ = _
  rw [opens, current_moved]
  rfl

theorem Recurses.operand (recurses : motion.Recurses env.registry start n n' recurse recurse')
    (relocates : env.Relocates motion start) {state : State}
    (stands : Stands env.registry start (n + 1) (n' + 1) state) :
    motion.Carries env.registry state.cursor (behind state) id state (Run.operand env recurse)
      (Run.operand env recurse') := by
  have below (more : state.cursor.current.kind ≠ .finish) := stands.behind more
  have constant (v : Value α) : motion.Carries env.registry state.cursor (behind state) id state
      (do discard Run.advance; return v) (do discard Run.advance; return v) := by
    rw [discard_bind]
    exact .read (.fromSource (.pure v) .step)
  have signed (op : UnaryOp) (more : state.cursor.current.kind ≠ .finish) :
      motion.Carries env.registry state.cursor (behind state) id state (Run.signed env recurse op)
        (Run.signed env recurse' op) :=
    .read (.fromSource (((recurses.tracks _).bind fun v =>
      Tracks.unary env.options op v state.cursor.current) _ (below more)) .step)
  refine .fromCurrent ?_
  rw [Token.shift_kind, Token.shift_invalid, Token.shift_unexpected]
  cases kind : state.cursor.current.kind with
  | minus => exact signed .negate (by rw [kind]; decide)
  | bang => exact signed .not (by rw [kind]; decide)
  | openParen =>
    have grouped : motion.Tracks env.registry start n n' id
        (do
          let value ← recurse none 0
          Run.close state.cursor.current
          return value)
        (do
          let value ← recurse' none 0
          Run.close (state.cursor.current.shift motion.distance)
          return value) :=
      (recurses.tracks 0).bind fun v => .bind (.close _) fun _ => .pure v
    exact .read (.fromSource (grouped _ (below (by rw [kind]; decide))) .step)
  | integer | decimal =>
    dsimp only
    rw [discard_bind, discard_bind]
    have read : motion.Tracks env.registry start n n' id (Run.number state.cursor.current : Run α (Value α))
        (Run.number (state.cursor.current.shift motion.distance)) := .number _
    exact .read (.fromSource (read _ (below (by rw [kind]; decide))) .step)
  | piWord | trueWord | falseWord => exact constant _
  | word => exact recurses.name relocates stands kind
  | invalid => exact .throw _
  | _ => exact .throw _

theorem Recurses.choose (recurses : motion.Recurses env.registry start n n' recurse recurse')
    (condition : Value α) {state : State} (below : Stands env.registry start n n' (behind state)) :
    motion.Carries env.registry state.cursor (behind state) id state (Run.choose env recurse condition)
      (Run.choose env recurse' condition) := by
  have branches : motion.Tracks env.registry start n n' id
      (do
        let first ← recurse none 0
        let colon ← Run.expect .colon
        let second ← recurse none Binding.otherwise
        Run.choice env.options condition first second state.cursor.current colon)
      (do
        let first ← recurse' none 0
        let colon ← Run.expect .colon
        let second ← recurse' none Binding.otherwise
        Run.choice env.options condition first second (state.cursor.current.shift motion.distance) colon) :=
    (recurses.tracks 0).bind fun first => .bind (.expect _) fun colon => (recurses.tracks _).bind fun second =>
      Tracks.choice env.options condition first second state.cursor.current colon
  refine .read ?_
  rw [Token.shift_mismatch]
  split
  · exact .thrown _ _ _
  · exact (branches _ below).fromSource .step

theorem Recurses.operation (recurses : motion.Recurses env.registry start n n' recurse recurse')
    (v : Value α) (binding : Binding) {state : State} (below : Stands env.registry start n n' (behind state)) :
    motion.Carries env.registry state.cursor (behind state) id state
      (Run.operation env recurse v binding) (Run.operation env recurse' v binding) :=
  .read (.fromSource (((recurses.tracks _).bind fun w =>
    Tracks.binary env.options binding.op v w state.cursor.current) _ below) .step)

theorem component_carries (v : Value α) {state : State}
    (below : Stands env.registry start n n' (behind state)) :
    motion.Carries env.registry state.cursor (behind state) id state (Run.component env v)
      (Run.component env v) :=
  .past (.fromSource (Tracks.namedPart env v _ below) .step) rfl fun _ => rfl

omit [Scalar α] in
theorem Recurses.goOn (recurses : motion.Recurses env.registry start n n' recurse recurse') (bound : Nat)
    {first first' : Run α (Value α)} {state : State} (reached : env.registry.Reaches start state.cursor)
    (below : Stands env.registry start n n' (behind state))
    (carries : motion.Carries env.registry state.cursor (behind state) id state first first') :
    motion.Carries env.registry state.cursor (behind state) id state (do recurse (some (← first)) bound)
      (do recurse' (some (← first')) bound) := by
  refine carries.bind fun v after _ _ onward reaches => recurses.further v bound after ?_
  refine ⟨reached.trans reaches, ?_⟩
  have shorter := onward.precedes.length_le
  rcases below.ready with same | ⟨enough, enough'⟩
  · exact .inl same
  · exact .inr ⟨by omega, by omega⟩

theorem Recurses.operator (recurses : motion.Recurses env.registry start n n' recurse recurse')
    (v : Value α) (bound : Nat) {state : State} (stands : Stands env.registry start (n + 1) (n' + 1) state) :
    motion.Carries env.registry state.cursor state id state
      (operatorAfter env recurse v bound state.cursor.current)
      (operatorAfter env recurse' v bound (state.cursor.current.shift motion.distance)) := by
  have undefined (symbol : String) : undefinedAfter symbol v (state.cursor.current.shift motion.distance) =
      (undefinedAfter symbol v state.cursor.current).shift motion.distance := Token.shift_mismatch _ _ _
  unfold operatorAfter
  rw [Token.shift_kind]
  cases found : state.cursor.current.kind.binding? v.kind with
  | none =>
    dsimp only
    rw [undefined]
    split
    · exact .throw _
    · exact .pure v
  | some binding =>
    have below : Stands env.registry start n n' (behind state) := stands.behind fun finish => by
      rw [finish] at found
      cases found
    dsimp only
    rw [undefined]
    split
    · exact .pure v
    · split
      · exact .throw _
      · exact (recurses.goOn bound stands.reached below (recurses.operation v binding below)).fromBehind

theorem Recurses.continueFrom (recurses : motion.Recurses env.registry start n n' recurse recurse')
    (v : Value α) (bound : Nat) :
    motion.Tracks env.registry start (n + 1) (n' + 1) id (Run.continueFrom env recurse v bound)
      (Run.continueFrom env recurse' v bound) := by
  intro state stands
  have operates := recurses.operator v bound stands
  refine .fromCurrent ?_
  rw [Token.shift_kind, Token.shift_invalid]
  cases kind : state.cursor.current.kind with
  | invalid => exact .throw _
  | point =>
    have below : Stands env.registry start n n' (behind state) := stands.behind (by rw [kind]; decide)
    dsimp only
    split
    · exact .pure v
    · exact (recurses.goOn bound stands.reached below (component_carries v below)).fromBehind
  | question =>
    have below : Stands env.registry start n n' (behind state) := stands.behind (by rw [kind]; decide)
    dsimp only
    split
    · exact .pure v
    · exact (recurses.goOn bound stands.reached below (recurses.choose v below)).fromBehind
  | _ =>
    unfold operatorAfter at operates
    rw [Token.shift_kind, kind] at operates
    exact operates

theorem Recurses.step (recurses : motion.Recurses env.registry start n n' recurse recurse')
    (relocates : env.Relocates motion start) :
    motion.Recurses env.registry start (n + 1) (n' + 1) (Run.step env recurse)
      (Run.step env recurse') where
  fresh bound _ stands :=
    (recurses.operand relocates stands).bind fun v after _ proceeds _ reaches =>
      recurses.continueFrom v bound after (stands.after proceeds reaches)
  further v bound := recurses.continueFrom v bound

/-- Whole evaluations, by induction on the depth on both sides: each level goes the same way if the
levels below do. -/
theorem Recurses.evaluate (relocates : env.Relocates motion start) (n n' : Nat) :
    motion.Recurses env.registry start n n' (Run.evaluate env n) (Run.evaluate env n') := by
  induction n generalizing n' with
  | zero =>
    cases n' with
    | zero => exact ⟨fun _ _ _ => .exhausted, fun _ _ _ _ => .exhausted⟩
    | succ n' =>
      have never {state : State} (stands : Stands env.registry start 0 (n' + 1) state) : False := by
        rcases stands.ready with same | ⟨enough, -⟩ <;> omega
      exact ⟨fun _ _ stands => (never stands).elim, fun _ _ _ stands => (never stands).elim⟩
  | succ n ih =>
    cases n' with
    | zero =>
      have never {state : State} (stands : Stands env.registry start (n + 1) 0 state) : False := by
        rcases stands.ready with same | ⟨-, enough⟩ <;> omega
      exact ⟨fun _ _ stands => (never stands).elim, fun _ _ _ stands => (never stands).elim⟩
    | succ n' => exact (ih n').step relocates

theorem expression_carries (relocates : env.Relocates motion start) {state : State}
    (reached : env.registry.Reaches start state.cursor) :
    motion.Carries env.registry state.cursor (behind state) id state (Run.expression env)
      (Run.expression env) := by
  have carries := (Recurses.evaluate relocates (state.cursor.rest.length + 1)
    (state.cursor.rest.length + 1)).fresh 0 state ⟨reached, .inl rfl⟩
  exact ⟨carries.moved, carries.goes, carries.arrives⟩

end Reductions

def still : Motion := ⟨0, id⟩

theorem moved_still {footing : still.Footing} {state : State} (within : footing.origins = state.origins) :
    state.moved footing = state := by
  obtain ⟨base, offset, origins, sum⟩ := footing
  obtain ⟨rfl, rfl⟩ : base = 0 ∧ offset = 0 := Nat.add_eq_zero_iff.mp sum
  subst within
  simp only [State.moved, Cursor.move, Nat.zero_add]
  rfl

theorem Ends.eq_of_still {β : Type} {footing : still.Footing}
    {result other : EStateM.Result (EvalError α) State β} (ends : still.Ends footing id result other)
    (within : (endOf result).origins = footing.origins) : other = result := by
  cases ends with
  | @ok v after =>
    have same : after.moved footing = after := moved_still within.symm
    rw [same, id]
  | @error error after last same =>
    have same : after.moved last = after := moved_still (same.trans within.symm)
    rw [same]
    exact congrArg (EStateM.Result.error · after) error.shift_zero

theorem relocates_still (env : Environment α) (start : Cursor) : env.Relocates still start :=
  ⟨fun _ plugin _ => plugin.shifts_zero, .inl rfl⟩

end Motion

end MeshLang
