import MeshLang.Proofs.Lockstep.Places
import MeshLang.Proofs.Parallel.Calls
import MeshLang.Proofs.Relocation.Functions

namespace MeshLang

variable {α β γ β' γ' : Type}

namespace Cursor

theorem within_shift (distance base start : Nat) (text : List Char) :
    within (distance + base) text start = (within base text start).shift distance := by
  unfold within
  cases Text.dropBytes? start text <;> rfl

end Cursor

/-- How an evaluation arises from another one: how many bytes further on it is, and which random
numbers it has ahead. -/
structure Motion where
  distance : Nat
  reseed : Generator → Generator

structure Motion.Footing (motion : Motion) where
  base : Nat
  offset : Nat
  origins : List Nat
  sum : base + offset = motion.distance

def Motion.inside (motion : Motion) (origins : List Nat) : motion.Footing :=
  ⟨motion.distance, 0, origins, rfl⟩

def State.moved {motion : Motion} (footing : motion.Footing) (state : State) : State :=
  ⟨state.cursor.move footing.base footing.offset, footing.origins, motion.reseed state.generator,
    state.trace⟩

def endOf : EStateM.Result (EvalError α) State β → State
  | .ok _ state | .error _ state => state

namespace Motion

variable {motion : Motion}

@[simp]
theorem current_moved (footing : motion.Footing) (state : State) :
    (state.moved footing).cursor.current = state.cursor.current.shift motion.distance := by
  rw [← footing.sum]
  exact state.cursor.current_move footing.base footing.offset

theorem behind_moved (footing : motion.Footing) (state : State) :
    Correspondence.behind (state.moved footing) = (Correspondence.behind state).moved footing := by
  change { state.moved footing with cursor := (state.cursor.move footing.base footing.offset).advance } = _
  rw [Cursor.advance_move]
  rfl

/-- The two ends: the same answer, or the same failure further on. A failure may arise in the text of a
plugin, which starts elsewhere than the text that the step started in. -/
inductive Ends (motion : Motion) (footing : motion.Footing) (f : β → γ) :
    EStateM.Result (EvalError α) State β → EStateM.Result (EvalError α) State γ → Prop where
  | ok {v : β} {after : State} : Ends motion footing f (.ok v after) (.ok (f v) (after.moved footing))
  | error {error : EvalError α} {after : State} (last : motion.Footing) :
      last.origins = footing.origins →
      Ends motion footing f (.error error after) (.error (error.shift motion.distance) (after.moved last))

namespace Ends

variable {footing : motion.Footing} {f : β → γ} {g : β' → γ'}

theorem answered {v : β} {after : State} {result : EStateM.Result (EvalError α) State γ}
    (ends : motion.Ends footing f (.ok v after) result) : result = .ok (f v) (after.moved footing) := by
  cases ends
  rfl

theorem failed {error : EvalError α} {after : State} {result : EStateM.Result (EvalError α) State γ}
    (ends : motion.Ends footing f (.error error after) result) : ∃ last : motion.Footing,
      last.origins = footing.origins ∧ result = .error (error.shift motion.distance) (after.moved last) := by
  cases ends with
  | error last same => exact ⟨last, same, rfl⟩

theorem bind {first : Run α β} {first' : Run α γ} {next : β → Run α β'} {next' : γ → Run α γ'}
    {state state' : State} (ends : motion.Ends footing f (first state) (first' state'))
    (rest : ∀ v after, first state = .ok v after →
      motion.Ends footing g (next v after) (next' (f v) (after.moved footing))) :
    motion.Ends footing g ((first >>= next) state) ((first' >>= next') state') := by
  change motion.Ends footing g (EStateM.bind first next state) (EStateM.bind first' next' state')
  unfold EStateM.bind
  generalize first state = result at ends rest
  generalize first' state' = other at ends
  cases ends with
  | ok => exact rest _ _ rfl
  | error last same => exact .error last same

end Ends

/-- From a state, the second step ends where the first one does, in the way the motion says. The first
one only goes forward, and succeeds behind `mark`, at a place that reading gets to from `source` on. -/
structure Carries (motion : Motion) (registry : Registry α) (source : Cursor) (mark : State)
    (f : β → γ) (state : State) (run : Run α β) (run' : Run α γ) : Prop where
  moved : ∀ footing, motion.Ends footing f (run state) (run' (state.moved footing))
  goes : state.Goes (endOf (run state))
  arrives : ∀ v after, run state = .ok v after →
    mark.Proceeds after ∧ registry.Reaches source after.cursor

namespace Carries

variable {registry : Registry α} {source : Cursor} {mark state : State} {f : β → γ} {g : β' → γ'}

theorem bind {first : Run α β} {first' : Run α γ} {next : β → Run α β'} {next' : γ → Run α γ'}
    (carries : motion.Carries registry source mark f state first first')
    (rest : ∀ v after, first state = .ok v after → state.Goes after → mark.Proceeds after →
      registry.Reaches source after.cursor →
      motion.Carries registry after.cursor after g after (next v) (next' (f v))) :
    motion.Carries registry source mark g state (first >>= next) (first' >>= next') := by
  obtain ⟨moved, goes, arrives⟩ := carries
  have ahead : (first >>= next) state = EStateM.bind first next state := rfl
  unfold EStateM.bind at ahead
  have rest (v : β) (after : State) (found : first state = .ok v after) :=
    rest v after found (by rw [found] at goes; exact goes) (arrives v after found).1 (arrives v after found).2
  refine ⟨fun footing => (moved footing).bind fun v after found => (rest v after found).moved footing, ?_,
    fun w final => ?_⟩
  · rw [ahead]
    cases found : first state with
    | ok v after =>
      rw [found] at goes
      exact goes.trans (rest v after found).goes
    | error error after =>
      rw [found] at goes
      exact goes
  · rw [ahead]
    cases found : first state with
    | ok v after =>
      intro answered
      obtain ⟨onward, reached⟩ := (rest v after found).arrives w final answered
      exact ⟨(arrives v after found).1.trans onward, (arrives v after found).2.trans reached⟩
    | error error after => exact nofun

theorem pure (v : β) : motion.Carries registry state.cursor state f state (Pure.pure v) (Pure.pure (f v)) :=
  ⟨fun _ => .ok, .refl, fun _ _ same => by cases same; exact ⟨.refl, .refl⟩⟩

theorem throw (error : EvalError α) :
    motion.Carries registry source mark f state (MonadExcept.throw error)
      (MonadExcept.throw (error.shift motion.distance)) :=
  ⟨fun footing => .error footing rfl, .refl, nofun⟩

theorem thrown (error : EvalError α) (next : β → Run α β') (next' : γ → Run α γ') :
    motion.Carries registry source mark g state (MonadExcept.throw error >>= next)
      (MonadExcept.throw (error.shift motion.distance) >>= next') :=
  ⟨fun footing => .error footing rfl, .refl, nofun⟩

theorem exhausted :
    motion.Carries registry source mark f state (MonadExcept.throw EvalError.exhausted)
      (MonadExcept.throw EvalError.exhausted) := by
  have same : (EvalError.exhausted : EvalError α).shift motion.distance = .exhausted := by
    simp only [EvalError.shift]
  have fails : motion.Carries registry source mark f state (MonadExcept.throw EvalError.exhausted)
      (MonadExcept.throw (EvalError.exhausted.shift motion.distance)) := throw .exhausted
  rwa [same] at fails

theorem lift (outcome : Except (EvalError α) β) :
    motion.Carries registry state.cursor state id state (Run.lift outcome)
      (Run.lift (shiftFailure motion.distance outcome)) := by
  cases outcome with
  | ok v => exact .pure v
  | error error => exact .throw error

theorem lifted {outcome : Except (EvalError α) β} (same : shiftFailure motion.distance outcome = outcome) :
    motion.Carries registry state.cursor state id state (Run.lift outcome) (Run.lift outcome) := by
  have carries : motion.Carries registry state.cursor state id state (Run.lift outcome)
      (Run.lift (shiftFailure motion.distance outcome)) := lift outcome
  rwa [same] at carries

theorem liftField (result : Except (FieldError α) β) :
    motion.Carries registry state.cursor state id state (Run.liftField result) (Run.liftField result) :=
  lifted (shiftFailure_field result)

theorem note (options : Options) (rule : String) :
    motion.Carries registry state.cursor state id state (Run.note options rule) (Run.note options rule) := by
  unfold Run.note
  split
  · exact ⟨fun _ => .ok, ⟨.refl, rfl⟩, fun _ _ same => by cases same; exact ⟨⟨⟨.refl, rfl⟩, rfl⟩, .refl⟩⟩
  · exact .pure ()

theorem fromCurrent {next : Token → Run α β} {next' : Token → Run α γ}
    (rest : motion.Carries registry source mark f state (next state.cursor.current)
      (next' (state.cursor.current.shift motion.distance))) :
    motion.Carries registry source mark f state (Run.current >>= next) (Run.current >>= next') := by
  refine ⟨fun footing => ?_, rest.goes, rest.arrives⟩
  have moved := rest.moved footing
  rw [← current_moved footing] at moved
  exact moved

theorem past {run inner : Run α β} {run' inner' : Run α γ}
    (carries : motion.Carries registry source mark f (Correspondence.behind state) inner inner')
    (here : run state = inner (Correspondence.behind state))
    (there : ∀ footing : motion.Footing, run' (state.moved footing) =
      inner' (Correspondence.behind (state.moved footing))) :
    motion.Carries registry source mark f state run run' := by
  obtain ⟨moved, goes, arrives⟩ := carries
  refine ⟨fun footing => ?_, ?_, ?_⟩
  · rw [there, here, behind_moved]
    exact moved footing
  · rw [here]
    exact State.Proceeds.advance.toGoes.trans goes
  · rw [here]
    exact arrives

theorem read {next : Token → Run α β} {next' : Token → Run α γ}
    (rest : motion.Carries registry source mark f (Correspondence.behind state) (next state.cursor.current)
      (next' (state.cursor.current.shift motion.distance))) :
    motion.Carries registry source mark f state (Run.advance >>= next) (Run.advance >>= next') := by
  refine rest.past rfl fun footing => ?_
  rw [← current_moved footing]
  rfl

theorem fromBehind {run : Run α β} {run' : Run α γ}
    (carries : motion.Carries registry source (Correspondence.behind mark) f state run run') :
    motion.Carries registry source mark f state run run' :=
  ⟨carries.moved, carries.goes, fun v after same =>
    ⟨State.Proceeds.advance.trans (carries.arrives v after same).1, (carries.arrives v after same).2⟩⟩

theorem fromSource {before : Cursor} {run : Run α β} {run' : Run α γ}
    (carries : motion.Carries registry source mark f state run run')
    (reaches : registry.Reaches before source) :
    motion.Carries registry before mark f state run run' :=
  ⟨carries.moved, carries.goes, fun v after same =>
    ⟨(carries.arrives v after same).1, reaches.trans (carries.arrives v after same).2⟩⟩

end Carries

def Ready (n n' length : Nat) : Prop := n = n' ∨ length < n ∧ length < n'

structure Stands (registry : Registry α) (start : Cursor) (n n' : Nat) (state : State) : Prop where
  reached : registry.Reaches start state.cursor
  ready : Ready n n' state.cursor.rest.length

namespace Stands

variable {registry : Registry α} {start : Cursor} {n n' : Nat} {state later : State}

theorem after (stands : Stands registry start n n' state) (goes : state.Goes later)
    (reaches : registry.Reaches state.cursor later.cursor) : Stands registry start n n' later := by
  have shorter := goes.precedes.length_le
  refine ⟨stands.reached.trans reaches, ?_⟩
  rcases stands.ready with same | ⟨enough, enough'⟩
  · exact .inl same
  · exact .inr ⟨by omega, by omega⟩

theorem behind (stands : Stands registry start (n + 1) (n' + 1) state)
    (more : state.cursor.current.kind ≠ .finish) :
    Stands registry start n n' (Correspondence.behind state) := by
  have shorter : state.cursor.advance.rest.length < state.cursor.rest.length :=
    Cursor.advance_length more
  refine ⟨stands.reached.advance, ?_⟩
  rcases stands.ready with same | ⟨enough, enough'⟩
  · exact .inl (Nat.succ_inj.mp same)
  · refine .inr ⟨?_, ?_⟩
    · change state.cursor.advance.rest.length < n
      omega
    · change state.cursor.advance.rest.length < n'
      omega

end Stands

def Tracks (motion : Motion) (registry : Registry α) (start : Cursor) (n n' : Nat) (f : β → γ)
    (run : Run α β) (run' : Run α γ) : Prop :=
  ∀ state, Stands registry start n n' state → motion.Carries registry state.cursor state f state run run'

namespace Tracks

variable {registry : Registry α} {start : Cursor} {n n' : Nat} {f : β → γ} {g : β' → γ'}

theorem bind {first : Run α β} {first' : Run α γ} {next : β → Run α β'} {next' : γ → Run α γ'}
    (tracks : motion.Tracks registry start n n' f first first')
    (rest : ∀ v, motion.Tracks registry start n n' g (next v) (next' (f v))) :
    motion.Tracks registry start n n' g (first >>= next) (first' >>= next') :=
  fun state stands => (tracks state stands).bind fun v after _ goes _ reaches =>
    rest v after (stands.after goes reaches)

theorem pure (v : β) : motion.Tracks registry start n n' f (Pure.pure v) (Pure.pure (f v)) :=
  fun _ _ => .pure v

theorem throw (error : EvalError α) :
    motion.Tracks registry start n n' f (throw error) (throw (error.shift motion.distance)) :=
  fun _ _ => .throw error

theorem thrown (error : EvalError α) (next : β → Run α β') (next' : γ → Run α γ') :
    motion.Tracks registry start n n' g (MonadExcept.throw error >>= next)
      (MonadExcept.throw (error.shift motion.distance) >>= next') :=
  fun _ _ => .thrown error next next'

theorem lift (outcome : Except (EvalError α) β) :
    motion.Tracks registry start n n' id (Run.lift outcome)
      (Run.lift (shiftFailure motion.distance outcome)) :=
  fun _ _ => .lift outcome

theorem liftField (result : Except (FieldError α) β) :
    motion.Tracks registry start n n' id (Run.liftField result) (Run.liftField result) :=
  fun _ _ => .liftField result

theorem note (options : Options) (rule : String) :
    motion.Tracks registry start n n' id (Run.note options rule : Run α Unit) (Run.note options rule) :=
  fun _ _ => .note options rule

theorem current :
    motion.Tracks registry start n n' (Token.shift motion.distance) (Run.current : Run α Token)
      Run.current := by
  intro state _
  refine ⟨fun footing => ?_, .refl, fun _ _ same => by cases same; exact ⟨.refl, .refl⟩⟩
  have looks : (Run.current : Run α Token) (state.moved footing) =
      .ok (state.moved footing).cursor.current (state.moved footing) := rfl
  rw [looks, current_moved]
  exact .ok

theorem advance :
    motion.Tracks registry start n n' (Token.shift motion.distance) (Run.advance : Run α Token)
      Run.advance := by
  intro state _
  have answered (after : State) : motion.Carries registry after.cursor after (Token.shift motion.distance)
      after (Pure.pure state.cursor.current) (Pure.pure (state.cursor.current.shift motion.distance)) :=
    .pure state.cursor.current
  have steps : motion.Carries registry state.cursor.advance (Correspondence.behind state)
      (Token.shift motion.distance) state (Run.advance >>= Pure.pure) (Run.advance >>= Pure.pure) :=
    .read (answered (Correspondence.behind state))
  exact Carries.fromBehind (Carries.fromSource ⟨steps.moved, steps.goes, steps.arrives⟩ .step)

theorem expect (kind : TokenKind) :
    motion.Tracks registry start n n' (Token.shift motion.distance) (Run.expect kind : Run α Token)
      (Run.expect kind) := by
  refine .bind .current fun token => ?_
  rw [Token.shift_kind, Token.shift_wanted]
  split
  · exact .advance
  · exact .throw _

theorem discarded {first : Run α β} {first' : Run α γ} {next : Run α β'} {next' : Run α γ'}
    (tracks : motion.Tracks registry start n n' f first first')
    (rest : motion.Tracks registry start n n' g next next') :
    motion.Tracks registry start n n' g (discard first >>= fun _ => next)
      (discard first' >>= fun _ => next') := by
  rw [Correspondence.discard_bind, Correspondence.discard_bind]
  exact .bind tracks fun _ => rest

theorem close (opening : Token) :
    motion.Tracks registry start n n' id (Run.close opening : Run α Unit)
      (Run.close (opening.shift motion.distance)) := by
  refine .bind .current fun token => ?_
  rw [Token.shift_kind, Token.shift_unclosed]
  split
  · have last : motion.Tracks registry start n n' id (discard (Run.advance : Run α Token) >>= fun _ => Pure.pure ())
        (discard Run.advance >>= fun _ => Pure.pure ()) := .discarded .advance (.pure ())
    rwa [bind_pure_unit] at last
  · exact .throw _

theorem nameArgument :
    motion.Tracks registry start n n' (Token.shift motion.distance) (Run.nameArgument : Run α Token)
      Run.nameArgument :=
  .bind (.expect _) fun opening => .bind (.expect _) fun name => .bind (.close opening) fun _ => .pure name

theorem seedOf (token : Token) :
    motion.Tracks registry start n n' id (Run.seedOf token : Run α UInt64)
      (Run.seedOf (token.shift motion.distance)) := by
  unfold Run.seedOf
  dsimp only
  rw [Token.shift_text, Token.shift_word, Token.shift_mismatch]
  split
  · exact .pure _
  · exact .throw _

theorem seedArgument :
    motion.Tracks registry start n n' id (Run.seedArgument : Run α (Option UInt64)) Run.seedArgument := by
  refine .bind (.expect _) fun opening => .bind .current fun token => ?_
  have last (seed : Option UInt64) : motion.Tracks registry start n n' id
      (do Run.close opening; return seed : Run α (Option UInt64))
      (do Run.close (opening.shift motion.distance); return seed) :=
    .bind (.close opening) fun _ => .pure seed
  dsimp only
  rw [Token.shift_kind, Token.shift_unexpected]
  split
  · exact .discarded .advance (.bind (.seedOf token) fun seed => last (some seed))
  · split
    · exact last none
    · exact .thrown _ _ _

theorem foreignArgument :
    motion.Tracks registry start n n' (fun answer => (answer.1.shift motion.distance, answer.2))
      (Run.foreignArgument : Run α (Token × Bool)) Run.foreignArgument := by
  refine .bind (.expect _) fun opening => .bind (.expect _) fun first => .bind .current fun token => ?_
  have last (name : Token) (old : Bool) : motion.Tracks registry start n n'
      (fun answer => (answer.1.shift motion.distance, answer.2))
      (do Run.close opening; return (name, old) : Run α (Token × Bool))
      (do Run.close (opening.shift motion.distance); return (name.shift motion.distance, old)) :=
    .bind (.close opening) fun _ => .pure (name, old)
  dsimp only
  rw [Token.shift_kind, Token.shift_word]
  split
  · exact .bind .nameArgument fun name => last name _
  · exact last first _

end Tracks

end Motion

end MeshLang
