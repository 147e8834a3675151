import MeshLang.Proofs.Parallel.Sessions
import MeshLang.Proofs.Relocation.Steps
import MeshLang.Proofs.SignificantTokens

namespace MeshLang

variable {α : Type}

/-- The nested steps did not suffice, here or in an argument of a plugin. -/
inductive EvalError.RanOut : EvalError α → Prop where
  | here : RanOut .exhausted
  | argument {name : String} {offset : Nat} {error : EvalError α} :
      error.RanOut → RanOut (.plugin name (.argument offset error))

theorem Correspondence.Fails.not_ranOut {L : Correspondence α}
    (none : ∀ error error', ¬ L.faults error error') {error error' : EvalError α}
    (fails : L.Fails error error') : ¬ error.RanOut := by
  induction fails with
  | taken same => exact absurd same (none _ _)
  | plain placeless =>
    rintro (_ | _)
    · exact placeless
    · exact placeless
  | unclosed =>
    unfold Token.unclosed
    split
    · exact nofun
    · exact nofun
  | argument _ _ ih =>
    rintro (_ | ranOut)
    exact ih ranOut
  | refused placeless =>
    rintro (_ | _)
    exact placeless
  | _ => exact nofun

namespace Cursor

theorem Precedes.place_lt {cursor behind : Cursor} (precedes : cursor.Precedes behind)
    (shorter : behind.rest.length < cursor.rest.length) : cursor.place < behind.place := by
  obtain ⟨taken, split, place⟩ := precedes
  cases taken with
  | nil =>
    rw [split] at shorter
    simp at shorter
  | cons c taken =>
    have positive := c.utf8Size_pos
    rw [Text.byteSize_cons] at place
    omega

theorem advance_place {cursor : Cursor} (more : cursor.current.kind ≠ .finish) :
    cursor.place < cursor.advance.place :=
  advance_precedes.place_lt (advance_length more)

def atToken (cursor : Cursor) : Cursor :=
  ⟨cursor.current.text ++ cursor.advance.rest, cursor.base, cursor.current.offset - cursor.base⟩

theorem atToken_place (cursor : Cursor) : cursor.atToken.place = cursor.current.offset := by
  have later : cursor.base ≤ cursor.current.offset := by
    rcases cursor.read_cases with ⟨-, current, -⟩ | ⟨-, finds⟩
    · rw [current]
      exact Nat.le_trans (Nat.le_add_right _ _) (Nat.le_add_right _ _)
    · obtain ⟨before, -, place⟩ := finds.split
      rw [place]
      exact Nat.le_trans (Nat.le_add_right _ _) (Nat.le_add_right _ _)
  exact Nat.add_sub_cancel' later

theorem current_between (cursor : Cursor) :
    cursor.Precedes cursor.atToken ∧ cursor.advance.place = cursor.current.stop := by
  unfold Precedes
  rw [atToken_place]
  rcases cursor.read_cases with ⟨-, current, advance⟩ | ⟨-, finds⟩
  · unfold atToken
    rw [current, advance]
    exact ⟨⟨cursor.rest, (List.append_nil _).symm, rfl⟩, (Nat.add_assoc _ _ _).symm⟩
  · exact ⟨finds.split, finds.stop⟩

/-- A place in a text with the token that is read there: all lie between characters of the text, in
this order, at offsets of 32 bits. -/
structure Lies (cursor : Cursor) (text : List Char) : Prop where
  here : Text.dropBytes? cursor.offset text = some cursor.rest
  token : Text.dropBytes? (cursor.current.offset - cursor.base) text =
    some (cursor.current.text ++ cursor.advance.rest)
  behind : Text.dropBytes? cursor.advance.offset text = some cursor.advance.rest
  ordered : cursor.offset ≤ cursor.current.offset - cursor.base ∧
    cursor.current.offset - cursor.base ≤ cursor.advance.offset ∧
    cursor.advance.offset ≤ Text.byteSize text
  fits : cursor.advance.offset < UInt32.size

theorem Precedes.dropBytes?_offset {text : List Char} {base : Nat} {cursor : Cursor}
    (precedes : Precedes ⟨text, base, 0⟩ cursor) (own : cursor.base = base) :
    Text.dropBytes? cursor.offset text = some cursor.rest := by
  have here := precedes.dropBytes?
  rw [place, own, place, Nat.add_zero, Nat.add_sub_cancel_left] at here
  exact here

theorem Precedes.lies {text : List Char} {base : Nat} {cursor : Cursor}
    (precedes : Precedes ⟨text, base, 0⟩ cursor) (own : cursor.base = base)
    (addressable : Text.Addressable text) : cursor.Lies text := by
  obtain ⟨between, stop⟩ := cursor.current_between
  have token := precedes.trans between
  have behind : Precedes ⟨text, base, 0⟩ cursor.advance := precedes.trans advance_precedes
  have bases : cursor.advance.base = base := by rw [advance_base, own]
  have follows : cursor.atToken.place ≤ cursor.advance.place := by
    rw [stop, atToken_place]
    exact Nat.le_add_right _ _
  have last : cursor.advance.offset ≤ Text.byteSize text := by
    have end_eq := behind.finish_eq
    unfold finish place at end_eq
    rw [bases] at end_eq
    dsimp only at end_eq
    omega
  refine ⟨precedes.dropBytes?_offset own, token.dropBytes?_offset own, behind.dropBytes?_offset bases,
    ⟨between.offset_le rfl, ?_, last⟩, Nat.lt_of_le_of_lt last addressable⟩
  unfold place at follows
  rw [bases, show cursor.atToken.base = base from own] at follows
  exact Nat.le_of_add_le_add_left follows

/-- Every place from this one on is a number of 32 bits. -/
def Addressable (cursor : Cursor) : Prop := cursor.finish < UInt32.size

end Cursor

namespace Run

/-- A step goes forward, whether it fails or not, and if it succeeds in the text that it started in. -/
structure Onwards {β : Type} (state : State) (run : Run α β) : Prop where
  goes : state.Goes (endOf (run state))
  proceeds : ∀ v after, run state = .ok v after → state.Proceeds after

structure Forwards {β : Type} (state : State) (run : Run α β) : Prop extends Onwards state run where
  further : ∀ v after, run state = .ok v after → state.cursor.offset < after.cursor.offset

variable [Scalar α]

def unbounded (env : Environment α) : Recursion α := fun given bound state =>
  evaluate env (state.cursor.rest.length + 1) given bound state

theorem operand_finish (env : Environment α) (recurse : Recursion α) {state : State}
    (finish : state.cursor.current.kind = .finish) :
    ∃ error, operand env recurse state = .error error state := by
  unfold operand
  rw [current_bind, finish]
  exact ⟨_, rfl⟩

theorem evaluate_finish (env : Environment α) (depth bound : Nat) {state : State}
    (finish : state.cursor.current.kind = .finish) :
    ∃ error, evaluate env depth none bound state = .error error state := by
  cases depth with
  | zero => exact ⟨_, rfl⟩
  | succ depth =>
    obtain ⟨error, fails⟩ := operand_finish env (evaluate env depth) finish
    refine ⟨error, ?_⟩
    change EStateM.bind (operand env (evaluate env depth)) _ state = _
    unfold EStateM.bind
    rw [fails]

end Run

namespace Motion

open Correspondence

variable [Scalar α] (env : Environment α)

omit [Scalar α] in
theorem Carries.forwards {β γ : Type} {motion : Motion} {source : Cursor} {f : β → γ} {state : State}
    {run : Run α β} {run' : Run α γ}
    (carries : motion.Carries env.registry source (behind state) f state run run')
    (more : ∀ v after, run state = .ok v after → state.cursor.current.kind ≠ .finish) :
    Run.Forwards state run := by
  have proceeds (v : β) (after : State) (found : run state = .ok v after) : state.Proceeds after :=
    State.Proceeds.advance.trans (carries.arrives v after found).1
  refine ⟨⟨carries.goes, proceeds⟩, fun v after found => ?_⟩
  have past := Cursor.advance_place (more v after found)
  have onward := (carries.arrives v after found).1.precedes.place_le
  have further : state.cursor.place < after.cursor.place := Nat.lt_of_lt_of_le past onward
  unfold Cursor.place at further
  rw [(proceeds v after found).base] at further
  exact Nat.lt_of_add_lt_add_left further

omit [Scalar α] in
theorem Carries.onwards {β γ : Type} {motion : Motion} {source : Cursor} {f : β → γ} {state : State}
    {run : Run α β} {run' : Run α γ}
    (carries : motion.Carries env.registry source state f state run run') : Run.Onwards state run :=
  ⟨carries.goes, fun v after found => (carries.arrives v after found).1⟩

omit [Scalar α] in
theorem stands_still (depth : Nat) (state : State) :
    Stands env.registry state.cursor depth depth state := ⟨.refl, .inl rfl⟩

theorem recurses_still (depth : Nat) (state : State) :
    still.Recurses env.registry state.cursor depth depth (Run.evaluate env depth)
      (Run.evaluate env depth) :=
  .evaluate (relocates_still env _) depth depth

theorem evaluate_forwards (depth bound : Nat) (state : State) :
    Run.Forwards state (Run.evaluate env depth none bound) := by
  refine ((recurses_still env depth state).fresh bound state (stands_still env depth state)).forwards env ?_
  intro v after found finish
  obtain ⟨error, fails⟩ := Run.evaluate_finish env depth bound finish
  rw [fails] at found
  cases found

theorem evaluate_onwards (depth : Nat) (given : Option (Value α)) (bound : Nat) (state : State) :
    Run.Onwards state (Run.evaluate env depth given bound) := by
  cases given with
  | none => exact (evaluate_forwards env depth bound state).toOnwards
  | some v =>
    exact ((recurses_still env depth state).further v bound state (stands_still env depth state)).onwards env

theorem expression_onwards (state : State) : Run.Onwards state (Run.expression env) :=
  have onwards := evaluate_onwards env (state.cursor.rest.length + 1) none 0 state
  ⟨onwards.goes, onwards.proceeds⟩

omit [Scalar α] in
theorem Carries.eq_of_still {β : Type} {registry : Registry α} {source : Cursor} {mark state : State}
    {run run' : Run α β} (carries : still.Carries registry source mark id state run run')
    (within : (endOf (run state)).origins = state.origins) : run' state = run state := by
  have ends := carries.moved (still.inside state.origins)
  rw [moved_still rfl] at ends
  exact ends.eq_of_still within

/-- From a place with fewer characters ahead than steps are left, more steps change nothing. -/
theorem evaluate_unbounded {depth : Nat} (given : Option (Value α)) (bound : Nat) {state : State}
    (enough : state.cursor.rest.length < depth) :
    Run.evaluate env depth given bound state = Run.unbounded env given bound state := by
  have recurses := Recurses.evaluate (relocates_still env state.cursor) depth (state.cursor.rest.length + 1)
  have stands : Stands env.registry state.cursor depth (state.cursor.rest.length + 1) state :=
    ⟨.refl, .inr ⟨enough, Nat.lt_succ_self _⟩⟩
  have within := (evaluate_onwards env depth given bound state).goes.origins
  cases given with
  | none => exact ((recurses.fresh bound state stands).eq_of_still within).symm
  | some v => exact ((recurses.further v bound state stands).eq_of_still within).symm

end Motion

namespace Session

variable [Scalar α]

/-- The outcome is not that the nested steps did not suffice. -/
def Settles {β : Type} (outcome : Except (EvalError α) β) : Prop :=
  ∀ error, outcome = .error error → ¬ error.RanOut

structure Terminates (session : Session α) : Prop where
  whole : ∀ text, Text.Addressable text → Settles (session.evaluate text).2
  typed : ∀ text type, Text.Addressable text → Settles (session.evaluateAs text type).2
  logical : ∀ text location, Text.Addressable text → Settles (session.evaluateLogical text location).2
  start : ∀ text, Text.Addressable text → Settles (session.evaluateStart text).2
  argument : ∀ text first expected, session.Addresses text →
    Settles (session.argument text first expected).2
  assignments : ∀ text, Text.Addressable text → Settles (session.assign text).2

omit [Scalar α] in
theorem settles_of_concludes {β γ : Type} {S : Session α → Session α → Prop} {R : β → γ → Prop}
    {result : Session α × Except (EvalError α) β} {other : Session α × Except (EvalError α) γ}
    (concludes : Correspondence.significant.Concludes S R result other) : Settles result.2 := by
  intro error failed
  cases concludes with
  | ok => cases failed
  | error fails =>
    cases failed
    exact fails.not_ranOut fun _ _ => not_false

theorem terminates (session : Session α)
    (library : ∀ name plugin, session.registry.get? name = some plugin → plugin.IsLibrary) :
    session.Terminates := by
  have corresponds (bindings : OrderedMap String (Value α)) :
      { session.environment with bindings }.Corresponds { session.environment with bindings }
        .significant :=
    Correspondence.library_corresponds _ id library
  have accepted (text : List Char) (expected : Option ValueType) (whole : Bool) :
      Settles (session.accept text expected whole).2 :=
    settles_of_concludes (accept_parallel (corresponds session.bindings) rfl (.inl rfl) expected whole)
  refine ⟨fun text _ => accepted text none true, fun text type _ => accepted text (some type) true,
    fun text location _ => accepted text (some ⟨.logical, location⟩) true,
    fun text _ => accepted text none false, fun text first expected _ => ?_, fun text _ => ?_⟩
  · exact settles_of_concludes
      (argument_parallel (corresponds session.bindings) rfl (.inl rfl) (fun _ => ⟨rfl, rfl, rfl⟩)
        expected)
  · have places : Correspondence.significant.places (α := α) (.ofText text) (.ofText text) := rfl
    exact settles_of_concludes (assignFrom_parallel corresponds rfl rfl places
      (Nat.lt_succ_self text.length) (Nat.lt_succ_self text.length))

end Session

end MeshLang
