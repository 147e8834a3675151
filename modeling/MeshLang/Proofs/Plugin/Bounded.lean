import MeshLang.Proofs.Parallel.Calls

namespace MeshLang

variable {α : Type}

namespace Plugin

variable [Scalar α]

def bounds (args : Arguments) : Except (PluginError α) ((α × α) × Arguments) := do
  let (_, args) ← args.separator
  let (low, args) ← args.scalar
  let (_, args) ← args.separator
  let (high, args) ← args.scalar
  let (_, args) ← args.closeList
  if Scalar.lt high low then .error (.invertedBounds low high) else .ok ((low, high), args)

def answerBounded (make : Bounded α → Value α) (v : Value α) (args : Arguments) :
    Except (PluginError α) (Value α × Nat) :=
  if v.kind ≠ .scalar then .error (.wrongType "scalar" v.describe)
  else (bounds args).map fun answer => (make ⟨v, answer.1.1, answer.1.2⟩, answer.2.offset)

theorem ofBounded_run (make : Bounded α → Value α) (text : List Char) :
    (ofBounded make).run text =
      match (Arguments.ofText text).openList with
      | .error error => .done (.error error)
      | .ok (_, args) => .argument args.offset none fun told =>
        .done (args.afterExpression told >>= fun answer => answerBounded make answer.1 answer.2) := by
  unfold Reading.run ofBounded bounded
  simp only [Bind.bind, Reading.andThen, Reading.step, Script.andThen]
  rcases (Arguments.ofText text).openList with error | ⟨_, args⟩
  · rfl
  · simp only [Reading.expression, Script.andThen]
    congr 1
    funext told
    rcases args.afterExpression told with error | ⟨v, args⟩
    · rfl
    · simp only [answerBounded, Except.bind]
      split
      · rfl
      · simp only [bounds, Bind.bind, Except.bind, Reading.andThen, Reading.step, Script.andThen]
        rcases args.separator with error | ⟨_, args⟩
        · rfl
        dsimp only
        rcases args.scalar (α := α) with error | ⟨low, args⟩
        · rfl
        dsimp only
        rcases args.separator with error | ⟨_, args⟩
        · rfl
        dsimp only
        rcases args.scalar (α := α) with error | ⟨high, args⟩
        · rfl
        dsimp only
        rcases args.closeList with error | ⟨_, args⟩
        · rfl
        dsimp only
        split <;> rfl

theorem IsLibrary.bounded {plugin : Plugin α} (isLibrary : plugin.IsLibrary) :
    ∃ make, plugin.call = (ofBounded make).run := by
  rcases isLibrary with rfl | rfl
  · exact ⟨_, rfl⟩
  · exact ⟨_, rfl⟩

end Plugin

def Cursor.since (cursor base : Cursor) : Cursor := ⟨cursor.rest, 0, cursor.place - base.place⟩

namespace Cursor

variable {base cursor : Cursor}

theorem Precedes.shift_since (precedes : base.Precedes cursor) :
    cursor.Meets ((cursor.since base).shift base.place) :=
  ⟨rfl, Nat.add_sub_cancel' precedes.place_le⟩

theorem openList_ofText (opens : base.current.kind = .openParen) :
    (Arguments.ofText base.rest).openList (α := α) = .ok ((), base.advance.since base) := by
  let start := Arguments.ofText base.rest
  have meets : base.Meets (start.shift base.place) := ⟨rfl, rfl⟩
  have current := meets.current
  have advance := meets.advance
  rw [current_shift] at current
  rw [advance_shift] at advance
  have kind : start.current.kind = .openParen := by
    rw [← opens, ← current]
    rfl
  have place : start.advance = base.advance.since base := by
    have base' : start.advance.base = 0 := advance_base _
    have offset : base.place + start.advance.base + start.advance.offset = base.advance.place := advance.place
    rw [base', Nat.add_zero] at offset
    have later := base.advance_precedes.place_le
    rw [Cursor.since, ← advance.rest, show base.advance.place - base.place = start.advance.offset by omega,
      ← base']
    rfl
  unfold Arguments.openList Arguments.sign
  rw [show (Arguments.ofText base.rest).next? = some (start.current, start.advance) from
    next?_of_more (by rw [kind]; decide)]
  dsimp only
  rw [if_pos kind, place]

end Cursor

namespace Plugin

variable [Scalar α]

open Correspondence Environment.Corresponds

def finishBounded (env : Environment α) (name : Token) (make : Bounded α → Value α) (base : Cursor) :
    EStateM.Result (EvalError α) State (Value α) → EStateM.Result (EvalError α) State (Value α)
  | .ok v state =>
    handBack env name base
      (Arguments.afterExpression (base.advance.since base) (.ok (v, state.cursor.offset)) >>=
        fun answer => answerBounded make answer.1 answer.2) state
  | .error error state =>
    handBack env name base (.error (.argument (base.advance.since base).offset error)) state

/-- A call of a plugin with bounds evaluates the expression behind the parenthesis, in the text behind
the name. -/
theorem callBounded_eq (env : Environment α) (recurse : Recursion α) (name : Token) {plugin : Plugin α}
    {make : Bounded α → Value α} {state : State}
    (call : plugin.call state.cursor.rest = (ofBounded make).run state.cursor.rest)
    (opens : state.cursor.current.kind = .openParen) :
    Run.callPlugin env recurse name plugin state =
      finishBounded env name make state.cursor
        (recurse none 0 { state with
          cursor := (state.cursor.advance.since state.cursor).shift state.cursor.place
          origins := state.cursor.place :: state.origins }) := by
  have start : Cursor.within state.cursor.place state.cursor.rest
      (state.cursor.advance.since state.cursor).offset =
        (state.cursor.advance.since state.cursor).shift state.cursor.place :=
    Cursor.advance_precedes.within
  have asked (state : State) (base start : Nat) :
      (recurse none 0 >>= told env base start none) state =
        match recurse none 0 state with
        | .ok v after => .ok (v, after.cursor.offset) after
        | .error error after => .error error after := by
    change EStateM.bind (recurse none 0) _ state = _
    unfold EStateM.bind
    cases recurse none 0 state <;> rfl
  rw [callPlugin_eq, call, ofBounded_run, Cursor.openList_ofText opens]
  change EStateM.bind (Run.play env recurse state.cursor.rest (.argument _ none _)) _ _ = _
  unfold EStateM.bind
  rw [play_argument, argumentAt_eq, asked]
  dsimp only [List.headD_cons]
  rw [start]
  cases recurse none 0 { state with
    cursor := (state.cursor.advance.since state.cursor).shift state.cursor.place
    origins := state.cursor.place :: state.origins } with
  | ok v after => rfl
  | error error after => rfl

end Plugin

end MeshLang
