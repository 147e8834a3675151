import MeshLang.Proofs.Acceptance.Dispatch
import MeshLang.Proofs.Evaluation.Frames

namespace MeshLang

variable {α β : Type}

def Script.Strict : Script α (Except (PluginError α) β) → Prop
  | .done _ => True
  | .argument _ _ next =>
    (∀ answer, (next (.ok answer)).Strict) ∧
      ∀ error, ∃ failure, next (.error error) = .done (.error failure)

theorem Plugin.IsLibrary.strict [Scalar α] {plugin : Plugin α} (isLibrary : plugin.IsLibrary)
    (text : List Char) : (plugin.call text).Strict := by
  obtain ⟨make, call⟩ := isLibrary.bounded
  rw [call, ofBounded_run]
  split
  · trivial
  · exact ⟨fun _ => trivial, fun error => ⟨_, rfl⟩⟩

def Environment.withRegistry (env : Environment α) (registry : Registry α) : Environment α :=
  { env with registry }

namespace Frame

def Recurses (frame : Frame) (lenient : Prop) (recurse recurse' : Recursion α) : Prop :=
  ∀ given bound, frame.Follows lenient (recurse given bound) (recurse' given bound)

/-- Two ways to draw, and other plugins, that keep to a frame. A lenient comparison admits plugins for
names that had none. -/
structure Admits [Scalar α] (frame : Frame) (lenient : Prop) (env : Environment α)
    (registry : Registry α) (draw draw' : Draw α) : Prop where
  draws : ∀ isNormal, frame.Follows lenient (draw isNormal) (draw' isNormal)
  library : lenient → ∀ {name plugin}, env.plugin? name = some plugin → plugin.IsLibrary
  plugins : ∀ name, (env.withRegistry registry).plugin? name = env.plugin? name ∨
    lenient ∧ env.plugin? name = none

inductive Plays (frame : Frame) (lenient : Prop) (origins : List Nat) :
    EStateM.Result (EvalError α) State (Except (PluginError α) β) →
    EStateM.Result (EvalError α) State (Except (PluginError α) β) → Prop where
  | done {outcome : Except (PluginError α) β} {state state' : State} :
      frame.holds origins state state' →
      Plays frame lenient origins (.ok outcome state) (.ok outcome state')
  | excused {failure : PluginError α} {state : State}
      {result : EStateM.Result (EvalError α) State (Except (PluginError α) β)} : lenient →
      Plays frame lenient origins (.ok (.error failure) state) result

namespace Recurses

open Environment.Corresponds (callPlugin_eq)

variable {frame : Frame} {lenient : Prop} {recurse recurse' : Recursion α}
  (recurses : frame.Recurses lenient recurse recurse')

include recurses

theorem argumentsFrom (opening : Token) (rounds : Nat) :
    frame.Follows lenient (Run.argumentsFrom recurse opening rounds)
      (Run.argumentsFrom recurse' opening rounds) := by
  induction rounds with
  | zero => exact .throw _
  | succ rounds ih =>
    refine Follows.current.bind fun start => (recurses none 0).bind fun value => ?_
    refine Follows.current.bind fun token => ?_
    split
    · exact Follows.skipped.bind fun _ => ih.bind fun args => .pure _
    · exact Follows.skipped.bind fun _ => .pure _
    · exact .throw _
    · exact .throw _
    · exact .throw _

theorem arguments : frame.Follows lenient (Run.arguments recurse) (Run.arguments recurse') := by
  refine (Follows.expect _).bind fun opening => Follows.current.bind fun token => ?_
  split
  · exact Follows.skipped.bind fun _ => .pure []
  · have rounds (cursor : Cursor) := recurses.argumentsFrom opening (cursor.rest.length + 1)
    exact .fromCursor rounds

omit recurses in
theorem told (env : Environment α) (registry : Registry α) (base start : Nat)
    (expected : Option ValueType) (v : Value α) :
    frame.Follows lenient (Correspondence.told env base start expected v)
      (Correspondence.told (env.withRegistry registry) base start expected v) := by
  have answer (w : Value α) (cursor : Cursor) : frame.Follows lenient
      (return (w, cursor.offset) : Run α (Value α × Nat)) (return (w, cursor.offset)) := .pure _
  cases expected with
  | none => exact .fromCursor (answer v)
  | some type =>
    have conformed (cursor : Cursor) :=
      (Follows.lift (Run.conform env v type (base + start) (base + cursor.offset))).bind fun w =>
        answer w cursor
    exact .fromCursor conformed

theorem argumentAt (env : Environment α) (registry : Registry α) (text : List Char) (start : Nat)
    (expected : Option ValueType) :
    frame.Follows lenient (Run.argumentAt env recurse text start expected)
      (Run.argumentAt (env.withRegistry registry) recurse' text start expected) := by
  constructor
  intro origins state state' holds
  obtain ⟨kept, kept'⟩ := frame.origins holds
  have base : state.origins.headD 0 = origins.headD 0 := by rw [kept]
  have base' : state'.origins.headD 0 = origins.headD 0 := by rw [kept']
  have asked := (recurses none 0).bind (told env registry (origins.headD 0) start expected)
  rw [Correspondence.argumentAt_eq, Correspondence.argumentAt_eq, base, base']
  exact asked.ends (frame.moved holds _)

theorem play (env : Environment α) (registry : Registry α) (text : List Char)
    {script : Script α (Except (PluginError α) β)} (strict : lenient → script.Strict)
    {origins : List Nat} {state state' : State} (holds : frame.holds origins state state') :
    frame.Plays lenient origins (Run.play env recurse text script state)
      (Run.play (env.withRegistry registry) recurse' text script state') := by
  induction script generalizing state state' with
  | done outcome => exact .done holds
  | argument start expected next ih =>
    have ends := (recurses.argumentAt env registry text start expected).ends holds
    rw [Correspondence.play_argument, Correspondence.play_argument]
    generalize Run.argumentAt env recurse text start expected state = result at ends ⊢
    generalize Run.argumentAt _ recurse' text start expected state' = other at ends ⊢
    cases ends with
    | ok onward => exact ih _ (fun may => (strict may).1 _) onward
    | error onward =>
      refine ih _ (fun may => ?_) onward
      obtain ⟨failure, ending⟩ := (strict may).2 _
      rw [ending]
      trivial
    -- What the second plugin is told from here on is unknown, so the first one must not go on.
    | @excused error after other may =>
      obtain ⟨failure, ending⟩ := (strict may).2 error
      show frame.Plays lenient origins (Run.play env recurse text (next (.error error)) after) _
      rw [ending]
      exact .excused may

theorem callPlugin (env : Environment α) (registry : Registry α) (name : Token) {plugin : Plugin α}
    (strict : lenient → ∀ text, (plugin.call text).Strict) :
    frame.Follows lenient (Run.callPlugin env recurse name plugin)
      (Run.callPlugin (env.withRegistry registry) recurse' name plugin) := by
  constructor
  intro origins state state' holds
  obtain ⟨kept, kept'⟩ := frame.origins holds
  rw [callPlugin_eq, callPlugin_eq, frame.cursor holds, kept, kept']
  have plays := recurses.play env registry state.cursor.rest
    (fun may => strict may state.cursor.rest) (frame.within holds (state.cursor.place :: origins))
  rw [frame.cursor holds] at plays
  show frame.Ends lenient origins (EStateM.bind _ _ _) (EStateM.bind _ _ _)
  unfold EStateM.bind
  generalize Run.play env recurse _ _ _ = result at plays ⊢
  generalize Run.play _ recurse' _ _ _ = other at plays ⊢
  cases plays with
  | excused may => exact .excused may
  | @done outcome after after' onward =>
    refine Follows.leaving ?_ onward
    rcases outcome with failure | ⟨v, consumed⟩
    · exact .throw _
    · dsimp only
      split
      · exact .throw _
      · exact (Follows.jump _).bind fun _ => .noted _ _ _

variable [Scalar α]

theorem callTable (env : Environment α) (registry : Registry α) (name : Token)
    (table : LookupTable α) :
    frame.Follows lenient (Run.callTable env recurse name table)
      (Run.callTable (env.withRegistry registry) recurse' name table) := by
  refine recurses.arguments.bind fun args => (Follows.lift _).bind fun v => ?_
  dsimp only
  split
  · exact .noted _ _ _
  · exact .pure v

theorem signed (env : Environment α) (registry : Registry α) (op : UnaryOp) :
    frame.Follows lenient (Run.signed env recurse op)
      (Run.signed (env.withRegistry registry) recurse' op) :=
  Follows.advance.bind fun token => (recurses _ _).bind fun v => .unary _ op v token

omit [Scalar α] in
theorem grouped : frame.Follows lenient (Run.grouped recurse) (Run.grouped recurse') :=
  Follows.advance.bind fun opening => (recurses none 0).bind fun v =>
    (Follows.close opening).bind fun _ => .pure v

theorem choose (env : Environment α) (registry : Registry α) (condition : Value α) :
    frame.Follows lenient (Run.choose env recurse condition)
      (Run.choose (env.withRegistry registry) recurse' condition) := by
  refine Follows.advance.bind fun question => .guarded ?_
  refine (recurses none 0).bind fun first => (Follows.expect .colon).bind fun colon => ?_
  exact (recurses none _).bind fun second => .choice _ condition first second question colon

theorem operation (env : Environment α) (registry : Registry α) (v : Value α) (binding : Binding) :
    frame.Follows lenient (Run.operation env recurse v binding)
      (Run.operation (env.withRegistry registry) recurse' v binding) :=
  Follows.advance.bind fun sign => (recurses none _).bind fun w => .binary _ _ v w sign

theorem continueFrom (env : Environment α) (registry : Registry α) (v : Value α) (bound : Nat) :
    frame.Follows lenient (Run.continueFrom env recurse v bound)
      (Run.continueFrom (env.withRegistry registry) recurse' v bound) := by
  refine Follows.current.bind fun token => ?_
  split
  · exact .throw _
  · split
    · exact .pure v
    · exact (Follows.component env v).bind fun w => recurses (some w) bound
  · split
    · exact .pure v
    · exact (recurses.choose env registry v).bind fun w => recurses (some w) bound
  · split
    · split
      · exact .throw _
      · exact .pure v
    · split
      · exact .pure v
      · split
        · exact .throw _
        · exact (recurses.operation env registry v _).bind fun w => recurses (some w) bound

end Recurses

namespace Admits

variable [Scalar α] {frame : Frame} {lenient : Prop} {env : Environment α} {registry : Registry α}
  {draw draw' : Draw α} {recurse recurse' : Recursion α}

theorem of_draws (draws : ∀ isNormal, frame.Follows False (draw isNormal) (draw' isNormal)) :
    frame.Admits False env env.registry draw draw' :=
  ⟨draws, False.elim, fun _ => .inl rfl⟩

variable (admits : frame.Admits lenient env registry draw draw')

include admits

theorem callBuiltin (recurses : frame.Recurses lenient recurse recurse') (name : Token)
    (builtin : Builtin) :
    frame.Follows lenient (Run.callBuiltinWith env draw recurse name builtin)
      (Run.callBuiltinWith (env.withRegistry registry) draw' recurse' name builtin) := by
  unfold Run.callBuiltinWith
  split
  · refine Follows.seedArgument.bind fun seed => ?_
    split
    · exact .pure _
    · exact admits.draws _
  · rename_i unseeded
    unfold Run.callBuiltin
    split
    · exact Follows.nameArgument.bind fun arg => .lift _
    · rename_i seed
      obtain ⟨isNormal, rfl⟩ := builtin.random_of_seed seed
      exact (unseeded isNormal rfl).elim
    · exact recurses.arguments.bind fun args => .guarded (.lift _)

theorem call (recurses : frame.Recurses lenient recurse recurse') (name : Token) :
    frame.Follows lenient (Run.callWith env draw recurse name)
      (Run.callWith (env.withRegistry registry) draw' recurse' name) := by
  have same : (env.withRegistry registry).repository = env.repository := rfl
  have plugins := admits.plugins name.word
  unfold Environment.plugin? at plugins
  unfold Run.callWith
  rw [same] at plugins ⊢
  cases known : Builtin.ofName? name.word with
  | some builtin => exact (admits.callBuiltin recurses name builtin).bind fun v => .noted _ _ _
  | none =>
    dsimp only
    cases tables : env.repository.tables.get? name.word with
    | some table => exact recurses.callTable env registry name table
    | none =>
      dsimp only
      cases foreign : env.repository.foreign.get? name.word with
      | some region => exact Follows.foreignArgument.bind fun field => .lift _
      | none =>
        simp only [known, tables, foreign, Option.isNone_none, Bool.and_self, if_true] at plugins
        dsimp only
        rcases plugins with same | ⟨may, none⟩
        · rw [same]
          cases found : env.registry.get? name.word with
          | none => exact .throw _
          | some plugin =>
            have called : env.plugin? name.word = some plugin := by
              simp [Environment.plugin?, known, tables, foreign, found]
            exact recurses.callPlugin env registry name fun may => (admits.library may called).strict
        · rw [none]
          exact ⟨fun _ => .excused may⟩

theorem name (recurses : frame.Recurses lenient recurse recurse') :
    frame.Follows lenient (Run.nameWith env draw recurse)
      (Run.nameWith (env.withRegistry registry) draw' recurse') := by
  refine Follows.second.bind fun following => Follows.advance.bind fun token => ?_
  split
  · exact admits.call recurses token
  · split
    · exact .pure _
    · exact (Follows.lift _).bind fun v => .pure _

theorem operand (recurses : frame.Recurses lenient recurse recurse') :
    frame.Follows lenient (Run.operandWith env draw recurse)
      (Run.operandWith (env.withRegistry registry) draw' recurse') := by
  refine Follows.current.bind fun token => ?_
  split
  · exact recurses.signed env registry .negate
  · exact recurses.signed env registry .not
  · exact recurses.grouped
  · exact Follows.skipped.bind fun _ => .number token
  · exact Follows.skipped.bind fun _ => .number token
  · exact Follows.skipped.bind fun _ => .pure _
  · exact Follows.skipped.bind fun _ => .pure _
  · exact Follows.skipped.bind fun _ => .pure _
  · exact admits.name recurses
  · exact .throw _
  · exact .throw _

theorem step (recurses : frame.Recurses lenient recurse recurse') :
    frame.Recurses lenient (Run.stepWith env draw recurse)
      (Run.stepWith (env.withRegistry registry) draw' recurse') := by
  intro given bound
  cases given with
  | some v => exact recurses.continueFrom env registry v bound
  | none => exact (admits.operand recurses).bind fun v => recurses.continueFrom env registry v bound

/-- However deep expressions nest, both sides keep to the frame. -/
theorem evaluate (depth : Nat) :
    frame.Recurses lenient (Run.evaluateWith env draw depth)
      (Run.evaluateWith (env.withRegistry registry) draw' depth) := by
  induction depth with
  | zero => exact fun _ _ => .throw _
  | succ depth ih => exact admits.step ih

theorem expression :
    frame.Follows lenient (Run.expressionWith env draw)
      (Run.expressionWith (env.withRegistry registry) draw') := by
  have nested (cursor : Cursor) := admits.evaluate (cursor.rest.length + 1) none 0
  exact .fromCursor nested

end Admits

end Frame

end MeshLang
