import MeshLang.Proofs.Evaluation.Closure

namespace MeshLang

namespace Environment.Closed

variable {α : Type} [Scalar α] {env : Environment α} {P : Value α → Prop}
  {E : EvalError α → Prop} {recurse : Recursion α}

theorem fails (closed : env.Closed P E) {β : Type} {Q : β → Prop} {error : EvalError α}
    (isPlain : error.IsPlain) : Run.Meets Q E (throw error : Run α β) :=
  .throw (closed.plain error isPlain)

theorem guarded (closed : env.Closed P E) {β γ : Type} {Q : γ → Prop}
    {check : Except (EvalError α) β} {next : β → Run α γ}
    (plain : MeshLang.Meets (fun _ => True) EvalError.IsPlain check)
    (rest : ∀ answer, Run.Meets Q E (next answer)) :
    Run.Meets Q E (Run.lift check >>= next) := by
  refine .bind (P := fun _ => True) (.lift ?_) fun answer _ => rest answer
  cases check with
  | ok answer => trivial
  | error error => exact closed.plain error plain

omit [Scalar α] in
theorem relabelled {kind : Kind} {result : Except (FieldError α) (Value α)}
    (meets : MeshLang.Meets (fun v => P (v.relabel kind)) (fun error => E (.field error)) result) :
    Run.Meets P E (do return (← Run.liftField result).relabel kind) :=
  .bind (.liftField meets) fun _ holds => .pure holds

theorem expect (closed : env.Closed P E) (kind : TokenKind) :
    Run.Meets (fun _ => True) E (Run.expect kind : Run α Token) := by
  apply Run.Meets.bind .current
  intro token _
  split
  · exact .advance
  · exact closed.fails token.wanted_isPlain

theorem expect_word (closed : env.Closed P E) :
    Run.Meets Token.IsWord E (Run.expect .word : Run α Token) := by
  intro state
  by_cases word : state.cursor.current.kind = .word
  · have read : (Run.expect .word : Run α Token) state =
        .ok state.cursor.current { state with cursor := state.cursor.advance } :=
      congrFun (if_pos word) state
    rw [read]
    exact Cursor.current_isWord word
  · have failed : (Run.expect .word : Run α Token) state =
        .error (state.cursor.current.wanted [TokenKind.word.displayName]) state :=
      congrFun (if_neg word) state
    rw [failed]
    exact closed.plain _ state.cursor.current.wanted_isPlain

theorem close (closed : env.Closed P E) (opening : Token) :
    Run.Meets (fun _ => True) E (Run.close opening : Run α Unit) := by
  apply Run.Meets.bind .current
  intro token _
  split
  · exact .bind (.discarded .advance) fun _ _ => .pure trivial
  · exact closed.fails token.unclosed_isPlain

theorem nameArgument (closed : env.Closed P E) :
    Run.Meets Token.IsWord E (Run.nameArgument : Run α Token) := by
  apply Run.Meets.bind (closed.expect .openParen)
  intro opening _
  apply Run.Meets.bind closed.expect_word
  intro name isWord
  exact .bind (closed.close opening) fun _ _ => .pure isWord

theorem foreignArgument (closed : env.Closed P E) :
    Run.Meets (fun answer => answer.1.IsWord) E (Run.foreignArgument : Run α (Token × Bool)) := by
  apply Run.Meets.bind (closed.expect .openParen)
  intro opening _
  apply Run.Meets.bind closed.expect_word
  intro first isWord
  apply Run.Meets.bind .current
  intro token _
  have last {name : Token} (isWord : name.IsWord) (old : Bool) :
      Run.Meets (fun answer => answer.1.IsWord) E
        (do Run.close opening; return (name, old) : Run α (Token × Bool)) :=
    .bind (closed.close opening) fun _ _ => .pure isWord
  dsimp only
  split
  · exact .bind closed.nameArgument fun name isWord => last isWord _
  · exact last isWord _

theorem seedOf (closed : env.Closed P E) (token : Token) :
    Run.Meets (fun _ => True) E (Run.seedOf token : Run α UInt64) := by
  unfold Run.seedOf
  dsimp only
  split
  · exact .pure trivial
  · exact closed.fails trivial

theorem seedArgument (closed : env.Closed P E) :
    Run.Meets (fun _ => True) E (Run.seedArgument : Run α (Option UInt64)) := by
  apply Run.Meets.bind (closed.expect .openParen)
  intro opening _
  apply Run.Meets.bind .current
  intro token _
  have last (seed : Option UInt64) :
      Run.Meets (fun _ => True) E (do Run.close opening; return seed : Run α (Option UInt64)) :=
    .bind (closed.close opening) fun _ _ => .pure trivial
  dsimp only
  split
  · apply Run.Meets.bind (.discarded .advance)
    intro _ _
    exact .bind (closed.seedOf token) fun seed _ => last (some seed)
  · split
    · exact last none
    · exact .bind (closed.fails (Q := fun _ => True) trivial) fun seed _ => last seed

theorem argumentsFrom (closed : env.Closed P E) (keeps : recurse.Keeps P E) (opening : Token)
    (rounds : Nat) :
    Run.Meets (fun args => ∀ arg ∈ args, P arg.value) E
      (Run.argumentsFrom recurse opening rounds) := by
  induction rounds with
  | zero => exact closed.fails trivial
  | succ rounds ih =>
    apply Run.Meets.bind .current
    intro start _
    apply Run.Meets.bind (keeps.fresh 0)
    intro value holds
    apply Run.Meets.bind .current
    intro token _
    split
    · refine .bind (.discarded .advance) fun _ _ => .bind ih fun args all => .pure ?_
      exact List.forall_mem_cons.mpr ⟨holds, all⟩
    · refine .bind (.discarded .advance) fun _ _ => .pure ?_
      intro arg member
      rcases List.mem_singleton.mp member with rfl
      exact holds
    · exact closed.fails trivial
    · exact closed.fails token.unclosed_isPlain
    · exact closed.fails trivial

theorem arguments (closed : env.Closed P E) (keeps : recurse.Keeps P E) :
    Run.Meets (fun args => ∀ arg ∈ args, P arg.value) E (Run.arguments recurse) := by
  apply Run.Meets.bind (closed.expect .openParen)
  intro opening _
  apply Run.Meets.bind .current
  intro token _
  split
  · exact .bind (.discarded .advance) fun _ _ => .pure (by simp)
  · exact .bind .get fun _ _ => closed.argumentsFrom keeps opening _

theorem conform (closed : env.Closed P E) {v : Value α} (holds : P v) (type : ValueType)
    (start stop : Nat) :
    MeshLang.Meets (fun w => P w ∧ w.type? = some type) E
      (Run.conform env v type start stop) := by
  have refused : ∀ diagnostic, E (.grammar diagnostic) := fun _ => closed.plain _ trivial
  have expanded := closed.expand v type.location holds
  cases found : v.location with
  | none =>
    by_cases same : v.kind = type.kind
    · have typed : (v.broadcastTo type.location (env.mesh.size type.location)).type? = some type := by
        simp [Value.broadcastTo, Value.isConstant, Value.uniform, Value.type?, found, same]
      simp only [Run.conform, found, same, decide_true, Bool.and_true, if_true]
      exact .ok ⟨expanded, typed⟩
    · simp only [Run.conform, found, same, decide_false, Bool.false_and, Bool.false_eq_true, if_false]
      exact .error (refused _)
  | some location =>
    by_cases same : v.kind = type.kind ∧ location = type.location
    · obtain ⟨kind, rfl⟩ := same
      have typed : (v.broadcastTo type.location (env.mesh.size type.location)).type? = some type := by
        simp [Value.broadcastTo, Value.isConstant, Value.type?, found, kind]
      simp only [Run.conform, found, kind, decide_true, beq_self_eq_true, Bool.and_self, if_true]
      exact .ok ⟨expanded, typed⟩
    · have differs : (decide (v.kind = type.kind) && location == type.location) = false := by
        simpa using same
      simp only [Run.conform, found, differs, Bool.false_eq_true, if_false]
      exact .error (refused _)

theorem argumentAt (closed : env.Closed P E) (keeps : recurse.Keeps P E) (text : List Char)
    (start : Nat) (expected : Option ValueType) :
    Run.Meets
      (fun answer => P answer.1 ∧ ∀ type, expected = some type → answer.1.type? = some type) E
      (Run.argumentAt env recurse text start expected) := by
  refine .bind .get fun _ _ => .bind .jump fun _ _ => ?_
  refine .bind (keeps.fresh 0) fun value holds => .bind .get fun _ _ => ?_
  cases expected with
  | none => exact .pure ⟨holds, by simp⟩
  | some type =>
    refine .bind (.lift (closed.conform holds type _ _)) fun w both => .pure ⟨both.1, ?_⟩
    intro other same
    cases same
    exact both.2

theorem play (closed : env.Closed P E) (keeps : recurse.Keeps P E) {β : Type} {Q : β → Prop}
    (text : List Char) {script : Script α β} (meets : script.Meets P E Q) :
    Run.Meets Q E (Run.play env recurse text script) := by
  induction script with
  | done answer => exact .pure meets
  | argument start expected next ih =>
    apply Run.Meets.bind (.attempt (closed.argumentAt keeps text start expected))
    intro told promised
    exact ih told (meets told promised)

theorem callPlugin (closed : env.Closed P E) (keeps : recurse.Keeps P E) (name : Token)
    {plugin : Plugin α} (answers : plugin.Keeps P E) :
    Run.Meets P E (Run.callPlugin env recurse name plugin) := by
  refine .bind .get fun _ _ => .bind .modified fun _ _ => ?_
  apply Run.Meets.bind (closed.play keeps _ (answers _))
  intro outcome delivered
  apply Run.Meets.bind .modified
  intro _ _
  cases outcome with
  | error error => exact .throw (delivered name.word)
  | ok answer =>
    obtain ⟨value, consumed⟩ := answer
    dsimp only
    split
    · exact closed.fails trivial
    · exact .bind .jump fun _ _ => .bind .note fun _ _ => .pure (closed.adopt value delivered)

theorem random (closed : env.Closed P E) (isNormal : Bool) (seed : Option UInt64) :
    Run.Meets P E (Run.random env isNormal seed) := by
  cases seed with
  | some seed => exact .pure (closed.cells _ (Generator.sample_length _ _ _))
  | none =>
    refine .bind .get fun state _ => .bind .set fun _ _ => ?_
    exact .pure (closed.cells _ (Generator.sample_length _ _ _))

theorem callBuiltin (closed : env.Closed P E) (keeps : recurse.Keeps P E) (name : Token)
    (builtin : Builtin) : Run.Meets P E (Run.callBuiltin env recurse name builtin) := by
  unfold Run.callBuiltin
  split
  · exact .bind closed.nameArgument fun arg _ => .lift (closed.named builtin arg)
  · apply Run.Meets.bind closed.seedArgument
    intro seed _
    split
    · exact closed.random _ seed
    · exact closed.fails trivial
  · apply Run.Meets.bind (closed.arguments keeps)
    intro args all
    dsimp only
    split
    · exact .bind (closed.fails (Q := fun _ => True) trivial) fun _ _ =>
        .lift (closed.functions builtin name args all)
    · exact .lift (closed.functions builtin name args all)

theorem callTable (closed : env.Closed P E) (keeps : recurse.Keeps P E) (name : Token)
    {table : LookupTable α} (stored : env.repository.tables.get? name.word = some table) :
    Run.Meets P E (Run.callTable env recurse name table) := by
  apply Run.Meets.bind (closed.arguments keeps)
  intro args all
  apply Run.Meets.bind (.lift (closed.tables _ table name args stored all))
  intro value holds
  dsimp only
  split
  · exact .bind .note fun _ _ => .pure holds
  · exact .pure holds

theorem call (closed : env.Closed P E) (keeps : recurse.Keeps P E) {name : Token}
    (isWord : name.IsWord) : Run.Meets P E (Run.call env recurse name) := by
  unfold Run.call
  split
  · apply Run.Meets.bind (closed.callBuiltin keeps name _)
    intro value holds
    exact .bind .note fun _ _ => .pure holds
  · rename_i unnamed
    split
    · exact closed.callTable keeps name (by assumption)
    · rename_i untabled
      split
      · rename_i region stored
        apply Run.Meets.bind closed.foreignArgument
        intro field fieldWord
        exact .lift (closed.meshes region name field.1 field.2 isWord fieldWord unnamed untabled stored)
      · split
        · exact closed.callPlugin keeps name (closed.plugins name.word _ (by assumption))
        · exact closed.fails trivial

theorem name (closed : env.Closed P E) (keeps : recurse.Keeps P E) {state : State}
    (word : state.cursor.current.kind = .word) : Run.Delivers P E (Run.name env recurse state) := by
  have isWord := Cursor.current_isWord word
  have named : Run.Meets P E (do
      if state.cursor.advance.current.kind = .openParen then
        Run.call env recurse state.cursor.current
      else if state.cursor.current.word = "unitTensor" then
        return .constantTensor .tensor Mat3.identity
      else return env.options.adopt (← Run.lift (env.lookup state.cursor.current.word))) := by
    split
    · exact closed.call keeps isWord
    · split
      · exact .pure closed.identity
      · exact .bind (.lift (closed.names _)) fun v holds => .pure holds
  exact named { state with cursor := state.cursor.advance }

theorem number (closed : env.Closed P E) (token : Token) :
    Run.Meets P E (Run.number token : Run α (Value α)) := by
  unfold Run.number
  split
  · exact .pure (closed.numbers _)
  · exact closed.fails trivial

theorem unary (closed : env.Closed P E) (op : UnaryOp) {v : Value α} (holds : P v) (place : Token) :
    Run.Meets P E (Run.unary env.options op v place) := by
  unfold Run.unary
  split
  · exact closed.fails trivial
  · rename_i kind legal
    exact .bind .note fun _ _ => relabelled (closed.signs op v kind legal holds)

theorem binary (closed : env.Closed P E) (op : BinaryOp) {v w : Value α} (left : P v) (right : P w)
    (place : Token) : Run.Meets P E (Run.binary env.options op v w place) := by
  unfold Run.binary
  split
  · exact closed.fails trivial
  · rename_i kind legal
    refine closed.guarded (checkLocations_isPlain op.symbol v w place) fun _ => ?_
    exact .bind .note fun _ _ => relabelled (closed.operators op v w kind legal left right)

theorem choice (closed : env.Closed P E) {c v w : Value α} (condition : P c) (first : P v)
    (second : P w) (question colon : Token) :
    Run.Meets P E (Run.choice env.options c v w question colon) := by
  unfold Run.choice
  split
  · exact closed.fails trivial
  · rename_i kind legal
    refine closed.guarded (checkLocations_isPlain "?:" c v question) fun _ => ?_
    refine closed.guarded (checkLocations_isPlain "?:" v w colon) fun _ => ?_
    refine closed.guarded (checkLocations_isPlain "?:" c w question) fun _ => ?_
    apply Run.Meets.bind .note
    intro _ _
    exact relabelled (closed.choices c v w kind legal condition first second)

theorem part (closed : env.Closed P E) {v : Value α} (holds : P v) (name : Token) :
    Run.Meets P E (Run.part env.options v name) := by
  unfold Run.part
  split
  · rename_i w found
    exact .bind .note fun _ _ => .pure (closed.components v w name.word found holds)
  · exact closed.fails trivial

theorem tensorPart (closed : env.Closed P E) {v : Value α} (holds : P v) (name : Token)
    (function : TensorFunction) : Run.Meets P E (Run.tensorPart env v name function) := by
  apply Run.Meets.bind (.discarded (closed.expect .openParen))
  intro _ _
  apply Run.Meets.bind (.discarded (closed.expect .closeParen))
  intro _ _
  by_cases tensorLike : v.kind.isTensorLike
  · simp only [tensorLike, Bool.not_true, Bool.false_eq_true, if_false]
    exact .bind .note fun _ _ => .liftField (closed.tensors function v tensorLike holds)
  · simp only [tensorLike, Bool.not_false, if_true]
    exact .bind (closed.fails (Q := fun _ => False) trivial) fun _ absurd => absurd.elim

theorem component (closed : env.Closed P E) {v : Value α} (holds : P v) :
    Run.Meets P E (Run.component env v) := by
  refine .bind (.discarded .advance) fun _ _ => .bind .current fun token _ => ?_
  split
  · exact .bind (closed.fails (Q := fun _ => False) trivial) fun _ never => never.elim
  · refine .bind .advance fun name _ => .bind .current fun following _ => ?_
    split
    · split
      · exact closed.tensorPart holds name _
      · exact closed.part holds name
    · exact closed.part holds name

theorem signed (closed : env.Closed P E) (keeps : recurse.Keeps P E) (op : UnaryOp) :
    Run.Meets P E (Run.signed env recurse op) := by
  apply Run.Meets.bind .advance
  intro token _
  exact .bind (keeps.fresh _) fun value holds => closed.unary op holds token

theorem grouped (closed : env.Closed P E) (keeps : recurse.Keeps P E) :
    Run.Meets P E (Run.grouped recurse) := by
  refine .bind .advance fun opening _ => .bind (keeps.fresh 0) fun value holds => ?_
  exact .bind (closed.close opening) fun _ _ => .pure holds

theorem operand (closed : env.Closed P E) (keeps : recurse.Keeps P E) :
    Run.Meets P E (Run.operand env recurse) := by
  refine fun state => .fromCurrent ?_
  have numbered (token : Token) :
      Run.Meets P E (do discard Run.advance; Run.number token : Run α (Value α)) :=
    .bind (.discarded .advance) fun _ _ => closed.number token
  have constant {v : Value α} (holds : P v) :
      Run.Meets P E (do discard Run.advance; return v : Run α (Value α)) :=
    .bind (.discarded .advance) fun _ _ => .pure holds
  cases kind : state.cursor.current.kind with
  | minus => exact closed.signed keeps .negate state
  | bang => exact closed.signed keeps .not state
  | openParen => exact closed.grouped keeps state
  | integer | decimal => exact numbered _ state
  | piWord => exact constant (closed.numbers _) state
  | trueWord => exact constant (closed.truths true) state
  | falseWord => exact constant (closed.truths false) state
  | word => exact closed.name keeps kind
  | invalid => exact closed.plain _ Token.invalid_isPlain
  | _ => exact closed.plain _ Token.unexpected_isPlain

theorem choose (closed : env.Closed P E) (keeps : recurse.Keeps P E) {condition : Value α}
    (holds : P condition) : Run.Meets P E (Run.choose env recurse condition) := by
  apply Run.Meets.bind .advance
  intro question _
  have branches : Run.Meets P E (do
      let first ← recurse none 0
      let colon ← Run.expect .colon
      let second ← recurse none Binding.otherwise
      Run.choice env.options condition first second question colon) := by
    refine .bind (keeps.fresh 0) fun first one => .bind (closed.expect .colon) fun colon _ => ?_
    apply Run.Meets.bind (keeps.fresh _)
    intro second other
    exact closed.choice holds one other question colon
  split
  · exact .bind (closed.fails (Q := fun _ => True) trivial) fun _ _ => branches
  · exact branches

theorem operation (closed : env.Closed P E) (keeps : recurse.Keeps P E) {v : Value α} (holds : P v)
    (binding : Binding) : Run.Meets P E (Run.operation env recurse v binding) := by
  refine .bind .advance fun sign _ => .bind (keeps.fresh _) fun w right => ?_
  exact closed.binary binding.op holds right sign

theorem continueFrom (closed : env.Closed P E) (keeps : recurse.Keeps P E) {v : Value α}
    (holds : P v) (bound : Nat) : Run.Meets P E (Run.continueFrom env recurse v bound) := by
  apply Run.Meets.bind .current
  intro token _
  split
  · exact closed.fails token.invalid_isPlain
  · split
    · exact .pure holds
    · exact .bind (closed.component holds) fun w part => keeps.further part bound
  · split
    · exact .pure holds
    · exact .bind (closed.choose keeps holds) fun w chosen => keeps.further chosen bound
  · split
    · split
      · exact closed.fails trivial
      · exact .pure holds
    · split
      · exact .pure holds
      · split
        · exact closed.fails trivial
        · exact .bind (closed.operation keeps holds _) fun w result => keeps.further result bound

theorem step (closed : env.Closed P E) (keeps : recurse.Keeps P E) :
    Recursion.Keeps (Run.step env recurse) P E := by
  intro left bound holds
  cases left with
  | none => exact .bind (closed.operand keeps) fun v value => closed.continueFrom keeps value bound
  | some v => exact closed.continueFrom keeps (holds v rfl) bound

/-- Whole evaluations, by induction on the depth: each level hands on what the one below it does. -/
theorem evaluate (closed : env.Closed P E) (depth : Nat) :
    Recursion.Keeps (Run.evaluate env depth) P E := by
  induction depth with
  | zero => exact fun _ _ _ => closed.fails trivial
  | succ depth keeps => exact closed.step keeps

theorem expression (closed : env.Closed P E) : Run.Meets P E (Run.expression env) :=
  .bind .get fun _ _ => (closed.evaluate _).fresh 0

theorem finish (closed : env.Closed P E) (v : Value α) :
    Run.Meets (fun _ => True) E (Run.finish v : Run α Unit) := by
  apply Run.Meets.bind .current
  intro token _
  split
  · exact .pure trivial
  · exact closed.fails token.invalid_isPlain
  · exact closed.fails trivial

end Environment.Closed

/-- The values that the steps of evaluations make: of operands, of what follows them, and of whole
expressions, for a plugin or not, at any depth and from any state. -/
inductive Environment.Produces {α : Type} [Scalar α] (env : Environment α) : Value α → Prop where
  | operand {depth : Nat} {before after : State} {v : Value α} :
      Run.operand env (Run.evaluate env depth) before = .ok v after → Produces env v
  | call {depth : Nat} {name : Token} {before after : State} {v : Value α} : name.IsWord →
      Run.call env (Run.evaluate env depth) name before = .ok v after → Produces env v
  | component {before after : State} {v w : Value α} : Produces env v →
      Run.component env v before = .ok w after → Produces env w
  | choose {depth : Nat} {before after : State} {v w : Value α} : Produces env v →
      Run.choose env (Run.evaluate env depth) v before = .ok w after → Produces env w
  | operation {depth : Nat} {binding : Binding} {before after : State} {v w : Value α} :
      Produces env v → Run.operation env (Run.evaluate env depth) v binding before = .ok w after →
      Produces env w
  | expression {depth bound : Nat} {before after : State} {v : Value α} :
      Run.evaluate env depth none bound before = .ok v after → Produces env v
  | further {depth bound : Nat} {before after : State} {v w : Value α} : Produces env v →
      Run.evaluate env depth (some v) bound before = .ok w after → Produces env w
  | argument {depth start stop : Nat} {text : List Char} {expected : Option ValueType}
      {before after : State} {v : Value α} :
      Run.argumentAt env (Run.evaluate env depth) text start expected before = .ok (v, stop) after →
      Produces env v

theorem Environment.Produces.holds {α : Type} [Scalar α] {env : Environment α} {P : Value α → Prop}
    {E : EvalError α → Prop} {v : Value α} (closed : env.Closed P E) (produced : env.Produces v) :
    P v := by
  have keeps (depth : Nat) := closed.evaluate depth
  induction produced with
  | operand made => exact (closed.operand (keeps _)).of_ok made
  | call isWord made => exact (closed.call (keeps _) isWord).of_ok made
  | component _ made ih => exact (closed.component ih).of_ok made
  | choose _ made ih => exact (closed.choose (keeps _) ih).of_ok made
  | operation _ made ih => exact (closed.operation (keeps _) ih _).of_ok made
  | expression made => exact ((keeps _).fresh _).of_ok made
  | further _ made ih => exact ((keeps _).further ih _).of_ok made
  | argument made => exact ((closed.argumentAt (keeps _) _ _ _).of_ok made).1

end MeshLang
