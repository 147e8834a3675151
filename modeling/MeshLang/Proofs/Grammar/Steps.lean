import MeshLang.Proofs.Grammar.Independence

namespace MeshLang

variable {α β γ : Type}

section Reduced

theorem guard_eq_some {holds : Prop} [Decidable holds] {answer : Unit} :
    (guard holds : Option Unit) = some answer ↔ holds := by
  unfold guard
  split <;> simp_all

variable [Scalar α] {c v w u : Value α}

theorem UnaryOp.reduce?_some {op : UnaryOp} (reduced : op.reduce? v = some u) :
    ∃ kind result, op.result? v.kind = some kind ∧ op.apply v = .ok result ∧ result.relabel kind = u := by
  obtain ⟨kind, legal, reduced⟩ := Option.bind_eq_some_iff.mp reduced
  obtain ⟨result, applied, same⟩ := Option.bind_eq_some_iff.mp reduced
  exact ⟨kind, result, legal, toOption_eq_some.mp applied, Option.some.inj same⟩

theorem BinaryOp.reduce?_some {op : BinaryOp} (reduced : op.reduce? v w = some u) :
    ∃ kind result, op.result? v.kind w.kind = some kind ∧ v.meets w = true ∧
      op.apply v w = .ok result ∧ result.relabel kind = u := by
  obtain ⟨kind, legal, reduced⟩ := Option.bind_eq_some_iff.mp reduced
  obtain ⟨_, meets, reduced⟩ := Option.bind_eq_some_iff.mp reduced
  obtain ⟨result, applied, same⟩ := Option.bind_eq_some_iff.mp reduced
  exact ⟨kind, result, legal, guard_eq_some.mp meets, toOption_eq_some.mp applied, Option.some.inj same⟩

theorem Value.choice?_some (reduced : choice? c v w = some u) :
    ∃ kind result, choiceResult? c.kind v.kind w.kind = some kind ∧
      (c.meets v = true ∧ v.meets w = true ∧ c.meets w = true) ∧
      select c v w = .ok result ∧ result.relabel kind = u := by
  obtain ⟨kind, legal, reduced⟩ := Option.bind_eq_some_iff.mp reduced
  obtain ⟨_, meets, reduced⟩ := Option.bind_eq_some_iff.mp reduced
  obtain ⟨result, applied, same⟩ := Option.bind_eq_some_iff.mp reduced
  have together := guard_eq_some.mp meets
  simp only [Bool.and_eq_true] at together
  obtain ⟨⟨first, branches⟩, second⟩ := together
  exact ⟨kind, result, legal, ⟨first, branches, second⟩, toOption_eq_some.mp applied, Option.some.inj same⟩

theorem BinaryOp.reduce?_kind {op : BinaryOp} (reduced : op.reduce? v w = some u) :
    ∃ kind, op.result? v.kind w.kind = some kind ∧ u.kind = kind := by
  obtain ⟨kind, result, legal, -, -, rfl⟩ := reduce?_some reduced
  exact ⟨kind, legal, rfl⟩

theorem Value.choice?_kind (reduced : choice? c v w = some u) :
    c.kind = .logical ∧ u.kind = w.kind := by
  obtain ⟨kind, result, legal, -, -, rfl⟩ := choice?_some reduced
  unfold choiceResult? at legal
  split at legal
  · rename_i both
    simp only [Bool.and_eq_true, decide_eq_true_eq] at both
    cases legal
    exact ⟨both.1, both.2⟩
  · cases legal

end Reduced

namespace Run

theorem bind_ok {first : Run α β} {next : β → Run α γ} {answer : β} {before after : State}
    (done : first before = .ok answer after) : (first >>= next) before = next answer after := by
  simp only [Bind.bind, EStateM.bind, done]

theorem pure_eq (answer : β) (state : State) : (pure answer : Run α β) state = .ok answer state := rfl

theorem current_eq (state : State) : (current : Run α Token) state = .ok state.cursor.current state := rfl

theorem advance_eq (state : State) :
    (advance : Run α Token) state =
      .ok state.cursor.current { state with cursor := state.cursor.advance } := rfl

theorem discard_ok {run : Run α β} {answer : β} {before after : State}
    (done : run before = .ok answer after) : discard run before = .ok () after := by
  simp only [discard, Functor.mapConst, EStateM.map, Function.comp, Function.const, done]

theorem lift_ok {result : Except (EvalError α) β} {answer : β} (done : result = .ok answer)
    (state : State) : lift result state = .ok answer state := by
  subst done
  rfl

def notes (options : Options) (rule : String) : List String := if options.trace then [rule] else []

theorem note_eq (options : Options) (rule : String) (state : State) :
    (note options rule : Run α Unit) state =
      .ok () { state with trace := state.trace ++ notes options rule } := by
  unfold note notes
  split
  · rfl
  · rw [List.append_nil]
    rfl

theorem note_ok (options : Options) (rule : String) (state : State) :
    ∃ trace, (note options rule : Run α Unit) state = .ok () { state with trace } :=
  ⟨_, note_eq options rule state⟩

theorem expect_ok {kind : TokenKind} {state : State} (found : state.cursor.current.kind = kind) :
    (expect kind : Run α Token) state =
      .ok state.cursor.current { state with cursor := state.cursor.advance } := by
  unfold expect
  rw [bind_ok (current_eq state), if_pos found]
  rfl

theorem close_ok {opening : Token} {state : State} (found : state.cursor.current.kind = .closeParen) :
    (close opening : Run α Unit) state = .ok () { state with cursor := state.cursor.advance } := by
  unfold close
  rw [bind_ok (current_eq state), if_pos found]
  exact discard_ok (advance_eq state)

section Reductions

variable [Scalar α] (options : Options)

theorem unary_ok {op : UnaryOp} {v u : Value α} (reduced : op.reduce? v = some u) (place : Token)
    (state : State) : ∃ trace, unary options op v place state = .ok u { state with trace } := by
  obtain ⟨kind, result, legal, applied, rfl⟩ := UnaryOp.reduce?_some reduced
  unfold unary
  simp only [legal]
  obtain ⟨trace, noted⟩ := note_ok (α := α) options s!"{op.symbol}{v.describe} -> {kind.text}" state
  refine ⟨trace, ?_⟩
  rw [bind_ok noted, liftField, bind_ok (lift_ok (by rw [applied]; rfl) _)]
  rfl

omit [Scalar α] in
theorem checkLocations_ok {symbol : String} {v w : Value α} {place : Token} (meets : v.meets w = true) :
    checkLocations symbol v w place = .ok () := by
  have same := checkLocations_toOption symbol v w place
  rw [if_pos meets] at same
  exact toOption_eq_some.mp same

theorem binary_ok {op : BinaryOp} {v w u : Value α} (reduced : op.reduce? v w = some u)
    (place : Token) (state : State) :
    ∃ trace, binary options op v w place state = .ok u { state with trace } := by
  obtain ⟨kind, result, legal, meets, applied, rfl⟩ := BinaryOp.reduce?_some reduced
  unfold binary
  simp only [legal]
  obtain ⟨trace, noted⟩ :=
    note_ok (α := α) options s!"{v.describe} {op.symbol} {w.describe} -> {kind.text}" state
  refine ⟨trace, ?_⟩
  rw [bind_ok (lift_ok (checkLocations_ok meets) _), bind_ok noted, liftField,
    bind_ok (lift_ok (by rw [applied]; rfl) _)]
  rfl

theorem choice_ok {c v w u : Value α} (reduced : Value.choice? c v w = some u)
    (question colon : Token) (state : State) :
    ∃ trace, choice options c v w question colon state = .ok u { state with trace } := by
  obtain ⟨kind, result, legal, ⟨first, branches, second⟩, applied, rfl⟩ := Value.choice?_some reduced
  unfold choice
  simp only [legal]
  obtain ⟨trace, noted⟩ := note_ok (α := α) options
    s!"{c.describe} ? {v.describe} : {w.describe} -> {kind.text}" state
  refine ⟨trace, ?_⟩
  rw [bind_ok (lift_ok (checkLocations_ok first) _), bind_ok (lift_ok (checkLocations_ok branches) _),
    bind_ok (lift_ok (checkLocations_ok second) _), bind_ok noted, liftField,
    bind_ok (lift_ok (by rw [applied]; rfl) _)]
  rfl

omit [Scalar α] in
theorem part_ok {v u : Value α} {name : Token} (found : v.component? name.word = some u)
    (state : State) : ∃ trace, part options v name state = .ok u { state with trace } := by
  unfold part
  simp only [found]
  obtain ⟨trace, noted⟩ := note_ok (α := α) options s!"{v.describe}.{name.word} -> scalar" state
  refine ⟨trace, ?_⟩
  rw [bind_ok noted]
  rfl

theorem tensorPart_ok (env : Environment α) {v u : Value α} (name : Token)
    {function : TensorFunction} (reduced : v.tensorPart? function = some u) {state : State}
    (opening : state.cursor.current.kind = .openParen)
    (closing : state.cursor.advance.current.kind = .closeParen) :
    ∃ trace, tensorPart env v name function state =
      .ok u { state with cursor := state.cursor.advance.advance, trace } := by
  obtain ⟨_, matrix, applied⟩ := Option.bind_eq_some_iff.mp reduced
  have tensorLike : v.kind.isTensorLike = true := guard_eq_some.mp matrix
  obtain ⟨trace, noted⟩ := note_ok (α := α) env.options
    s!"{v.describe}.{name.word}() -> {(function.resultKind v.kind).text}"
    { state with cursor := state.cursor.advance.advance }
  refine ⟨trace, ?_⟩
  unfold tensorPart
  rw [bind_ok (discard_ok (expect_ok opening)), bind_ok (discard_ok (expect_ok closing))]
  simp only [tensorLike, Bool.not_true, Bool.false_eq_true, if_false]
  rw [bind_ok noted, liftField, lift_ok (by rw [toOption_eq_some.mp applied]; rfl)]

section Calls

variable {env : Environment α} {recurse : Recursion α} {function : Token} {before after : State}
  {v : Value α}

theorem call_builtin {builtin : Builtin} (named : Builtin.ofName? function.word = some builtin)
    (done : callBuiltin env recurse function builtin before = .ok v after) :
    ∃ trace, call env recurse function before = .ok v { after with trace } := by
  obtain ⟨trace, noted⟩ := note_ok (α := α) env.options
    s!"{function.word}(...) -> {v.describe}" after
  refine ⟨trace, ?_⟩
  unfold call
  simp only [named]
  rw [bind_ok done, bind_ok noted]
  rfl

theorem call_table {table : LookupTable α} (unnamed : Builtin.ofName? function.word = none)
    (found : env.repository.tables.get? function.word = some table) {args : List (Argument α)}
    (read : arguments recurse before = .ok args after)
    (applied : env.applyTable table function args = .ok v) :
    ∃ trace, call env recurse function before = .ok v { after with trace } := by
  unfold call
  simp only [unnamed, found]
  unfold callTable
  rw [bind_ok read, bind_ok (lift_ok applied after)]
  rcases args with _ | ⟨a, _ | ⟨b, args⟩⟩
  · exact ⟨after.trace, rfl⟩
  · obtain ⟨trace, noted⟩ := note_ok (α := α) env.options
      s!"{function.word}({a.value.describe}) -> scalar" after
    exact ⟨trace, bind_ok noted⟩
  · exact ⟨after.trace, rfl⟩

theorem call_foreign {mesh field : Word} {name : Token} {old : Bool}
    (meshNamed : function.word = mesh.name) (fieldNamed : name.word = field.name)
    (found : env.foreign? mesh field old = some v)
    (read : (foreignArgument : Run α (Token × Bool)) before = .ok (name, old) after) :
    call env recurse function before = .ok v after := by
  unfold Environment.foreign? at found
  rw [← meshNamed] at found
  split at found
  · rename_i region unnamed untabled known
    have applied := (Environment.applyForeign_same (f := function) (g := mesh.token) (k := field.token)
      fieldNamed).trans found
    unfold call
    simp only [unnamed, untabled, known]
    rw [bind_ok read]
    exact lift_ok (toOption_eq_some.mp applied) after
  · cases found

theorem random_ok {isNormal : Bool} {seed : Option UInt64} {g : Generator}
    (drawn : env.random isNormal seed before.generator = (v, g)) :
    random env isNormal seed before = .ok v { before with generator := g } := by
  cases seed <;> cases drawn <;> rfl

end Calls

section Operands

variable {env : Environment α} {recurse : Recursion α} {state after : State} {v : Value α}

theorem operand_word (word : state.cursor.current.kind = .word) :
    operand env recurse state =
      (if state.cursor.advance.current.kind = .openParen then call env recurse state.cursor.current
        else if state.cursor.current.word = "unitTensor" then
          return .constantTensor .tensor Mat3.identity
        else return env.options.adopt (← lift (env.lookup state.cursor.current.word)) : Run α (Value α))
        { state with cursor := state.cursor.advance } := by
  unfold operand
  rw [bind_ok (current_eq state), word]
  rfl

theorem operand_variable (word : state.cursor.current.kind = .word)
    (uncalled : state.cursor.advance.current.kind ≠ .openParen)
    (notUnit : state.cursor.current.word ≠ "unitTensor")
    (held : env.bindings.get? state.cursor.current.word = some v) :
    operand env recurse state =
      .ok (env.options.adopt v) { state with cursor := state.cursor.advance } := by
  have found : env.lookup state.cursor.current.word = .ok v := by
    unfold Environment.lookup
    rw [held]
  rw [operand_word word, if_neg uncalled, if_neg notUnit, bind_ok (lift_ok found _)]
  rfl

theorem operand_number {decimal : Decimal} (number : state.cursor.current.kind.isNumber = true)
    (read : Decimal.read? state.cursor.current.text = some decimal) :
    operand env recurse state =
      .ok (.constantScalar (Scalar.ofDecimal decimal)) { state with cursor := state.cursor.advance } := by
  unfold operand
  rw [bind_ok (current_eq state)]
  rcases TokenKind.eq_of_isNumber number with kind | kind
  all_goals
    rw [kind]
    change (do discard advance; Run.number _ : Run α (Value α)) state = _
    rw [bind_ok (discard_ok (advance_eq state))]
    unfold Run.number
    rw [read]
    rfl

theorem operand_grouped (opens : state.cursor.current.kind = .openParen)
    (done : recurse none 0 { state with cursor := state.cursor.advance } = .ok v after)
    (closes : after.cursor.current.kind = .closeParen) :
    operand env recurse state = .ok v { after with cursor := after.cursor.advance } := by
  unfold operand
  rw [bind_ok (current_eq state), opens]
  change grouped recurse state = _
  unfold grouped
  rw [bind_ok (advance_eq state), bind_ok done, bind_ok (close_ok closes)]
  rfl

end Operands

end Reductions

end Run

end MeshLang
