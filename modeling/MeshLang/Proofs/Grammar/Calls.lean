import MeshLang.Proofs.Grammar.Nodes

namespace MeshLang

variable {α : Type} [Scalar α] {env : Environment α}

namespace Parses

variable {strength least : Nat}

theorem literal (n : Literal) :
    Parses env [n.lexeme]
      (fun g => (Decimal.read? n.text).map fun d => (.constantScalar (Scalar.ofDecimal d), g))
      strength least := by
  refine ofOperand fun {g g' v} means {rest depth state} _ spells generator _ => ?_
  obtain ⟨decimal, read, same⟩ := Option.map_eq_some_iff.mp means
  cases same
  subst generator
  have spelled := spells.current
  have digits : state.cursor.current.text = n.text := spelled.2
  have number : state.cursor.current.kind.isNumber = true := by
    rw [spelled.1]
    exact n.number
  rw [← digits] at read
  exact ⟨_, Run.operand_number number read, (Follows.refl spells).read⟩

theorem constant (c : Constant) :
    Parses env [c.lexeme] (fun g => some (c.value, g)) strength least := by
  refine ofOperand fun {g g' v} means {rest depth state} _ spells generator _ => ?_
  cases means
  subst generator
  refine ⟨_, ?_, (Follows.refl spells).read⟩
  unfold Run.operand
  rw [Run.bind_ok (Run.current_eq state), spells.current.1]
  cases c <;> exact Run.bind_ok (Run.discard_ok (Run.advance_eq state))

theorem name (w : Word) :
    Parses env [w.lexeme] (fun g => (env.name? w).map (·, g)) strength least := by
  refine ofOperand fun {g g' v} means {rest depth state} halts spells generator _ => ?_
  obtain ⟨value, found, same⟩ := Option.map_eq_some_iff.mp means
  cases same
  subst generator
  have ⟨kind, word⟩ := Cursor.Spells.word spells
  have behind := (Follows.refl spells).read
  have notOpen : state.cursor.advance.current.kind ≠ .openParen := by
    rw [behind.spells.nextKind]
    exact halts.notOpen
  refine ⟨_, ?_, behind⟩
  rw [Run.operand_word kind, if_neg notOpen]
  unfold Environment.name? at found
  split at found
  · rename_i unit
    cases found
    rw [if_pos (word.trans unit)]
    rfl
  · rename_i other
    obtain ⟨resolved, looked, rfl⟩ := Option.map_eq_some_iff.mp found
    rw [if_neg (word ▸ other), word, Run.bind_ok (Run.lift_ok (toOption_eq_some.mp looked) _)]
    rfl

theorem ofCall {w : Word} {tail : List Lexeme} {meaning : Generator → Option (Value α × Generator)}
    (reads : ∀ {g g' : Generator} {v : Value α}, meaning g = some (v, g') →
      ∀ {function : Token} {rest : List Lexeme} {depth : Nat} {state : State},
        function.word = w.name → state.cursor.Spells (.openParen :: (tail ++ rest)) →
        state.generator = g → state.cursor.rest.length ≤ depth →
        ∃ after, Run.call env (Run.evaluate env (depth + 1)) function state = .ok v after ∧
          Follows state after rest g') :
    Parses env (w.lexeme :: .openParen :: tail) meaning strength least := by
  refine ofOperand fun {g g' v} means {rest depth state} _ spells generator deep => ?_
  have spells : state.cursor.Spells (w.lexeme :: (.openParen :: (tail ++ rest))) := spells
  have ⟨kind, word⟩ := Cursor.Spells.word spells
  have behind := (Follows.refl spells).read
  obtain ⟨less, rfl, room⟩ := spells.deeper deep
  obtain ⟨after, done, follows⟩ := reads means word behind.spells generator room
  have opening : state.cursor.advance.current.kind = .openParen := behind.spells.nextKind
  refine ⟨after, ?_, behind.trans follows⟩
  rw [Run.operand_word kind, if_pos opening, done]

end Parses

/-- A tree is read whole in every position that it is strong enough for. -/
def Tree.Parses (env : Environment α) (tree : Tree) : Prop :=
  MeshLang.Parses env tree.print (tree.eval env) (Rank.strength tree.rank) (Rank.least tree.rank)

namespace Run

theorem argumentsFrom_ok {tree : Tree} {trees : List Tree} (each : ∀ t ∈ tree :: trees, t.Parses env)
    {values : List (Value α)} {g g' : Generator}
    (means : Tree.evalAll env (tree :: trees) g = some (values, g')) (opening : Token)
    {rest : List Lexeme} {depth rounds : Nat} {state : State}
    (spells : state.cursor.Spells (Tree.printAll (tree :: trees) ++ .closeParen :: rest))
    (generator : state.generator = g) (deep : state.cursor.rest.length ≤ depth)
    (enough : state.cursor.rest.length < rounds) :
    ∃ args after, argumentsFrom (evaluate env (depth + 1)) opening rounds state = .ok args after ∧
      args.map (·.value) = values ∧ Follows state after rest g' := by
  -- Each round reads an argument and the sign behind it, so `enough` holds of the next round too.
  induction trees generalizing tree values g rounds state with
  | nil =>
    obtain ⟨rounds, rfl⟩ : ∃ less, rounds = less + 1 := ⟨rounds - 1, by omega⟩
    simp only [Tree.evalAll, Option.bind_eq_bind, Option.bind_eq_some_iff, Prod.exists] at means
    obtain ⟨v, h, first, _, _, same, whole⟩ := means
    cases same
    cases whole
    have spells : state.cursor.Spells (tree.print ++ .closeParen :: rest) := spells
    have closes : ∀ least, (nextKind (.closeParen :: rest)).Halts least v.kind := fun least =>
      .ofClosing (.inl rfl) least v.kind
    obtain ⟨after, done, follows⟩ := (each tree (by simp)).value first (Nat.zero_le _) (closes _)
      (closes 0).self spells generator deep
    have closing : after.cursor.current.kind = .closeParen := follows.spells.nextKind
    refine ⟨[⟨v, state.cursor.current⟩], _, ?_, rfl, follows.read⟩
    unfold argumentsFrom
    rw [bind_ok (current_eq state), bind_ok done, bind_ok (current_eq after), closing]
    exact bind_ok (discard_ok (advance_eq after))
  | cons next trees ih =>
    obtain ⟨rounds, rfl⟩ : ∃ less, rounds = less + 1 := ⟨rounds - 1, by omega⟩
    rw [Tree.evalAll] at means
    simp only [Option.bind_eq_bind, Option.bind_eq_some_iff, Prod.exists] at means
    obtain ⟨v, h, first, others, k, behind, whole⟩ := means
    cases whole
    have spells : state.cursor.Spells
        (tree.print ++ .comma :: (Tree.printAll (next :: trees) ++ .closeParen :: rest)) := by
      simpa [Tree.printAll] using spells
    have ends : ∀ least,
        (nextKind (.comma :: (Tree.printAll (next :: trees) ++ .closeParen :: rest))).Halts least
          v.kind := fun least => .ofClosing (.inr (.inl rfl)) least v.kind
    obtain ⟨middle, done, follows⟩ := (each tree (by simp)).value first (Nat.zero_le _) (ends _)
      (ends 0).self spells generator deep
    have comma : middle.cursor.current.kind = .comma := follows.spells.nextKind
    have shorter := follows.spells.advance_length
    have least := follows.shorter
    have read := follows.read
    obtain ⟨args, after, more, same, further⟩ :=
      ih (fun t member => each t (List.mem_cons_of_mem _ member)) behind read.spells read.generator
        (Nat.le_trans read.shorter deep) (show middle.cursor.advance.rest.length < rounds by omega)
    refine ⟨⟨v, state.cursor.current⟩ :: args, after, ?_, by rw [List.map_cons, same],
      read.trans further⟩
    unfold argumentsFrom
    rw [bind_ok (current_eq state), bind_ok done, bind_ok (current_eq middle), comma]
    change (do discard advance; _ : Run α (List (Argument α))) middle = _
    rw [bind_ok (discard_ok (advance_eq middle)), bind_ok more]
    rfl

theorem arguments_ok {trees : List Tree} (each : ∀ t ∈ trees, t.Parses env)
    {values : List (Value α)} {g g' : Generator} (means : Tree.evalAll env trees g = some (values, g'))
    {rest : List Lexeme} {depth : Nat} {state : State}
    (spells : state.cursor.Spells (.openParen :: (Tree.printAll trees ++ .closeParen :: rest)))
    (generator : state.generator = g) (deep : state.cursor.rest.length ≤ depth) :
    ∃ args after, arguments (evaluate env (depth + 1)) state = .ok args after ∧
      args.map (·.value) = values ∧ Follows state after rest g' := by
  subst generator
  have opening : state.cursor.current.kind = .openParen := spells.nextKind
  have inside := (Follows.refl spells).read
  have closer := spells.advance_length
  unfold arguments
  rw [bind_ok (expect_ok opening), bind_ok (current_eq _)]
  cases trees with
  | nil =>
    simp only [Tree.evalAll, Option.some.injEq, Prod.mk.injEq] at means
    obtain ⟨rfl, rfl⟩ := means
    have closing : state.cursor.advance.current.kind = .closeParen := inside.spells.nextKind
    refine ⟨[], _, ?_, rfl, inside.read⟩
    rw [if_pos closing, bind_ok (discard_ok (advance_eq _))]
    rfl
  | cons tree trees =>
    obtain ⟨args, after, done, same, follows⟩ := argumentsFrom_ok each means state.cursor.current
      inside.spells rfl (show state.cursor.advance.rest.length ≤ depth by omega) (Nat.lt_succ_self _)
    have notClosing : state.cursor.advance.current.kind ≠ .closeParen := by
      rw [inside.spells.nextKind]
      obtain ⟨l, others, starts, other⟩ := tree.print_start
      cases trees <;> simpa [Tree.printAll, starts, nextKind] using other
    exact ⟨args, after, by rw [if_neg notClosing]; exact done, same, inside.trans follows⟩

end Run

namespace Parses

variable {strength least : Nat} {function : Word}

theorem call {trees : List Tree} (each : ∀ t ∈ trees, t.Parses env) :
    Parses env (function.lexeme :: .openParen :: (Tree.printAll trees ++ [.closeParen]))
      (fun g => do
        let (values, g) ← Tree.evalAll env trees g
        return (← env.call? function values, g)) strength least := by
  refine ofCall fun {g g' v} means {token rest depth state} word spells generator deep => ?_
  simp only [Option.bind_eq_bind, Option.bind_eq_some_iff, Prod.exists] at means
  obtain ⟨values, h, operands, _, found, same⟩ := means
  cases same
  have spells : state.cursor.Spells (.openParen :: (Tree.printAll trees ++ .closeParen :: rest)) := by
    simpa using spells
  obtain ⟨args, after, read, same, follows⟩ := Run.arguments_ok each operands spells generator deep
  have matching : args.map (·.value) =
      (values.map fun v => (⟨v, function.token⟩ : Argument α)).map (·.value) := by
    simp [same, Function.comp_def]
  have count : args.length = values.length := by simpa using congrArg List.length same
  unfold Environment.call? at found
  rw [← word] at found
  split at found
  · rename_i builtin named
    split at found
    · rename_i fewest most shape
      split at found
      · cases found
      · rename_i counted
        have applied :=
          (Environment.apply_same (f := token) (g := function.token) matching).trans found
        have done : Run.callBuiltin env (Run.evaluate env (depth + 1)) token builtin state =
            .ok v after := by
          unfold Run.callBuiltin
          simp only [shape]
          rw [Run.bind_ok read, count, if_neg counted]
          exact Run.lift_ok (toOption_eq_some.mp applied) after
        obtain ⟨trace, called⟩ := Run.call_builtin named done
        exact ⟨_, called, follows.traced trace⟩
    · cases found
  · rename_i unnamed
    split at found
    · rename_i table tabled
      have applied :=
        (Environment.applyTable_same (f := token) (g := function.token) matching).trans found
      obtain ⟨trace, called⟩ :=
        Run.call_table unnamed tabled read (toOption_eq_some.mp applied)
      exact ⟨_, called, follows.traced trace⟩
    · cases found

end Parses

namespace Run

variable {w : Word} {rest : List Lexeme} {state : State}

omit [Scalar α] in
theorem nameArgument_ok
    (spells : state.cursor.Spells (.openParen :: w.lexeme :: .closeParen :: rest)) :
    ∃ token after, (nameArgument : Run α Token) state = .ok token after ∧ token.word = w.name ∧
      Follows state after rest state.generator := by
  have opening : state.cursor.current.kind = .openParen := spells.nextKind
  have inside := (Follows.refl spells).read
  have ⟨kind, word⟩ := Cursor.Spells.word inside.spells
  have behind := inside.read
  have closing : state.cursor.advance.advance.current.kind = .closeParen := behind.spells.nextKind
  refine ⟨state.cursor.advance.current, _, ?_, word, behind.read⟩
  unfold nameArgument
  rw [bind_ok (expect_ok opening), bind_ok (expect_ok kind), bind_ok (close_ok closing)]
  rfl

omit [Scalar α] in
theorem foreignArgument_ok
    (spells : state.cursor.Spells (.openParen :: w.lexeme :: .closeParen :: rest)) :
    ∃ token after, (foreignArgument : Run α (Token × Bool)) state = .ok (token, false) after ∧
      token.word = w.name ∧ Follows state after rest state.generator := by
  have opening : state.cursor.current.kind = .openParen := spells.nextKind
  have inside := (Follows.refl spells).read
  have ⟨kind, word⟩ := Cursor.Spells.word inside.spells
  have behind := inside.read
  have closing : state.cursor.advance.advance.current.kind = .closeParen := behind.spells.nextKind
  refine ⟨state.cursor.advance.current, _, ?_, word, behind.read⟩
  unfold foreignArgument
  rw [bind_ok (expect_ok opening), bind_ok (expect_ok kind), bind_ok (current_eq _)]
  simp only [closing, reduceCtorEq, decide_false, Bool.and_false, Bool.false_eq_true, if_false]
  rw [bind_ok (pure_eq _ _), bind_ok (close_ok closing)]
  rfl

omit [Scalar α] in
theorem foreignArgument_old
    (spells : state.cursor.Spells (.openParen :: oldTimeWord.lexeme :: .openParen :: w.lexeme ::
      .closeParen :: .closeParen :: rest)) :
    ∃ token after, (foreignArgument : Run α (Token × Bool)) state = .ok (token, true) after ∧
      token.word = w.name ∧ Follows state after rest state.generator := by
  have opening : state.cursor.current.kind = .openParen := spells.nextKind
  have inside := (Follows.refl spells).read
  have ⟨kind, word⟩ := Cursor.Spells.word inside.spells
  have behind := inside.read
  have nested : state.cursor.advance.advance.current.kind = .openParen := behind.spells.nextKind
  obtain ⟨token, after, read, same, follows⟩ := nameArgument_ok (α := α) behind.spells
  have closing : after.cursor.current.kind = .closeParen := follows.spells.nextKind
  refine ⟨token, _, ?_, same, (behind.trans follows).read⟩
  have old : state.cursor.advance.current.word = "oldTime" := word
  unfold foreignArgument
  rw [bind_ok (expect_ok opening), bind_ok (expect_ok kind), bind_ok (current_eq _)]
  simp only [nested, old, decide_true, Bool.and_self, if_true]
  rw [bind_ok read, bind_ok (close_ok closing)]
  rfl

omit [Scalar α] in
theorem seedArgument_none (spells : state.cursor.Spells (.openParen :: .closeParen :: rest)) :
    ∃ after, (seedArgument : Run α (Option UInt64)) state = .ok none after ∧
      Follows state after rest state.generator := by
  have opening : state.cursor.current.kind = .openParen := spells.nextKind
  have inside := (Follows.refl spells).read
  have closing : state.cursor.advance.current.kind = .closeParen := inside.spells.nextKind
  refine ⟨_, ?_, inside.read⟩
  unfold seedArgument
  rw [bind_ok (expect_ok opening), bind_ok (current_eq _)]
  simp only [closing, reduceCtorEq, if_false, if_true]
  rw [bind_ok (pure_eq _ _), bind_ok (close_ok closing)]
  rfl

omit [Scalar α] in
theorem seedArgument_some {n : Literal} {seed : UInt64} (written : n.seed? = some seed)
    (spells : state.cursor.Spells (.openParen :: n.lexeme :: .closeParen :: rest)) :
    ∃ after, (seedArgument : Run α (Option UInt64)) state = .ok (some seed) after ∧
      Follows state after rest state.generator := by
  unfold Literal.seed? at written
  dsimp only at written
  split at written
  · rename_i fits
    simp only [Bool.and_eq_true, decide_eq_true_eq] at fits
    cases written
    have opening : state.cursor.current.kind = .openParen := spells.nextKind
    have inside := (Follows.refl spells).read
    have spelled := inside.spells.current
    have integer : state.cursor.advance.current.kind = .integer := spelled.1.trans fits.1
    have digits : state.cursor.advance.current.text = n.text := spelled.2
    have behind := inside.read
    have closing : state.cursor.advance.advance.current.kind = .closeParen := behind.spells.nextKind
    refine ⟨_, ?_, behind.read⟩
    unfold seedArgument
    rw [bind_ok (expect_ok opening), bind_ok (current_eq _)]
    have read : (seedOf state.cursor.advance.current : Run α UInt64)
        { state with cursor := state.cursor.advance.advance } =
          .ok (UInt64.ofNat (Decimal.natural 0 n.text))
            { state with cursor := state.cursor.advance.advance } := by
      unfold seedOf
      rw [digits]
      exact congrFun (if_pos fits.2) _
    simp only [integer, if_true]
    rw [bind_ok (discard_ok (advance_eq _)), bind_ok read, bind_ok (pure_eq _ _),
      bind_ok (close_ok closing)]
    rfl
  · cases written

end Run

namespace Parses

variable {strength least : Nat}

theorem callNamed {function argument : Word} :
    Parses env [function.lexeme, .openParen, argument.lexeme, .closeParen]
      (fun g => (env.callNamed? function argument).map (·, g)) strength least := by
  refine ofCall fun {g g' v} means {token rest depth state} word spells generator _ => ?_
  obtain ⟨value, found, same⟩ := Option.map_eq_some_iff.mp means
  cases same
  subst generator
  unfold Environment.callNamed? at found
  rw [← word] at found
  split at found
  · rename_i builtin named
    split at found
    · rename_i shape
      obtain ⟨name, after, read, same, follows⟩ := Run.nameArgument_ok (α := α) spells
      have applied := (Environment.applyNamed_same (f := name) (g := argument.token) same).trans found
      have done : Run.callBuiltin env (Run.evaluate env (depth + 1)) token builtin state =
          .ok v after := by
        unfold Run.callBuiltin
        simp only [shape]
        rw [Run.bind_ok read]
        exact Run.lift_ok (toOption_eq_some.mp applied) after
      obtain ⟨trace, called⟩ := Run.call_builtin named done
      exact ⟨_, called, follows.traced trace⟩
    · cases found
  · obtain ⟨field, after, read, same, follows⟩ := Run.foreignArgument_ok (α := α) spells
    exact ⟨after, Run.call_foreign word same found read, follows⟩

theorem callOld {mesh field : Word} :
    Parses env [mesh.lexeme, .openParen, oldTimeWord.lexeme, .openParen, field.lexeme, .closeParen,
        .closeParen]
      (fun g => (env.foreign? mesh field true).map (·, g)) strength least := by
  refine ofCall fun {g g' v} means {token rest depth state} word spells generator _ => ?_
  obtain ⟨value, found, same⟩ := Option.map_eq_some_iff.mp means
  cases same
  subst generator
  obtain ⟨name, after, read, same, follows⟩ := Run.foreignArgument_old (α := α) spells
  exact ⟨after, Run.call_foreign word same found read, follows⟩

theorem callSeeded {function : Word} {seed : Option Literal} :
    Parses env (function.lexeme :: .openParen :: (seed.toList.map Literal.lexeme ++ [.closeParen]))
      (fun g => env.callSeeded? function seed g) strength least := by
  refine ofCall fun {g g' v} means {token rest depth state} word spells generator _ => ?_
  subst generator
  unfold Environment.callSeeded? at means
  rw [← word] at means
  split at means
  · rename_i isNormal named
    have drawn {seed : Option UInt64} {after : State}
        (read : (Run.seedArgument : Run α (Option UInt64)) state = .ok seed after)
        (follows : Follows state after rest state.generator)
        (random : env.random isNormal seed state.generator = (v, g')) :
        ∃ last, Run.call env (Run.evaluate env (depth + 1)) token state = .ok v last ∧
          Follows state last rest g' := by
      have done : Run.callBuiltin env (Run.evaluate env (depth + 1)) token (.random isNormal false)
          state = .ok v { after with generator := g' } := by
        unfold Run.callBuiltin
        simp only [Builtin.shape]
        rw [Run.bind_ok read]
        rw [← follows.generator] at random
        exact Run.random_ok random
      obtain ⟨trace, called⟩ := Run.call_builtin named done
      exact ⟨_, called, (follows.drawn g').traced trace⟩
    cases seed with
    | none =>
      obtain ⟨after, read, follows⟩ := Run.seedArgument_none (α := α) spells
      exact drawn read follows (Option.some.inj means)
    | some n =>
      obtain ⟨seed, written, same⟩ := Option.map_eq_some_iff.mp means
      obtain ⟨after, read, follows⟩ := Run.seedArgument_some (α := α) written spells
      exact drawn read follows same
  · cases means

end Parses

end MeshLang
