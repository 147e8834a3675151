import MeshLang.Proofs.Grammar.Reading

namespace MeshLang

namespace Rank

/-- The strongest operators that an evaluation may ask for which is to read a tree of the rank whole. -/
def strength (rank : Nat) : Nat := if rank = 0 then Binding.choice else 2 * rank + 1

def least (rank : Nat) : Nat :=
  if rank = 0 then Binding.otherwise
  else if rank ≤ 6 then 2 * rank + 2
  else if rank = 7 then Binding.sign
  else Binding.component + 1

variable {position rank : Nat}

theorem strength_mono (strong : position ≤ rank) : strength position ≤ strength rank := by
  simp only [strength, Binding.choice]
  split <;> split <;> omega

theorem least_mono (strong : position ≤ rank) : least position ≤ least rank := by
  simp only [least, Binding.otherwise, Binding.sign, Binding.component]
  repeat' split
  all_goals omega

theorem right (positive : 1 ≤ rank) (most : rank ≤ 6) :
    2 * rank + 2 ≤ strength (rank + 1) ∧ 2 * rank + 2 ≤ least (rank + 1) := by
  simp only [strength, least, Binding.sign]
  constructor
  · rw [if_neg (by omega)]
    omega
  · rw [if_neg (by omega)]
    split
    · omega
    · rw [if_pos (by omega)]
      omega

end Rank

variable {α : Type} [Scalar α] {env : Environment α}

namespace Parses

variable {ls first second : List Lexeme} {meaning next last : Generator → Option (Value α × Generator)}

theorem enclosed {rank : Nat} (parses : Parses env ls meaning (Rank.strength rank) (Rank.least rank))
    (position : Nat) :
    Parses env (enclose (rank < position) ls) meaning (Rank.strength position)
      (Rank.least position) := by
  unfold enclose
  split
  · exact parses.grouped _ _
  · rename_i strong
    have strong : position ≤ rank := by simpa using strong
    exact parses.mono (Rank.strength_mono strong) (Rank.least_mono strong)

theorem sign {op : UnaryOp} (parses : Parses env ls meaning (Rank.strength 7) (Rank.least 7)) :
    Parses env (op.lexeme :: ls)
      (fun g => do let (v, g) ← meaning g; return (← op.reduce? v, g)) (Rank.strength 7)
      (Rank.least 7) := by
  refine ofOperand fun {g g' u} means {rest depth state} halts spells generator deep => ?_
  simp only [Option.bind_eq_bind, Option.bind_eq_some_iff, Prod.exists] at means
  obtain ⟨v, h, operand, _, reduced, same⟩ := means
  cases same
  have spells : state.cursor.Spells (op.lexeme :: (ls ++ rest)) := spells
  obtain ⟨less, rfl, room⟩ := spells.deeper deep
  have opened := (Follows.refl spells).read
  have ends : (nextKind rest).Halts (Rank.least 7) v.kind :=
    halts.operand (Nat.le_refl _) fun _ => .inr (by decide)
  obtain ⟨inner, done, follows⟩ := parses.value operand (show Binding.sign ≤ Rank.strength 7 by decide)
    ends ends.self opened.spells generator room
  obtain ⟨trace, applied⟩ :=
    Run.unary_ok env.options reduced state.cursor.current inner
  refine ⟨{ inner with trace }, ?_, (opened.trans follows).traced trace⟩
  have signed : Run.signed env (Run.evaluate env (less + 1)) op state = .ok u { inner with trace } := by
    unfold Run.signed
    rw [Run.bind_ok (Run.advance_eq state), Run.bind_ok done, applied]
  unfold Run.operand
  rw [Run.bind_ok (Run.current_eq state), spells.nextKind]
  cases op <;> exact signed

/-- An operator between two operands: the left one is read by the evaluation that reads the whole,
the right one by an evaluation of its own. -/
theorem binary {op : BinaryOp}
    (left : Parses env first meaning (Rank.strength op.rank) (Rank.least op.rank))
    (right : Parses env second next (Rank.strength (op.rank + 1)) (Rank.least (op.rank + 1))) :
    Parses env (first ++ op.lexeme :: second)
      (fun g => do
        let (v, g) ← meaning g
        let (w, g) ← next g
        return (← op.reduce? v w, g)) (Rank.strength op.rank) (Rank.least op.rank) := by
  refine ⟨fun {g g' u} means {rest bound depth state} weak halts spells generator deep => ?_⟩
  simp only [Option.bind_eq_bind, Option.bind_eq_some_iff, Prod.exists] at means
  obtain ⟨v, h, leftMeans, w, k, rightMeans, _, reduced, same⟩ := means
  cases same
  obtain ⟨kind, legal, relabeled⟩ := BinaryOp.reduce?_kind reduced
  have spells : state.cursor.Spells (first ++ (op.lexeme :: (second ++ rest))) := by
    simpa using spells
  have rank := op.rank_le
  have strength : Rank.strength op.rank = op.level := by
    rw [Rank.strength, if_neg (by omega), op.level_eq]
  have least : Rank.least op.rank = 2 * op.rank + 2 := by
    rw [Rank.least, if_neg (by omega), if_pos (by omega)]
  have reach := Rank.right rank.1 rank.2
  -- the left operand
  have ends : (nextKind (op.lexeme :: (second ++ rest))).Halts (Rank.least op.rank) v.kind := by
    rw [least]
    exact .ofOperator legal
  obtain ⟨further, middle, reaches, follows, room⟩ := left.reads leftMeans weak ends spells generator deep
  have found : middle.cursor.current.kind.operator? v.kind = some op := by
    rw [follows.spells.nextKind]
    exact BinaryOp.operator?_token legal
  have strong : bound ≤ op.level := strength ▸ weak
  -- the right operand
  obtain ⟨less, rfl, near⟩ := follows.spells.deeper room
  have sign := follows.read
  have inner : w.kind.isTensorLike = true → u.kind.isTensorLike = true ∨ 14 ≤ 2 * op.rank + 2 := by
    intro isMatrix
    rw [relabeled]
    refine (BinaryOp.result?_right legal isMatrix).imp_right fun level => ?_
    rw [BinaryOp.level_eq] at level
    omega
  rw [least] at halts
  have rightEnds : (nextKind rest).Halts (2 * op.rank + 2) w.kind := halts.operand (Nat.le_refl _) inner
  obtain ⟨after, done, read⟩ := right.value rightMeans reach.1
    (rightEnds.operand reach.2 .inl) rightEnds.self sign.spells sign.generator near
  obtain ⟨trace, applied⟩ :=
    Run.binary_ok env.options reduced middle.cursor.current after
  have whole := (sign.trans read).traced trace
  have operation : Run.operation env (Run.evaluate env (less + 1)) v ⟨op, op.level, op.level + 1⟩ middle =
      .ok u { after with trace } := by
    unfold Run.operation
    rw [Run.bind_ok (Run.advance_eq middle), op.level_eq, Run.bind_ok done, applied]
  refine ⟨less, { after with trace }, ?_, whole, Nat.le_trans read.shorter near⟩
  rw [reaches, Run.continueFrom_operator found strong (BinaryOp.rightKinds_filled legal),
    Run.bind_ok operation]
  rfl

theorem choice (condition : Parses env ls meaning (Rank.strength 1) (Rank.least 1))
    (one : Parses env first next (Rank.strength 0) (Rank.least 0))
    (other : Parses env second last (Rank.strength 0) (Rank.least 0)) :
    Parses env (ls ++ .question :: (first ++ .colon :: second))
      (fun g => do
        let (c, g) ← meaning g
        let (v, g) ← next g
        let (w, g) ← last g
        return (← Value.choice? c v w, g)) (Rank.strength 0) (Rank.least 0) := by
  refine ⟨fun {g g' u} means {rest bound depth state} weak halts spells generator deep => ?_⟩
  simp only [Option.bind_eq_bind, Option.bind_eq_some_iff, Prod.exists] at means
  obtain ⟨c, h, conditionMeans, v, k, firstMeans, w, m, secondMeans, _, reduced, same⟩ := means
  cases same
  obtain ⟨logical, kind⟩ := Value.choice?_kind reduced
  have spells : state.cursor.Spells (ls ++ .question :: (first ++ .colon :: (second ++ rest))) := by
    simpa using spells
  -- the condition
  have ends : (nextKind (.question :: (first ++ .colon :: (second ++ rest)))).Halts (Rank.least 1)
      c.kind := (TokenKind.Halts.ofQuestion c.kind).operand (by decide) .inl
  obtain ⟨further, middle, reaches, follows, room⟩ :=
    condition.reads conditionMeans (Nat.le_trans weak (by decide)) ends spells generator deep
  obtain ⟨less, rfl, near⟩ := follows.spells.deeper room
  have question := follows.read
  -- the branches
  have closes : ∀ least, (nextKind (.colon :: (second ++ rest))).Halts least v.kind := fun least =>
    .ofClosing (.inr (.inr (.inl rfl))) least v.kind
  obtain ⟨between, firstDone, firstRead⟩ := one.value firstMeans (Nat.zero_le _) (closes _)
    (closes 0).self question.spells question.generator near
  have isColon : between.cursor.current.kind = .colon := firstRead.spells.nextKind
  have colon := firstRead.read
  have rightEnds : (nextKind rest).Halts (Rank.least 0) w.kind := by
    rw [← kind]
    exact halts
  obtain ⟨after, secondDone, secondRead⟩ := other.value secondMeans
    (show Binding.otherwise ≤ Rank.strength 0 by decide) rightEnds
    rightEnds.self colon.spells colon.generator (Nat.le_trans colon.shorter near)
  obtain ⟨trace, applied⟩ := Run.choice_ok env.options reduced middle.cursor.current
    between.cursor.current after
  have whole := ((question.trans colon).trans secondRead).traced trace
  have chosen : Run.choose env (Run.evaluate env (less + 1)) c middle =
      .ok u { after with trace } := by
    unfold Run.choose
    rw [Run.bind_ok (Run.advance_eq middle)]
    simp only [logical, ne_eq, not_true_eq_false, if_false]
    rw [Run.bind_ok firstDone, Run.bind_ok (Run.expect_ok isColon),
      Run.bind_ok secondDone, applied]
  refine ⟨less, { after with trace }, ?_, whole,
    Nat.le_trans secondRead.shorter (Nat.le_trans colon.shorter near)⟩
  have strong : ¬ Binding.choice < bound := Nat.not_lt.mpr weak
  rw [reaches, Run.continueFrom_question follows.spells.nextKind, if_neg strong, Run.bind_ok chosen]
  rfl

theorem suffix (tail : List Lexeme) (reduce? : Value α → Option (Value α))
    (parses : Parses env ls meaning (Rank.strength 8) (Rank.least 8))
    (read : ∀ {v u : Value α}, reduce? v = some u → ∀ {rest : List Lexeme} {state : State},
      nextKind rest ≠ .openParen → state.cursor.Spells (.point :: (tail ++ rest)) →
      ∃ after, Run.component env v state = .ok u after ∧
        Follows { state with cursor := state.cursor.advance } after rest state.generator) :
    Parses env (ls ++ .point :: tail)
      (fun g => do let (v, g) ← meaning g; return (← reduce? v, g)) (Rank.strength 8)
      (Rank.least 8) := by
  refine ⟨fun {g g' u} means {rest bound depth state} weak halts spells generator deep => ?_⟩
  simp only [Option.bind_eq_bind, Option.bind_eq_some_iff, Prod.exists] at means
  obtain ⟨v, h, operand, _, reduced, same⟩ := means
  cases same
  have spells : state.cursor.Spells (ls ++ .point :: (tail ++ rest)) := by simpa using spells
  have ends : (nextKind (.point :: (tail ++ rest))).Halts (Rank.least 8) v.kind := .ofPoint v.kind
  obtain ⟨further, middle, reaches, follows, room⟩ :=
    parses.reads operand weak ends spells generator deep
  obtain ⟨less, rfl, near⟩ := follows.spells.deeper room
  obtain ⟨after, done, behind⟩ := read reduced halts.notOpen follows.spells
  have generator := follows.generator
  subst generator
  have strong : ¬ Binding.component < bound := Nat.not_lt.mpr weak
  refine ⟨less, after, ?_, follows.read.trans behind, Nat.le_trans behind.shorter near⟩
  rw [reaches, Run.continueFrom_point follows.spells.nextKind, if_neg strong, Run.bind_ok done]
  rfl

theorem component {w : Word} (parses : Parses env ls meaning (Rank.strength 8) (Rank.least 8)) :
    Parses env (ls ++ [.point, w.lexeme])
      (fun g => do let (v, g) ← meaning g; return (← v.component? w.name, g)) (Rank.strength 8)
      (Rank.least 8) := by
  refine parses.suffix [w.lexeme] (Value.component? · w.name) fun {v u} found {rest state} notOpen spells => ?_
  have point := (Follows.refl spells).read
  have spelled : _ ∧ _ := Cursor.Spells.word point.spells
  have behind := point.read
  have notOpen : state.cursor.advance.advance.current.kind ≠ .openParen := by
    rw [behind.spells.nextKind]
    exact notOpen
  have named : v.component? state.cursor.advance.current.word = some u := by
    rw [spelled.2]
    exact found
  obtain ⟨trace, applied⟩ := Run.part_ok env.options named
    { state with cursor := state.cursor.advance.advance }
  refine ⟨{ state with cursor := state.cursor.advance.advance, trace }, ?_, ?_⟩
  · unfold Run.component
    rw [Run.bind_ok (Run.discard_ok (Run.advance_eq state)), Run.bind_ok (Run.current_eq _)]
    simp only [spelled.1, ne_eq, not_true_eq_false, if_false]
    rw [Run.bind_ok (Run.advance_eq _), Run.bind_ok (Run.current_eq _)]
    simp only [notOpen, if_false]
    cases TensorFunction.ofName? state.cursor.advance.current.word <;> exact applied
  · exact ((Follows.refl point.spells).read).traced trace

theorem tensorPart {function : TensorFunction}
    (parses : Parses env ls meaning (Rank.strength 8) (Rank.least 8)) :
    Parses env (ls ++ [.point, function.word.lexeme, .openParen, .closeParen])
      (fun g => do let (v, g) ← meaning g; return (← v.tensorPart? function, g)) (Rank.strength 8)
      (Rank.least 8) := by
  refine parses.suffix [function.word.lexeme, .openParen, .closeParen] (Value.tensorPart? function)
    fun {v u} reduced {rest state} _ spells => ?_
  have point := (Follows.refl spells).read
  have spelled : _ ∧ _ := Cursor.Spells.word point.spells
  have name := point.read
  have opening := name.spells.nextKind
  have closing := name.read.spells.nextKind
  obtain ⟨trace, applied⟩ :=
    Run.tensorPart_ok env state.cursor.advance.current reduced opening closing
  have named : TensorFunction.ofName? state.cursor.advance.current.word = some function := by
    rw [spelled.2]
    cases function <;> decide +kernel
  refine ⟨_, ?_, (((Follows.refl point.spells).read.read.read).traced trace)⟩
  unfold Run.component
  rw [Run.bind_ok (Run.discard_ok (Run.advance_eq state)), Run.bind_ok (Run.current_eq _)]
  simp only [spelled.1, ne_eq, not_true_eq_false, if_false]
  rw [Run.bind_ok (Run.advance_eq _), Run.bind_ok (Run.current_eq _)]
  simp only [named, opening, nextKind, Lexeme.openParen]
  exact applied

end Parses

end MeshLang
