import MeshLang.Grammar.Precedence
import MeshLang.Proofs.Grammar.Steps

namespace MeshLang

namespace BinaryOp

theorem level_eq (op : BinaryOp) : op.level = 2 * op.rank + 1 := by cases op <;> rfl

theorem rank_le (op : BinaryOp) : 1 ≤ op.rank ∧ op.rank ≤ 6 := by cases op <;> decide

theorem rules_operator : ∀ rule ∈ rules, rule.op.token.operator? rule.left = some rule.op := by decide

theorem operator?_token {op : BinaryOp} {left right kind : Kind}
    (legal : op.result? left right = some kind) : op.token.operator? left = some op :=
  rules_operator _ (result?_mem legal)

end BinaryOp

namespace BinaryOp

/-- The sign of an operator stands for it, or it is the sign of the other meaning of `&&`. -/
theorem token_operator? (op : BinaryOp) {other : BinaryOp} {kind : Kind}
    (found : op.token.operator? kind = some other) :
    other = op ∨ (op = .and ∧ other = .doubleInner) ∨ (op = .doubleInner ∧ other = .and) := by
  cases op <;> cases kind <;> cases found <;> decide

theorem operator?_doubleInner {kind : Kind}
    (found : TokenKind.operator? .doubleAmpersand kind = some .doubleInner) :
    kind.isTensorLike = true := by
  cases kind <;> first | rfl | cases found

theorem operator?_and {kind : Kind} (found : TokenKind.operator? .doubleAmpersand kind = some .and) :
    kind = .logical := by
  cases kind <;> first | rfl | cases found

end BinaryOp

namespace Run

variable {α : Type} [Scalar α] {env : Environment α} {recurse : Recursion α} {v : Value α}
  {bound : Nat} {state : State}

theorem continueFrom_point (found : state.cursor.current.kind = .point) :
    continueFrom env recurse v bound state =
      (if Binding.component < bound then return v
        else do recurse (some (← component env v)) bound : Run α (Value α)) state := by
  unfold continueFrom
  rw [bind_ok (current_eq state)]
  simp only [found]

theorem continueFrom_question (found : state.cursor.current.kind = .question) :
    continueFrom env recurse v bound state =
      (if Binding.choice < bound then return v
        else do recurse (some (← choose env recurse v)) bound : Run α (Value α)) state := by
  unfold continueFrom
  rw [bind_ok (current_eq state)]
  simp only [found]

theorem continueFrom_operator {op : BinaryOp}
    (found : state.cursor.current.kind.operator? v.kind = some op) (strong : bound ≤ op.level)
    (legal : (op.rightKinds v.kind).isEmpty = false) :
    continueFrom env recurse v bound state =
      (do recurse (some (← operation env recurse v ⟨op, op.level, op.level + 1⟩)) bound :
        Run α (Value α)) state := by
  unfold continueFrom
  rw [bind_ok (current_eq state)]
  have weak : ¬ op.level < bound := Nat.not_lt.mpr strong
  cases kind : state.cursor.current.kind <;> rw [kind] at found <;>
    first
      | cases found
        done
      | simp only [TokenKind.binding?, found, Option.map_some, weak, legal, if_false,
          Bool.false_eq_true]

end Run

namespace TokenKind

/-- Operators that must bind at least as strongly as a bound do not take a value of a kind to be
their left operand when the token follows. -/
structure Stops (token : TokenKind) (bound : Nat) (kind : Kind) : Prop where
  valid : token ≠ .invalid
  point : token = .point → Binding.component < bound
  question : token = .question → Binding.choice < bound
  operator : ∀ op, token.operator? kind = some op → op.level < bound
  conjunction : token = .doubleAmpersand → token.operator? kind = none → Binding.conjunction < bound

theorem Stops.continueFrom {α : Type} [Scalar α] {env : Environment α} {recurse : Recursion α}
    {v : Value α} {bound : Nat} {state : State}
    (stops : state.cursor.current.kind.Stops bound v.kind) :
    Run.continueFrom env recurse v bound state = .ok v state := by
  obtain ⟨valid, point, question, operator, conjunction⟩ := stops
  have returned {next : Run α (Value α)} {condition : Prop} [Decidable condition] (holds : condition) :
      (if condition then return v else next : Run α (Value α)) state = .ok v state := by
    rw [if_pos holds]
    rfl
  by_cases isPoint : state.cursor.current.kind = .point
  · rw [Run.continueFrom_point isPoint]
    exact returned (point isPoint)
  by_cases isQuestion : state.cursor.current.kind = .question
  · rw [Run.continueFrom_question isQuestion]
    exact returned (question isQuestion)
  unfold Run.continueFrom
  rw [Run.bind_ok (Run.current_eq state)]
  cases found : state.cursor.current.kind.operator? v.kind with
  | none =>
    have passed {next : Run α (Value α)} {condition : Bool} (fails : condition = false) :
        (if condition then next else return v : Run α (Value α)) state = .ok v state := by
      rw [fails]
      rfl
    by_cases both : state.cursor.current.kind = .doubleAmpersand
    · have strong : decide (bound ≤ Binding.conjunction) = false :=
        decide_eq_false (Nat.not_le.mpr (conjunction both found))
      rw [both] at found ⊢
      simp only [binding?, found, Option.map_none, strong, Bool.and_false]
      exact passed rfl
    · cases kind : state.cursor.current.kind <;> rw [kind] at found <;>
        first
          | exact absurd kind valid
          | exact absurd kind isPoint
          | exact absurd kind isQuestion
          | exact absurd kind both
          | simp only [binding?, found, Option.map_none]
            exact passed rfl
  | some op =>
    have weak := operator op found
    cases kind : state.cursor.current.kind <;> rw [kind] at found <;>
      first
        | cases found
          done
        | simp only [binding?, found, Option.map_some]
          exact returned weak

/-- A token ends a value of a kind: it stops the evaluation of every operand at the right end of it,
all of which ask for operators at least as strong as `least`. The sign `&&` is the delicate one,
since how strongly it binds depends on the value before it: such an operand is a matrix only if the
whole is one, or if it asks for the strongest operators. -/
structure Halts (token : TokenKind) (least : Nat) (kind : Kind) : Prop where
  notOpen : token ≠ .openParen
  stops : ∀ bound inner, least ≤ bound →
    (inner.isTensorLike = true → kind.isTensorLike = true ∨ 14 ≤ bound) → token.Stops bound inner

namespace Halts

variable {token : TokenKind} {least : Nat} {kind : Kind}

theorem self (halts : token.Halts least kind) : token.Stops least kind :=
  halts.stops least kind (Nat.le_refl _) .inl

theorem operand {further : Nat} {inner : Kind} (halts : token.Halts least kind) (most : least ≤ further)
    (matrix : inner.isTensorLike = true → kind.isTensorLike = true ∨ 14 ≤ further) :
    token.Halts further inner := by
  refine ⟨halts.notOpen, fun bound other reaches matrixOther => ?_⟩
  refine halts.stops bound other (Nat.le_trans most reaches) fun isMatrix => ?_
  rcases matrixOther isMatrix with here | strong
  · rcases matrix here with whole | strong
    · exact .inl whole
    · exact .inr (Nat.le_trans strong reaches)
  · exact .inr strong

theorem ofClosing (closing : token = .closeParen ∨ token = .comma ∨ token = .colon ∨ token = .finish)
    (least : Nat) (kind : Kind) : token.Halts least kind := by
  rcases closing with rfl | rfl | rfl | rfl
  all_goals exact ⟨by decide, fun _ _ _ _ => ⟨by decide, nofun, nofun, nofun, nofun⟩⟩

theorem ofQuestion (kind : Kind) : question.Halts 3 kind :=
  ⟨by decide, fun _ _ strong _ => ⟨by decide, nofun, fun _ => strong, nofun, nofun⟩⟩

theorem ofPoint (kind : Kind) : point.Halts 18 kind :=
  ⟨by decide, fun _ _ strong _ => ⟨by decide, fun _ => strong, nofun, nofun, nofun⟩⟩

theorem ofOperator {op : BinaryOp} {left right kind : Kind}
    (legal : op.result? left right = some kind) : op.token.Halts (2 * op.rank + 2) left := by
  have here := BinaryOp.operator?_token legal
  refine ⟨by cases op <;> decide, fun bound inner strong matrix => ?_⟩
  refine ⟨by cases op <;> decide, ?_, ?_, ?_, ?_⟩
  · intro point
    exact absurd point (by cases op <;> decide)
  · intro question
    exact absurd question (by cases op <;> decide)
  · intro other found
    rcases BinaryOp.token_operator? op found with rfl | both
    · rw [BinaryOp.level_eq]
      omega
    · -- the sign `&&`: after a truth value only another one, or a matrix under the strongest operators
      rcases both with ⟨rfl, rfl⟩ | ⟨rfl, rfl⟩
      · have isMatrix := BinaryOp.operator?_doubleInner found
        have logical := BinaryOp.operator?_and here
        rcases matrix isMatrix with leftMatrix | strongest
        · rw [logical] at leftMatrix
          cases leftMatrix
        · exact strongest
      · exact Nat.lt_of_lt_of_le (by decide) strong
  · intro both _
    have rank : 2 ≤ op.rank := by cases op <;> first | decide | cases both
    show 5 < bound
    omega

end Halts

end TokenKind

end MeshLang
