import MeshLang.Grammar.Operator
import MeshLang.Token.Kind

namespace MeshLang

/-- An operator with the strength by which it binds its left and its right operand. -/
structure Binding where
  op : BinaryOp
  left : Nat
  right : Nat
deriving DecidableEq, Repr

namespace Binding

def choice : Nat := 2

def otherwise : Nat := 1

/-- The strength of `&&` between truth values on its left, the weaker one of its two meanings. -/
def conjunction : Nat := 5

def sign : Nat := 15

def component : Nat := 17

end Binding

/-- How strongly an operator binds its left operand; it binds its right operand by one more. From
the weakest there are the choice, `||`, `&&` of truth values, equality, order, sums, products and
`&&` of matrices, signs before an operand, and what follows a point. -/
def BinaryOp.level : BinaryOp → Nat
  | .or => 3
  | .and => Binding.conjunction
  | .equal | .notEqual => 7
  | .less | .greater | .lessEqual | .greaterEqual => 9
  | .add | .sub => 11
  | .mul | .div | .remainder | .inner | .cross | .doubleInner => 13

namespace TokenKind

def operator? (token : TokenKind) (left : Kind) : Option BinaryOp :=
  match token with
  | .doubleBar => some .or
  | .doubleAmpersand =>
    if left = .logical then some .and
    else if left.isTensorLike then some .doubleInner
    else none
  | .equal => some .equal
  | .notEqual => some .notEqual
  | .less => some .less
  | .greater => some .greater
  | .lessEqual => some .lessEqual
  | .greaterEqual => some .greaterEqual
  | .plus => some .add
  | .minus => some .sub
  | .star => some .mul
  | .slash => some .div
  | .percent => some .remainder
  | .ampersand => some .inner
  | .caret => some .cross
  | _ => none

def binding? (token : TokenKind) (left : Kind) : Option Binding :=
  (token.operator? left).map fun op => ⟨op, op.level, op.level + 1⟩

def isOperator (token : TokenKind) : Bool := (token.operator? .logical).isSome

end TokenKind

namespace BinaryOp

variable {op : BinaryOp} {left right kind : Kind}

theorem result?_mem (legal : op.result? left right = some kind) : ⟨op, left, right, kind⟩ ∈ rules := by
  unfold result? at legal
  obtain ⟨rule, found, rfl⟩ := Option.map_eq_some_iff.mp legal
  have member := List.mem_of_find?_eq_some found
  have matched := List.find?_some found
  simp only [Bool.and_eq_true, decide_eq_true_eq] at matched
  obtain ⟨⟨rfl, rfl⟩, rfl⟩ := matched
  exact member

theorem rightKinds_filled (legal : op.result? left right = some kind) :
    (op.rightKinds left).isEmpty = false := by
  have member : right ∈ op.rightKinds left := by
    refine List.mem_map.mpr ⟨_, List.mem_filter.mpr ⟨result?_mem legal, ?_⟩, rfl⟩
    simp
  cases found : op.rightKinds left with
  | nil => rw [found] at member; cases member
  | cons first rest => rfl

theorem rules_right : ∀ rule ∈ rules, rule.right.isTensorLike = true →
    rule.result.isTensorLike = true ∨ rule.op.level = 13 := by
  decide

theorem result?_right (legal : op.result? left right = some kind) (matrix : right.isTensorLike = true) :
    kind.isTensorLike = true ∨ op.level = 13 :=
  rules_right _ (result?_mem legal) matrix

end BinaryOp

end MeshLang
