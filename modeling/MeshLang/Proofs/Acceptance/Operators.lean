import MeshLang.Proofs.Lockstep.Environment
import MeshLang.Proofs.Value.Operators

namespace MeshLang

variable {α : Type}

/-- Elements refuse what they are asked for because of their type or their number. Tags that disagree
and matrices without an inverse are no such refusals. -/
def FieldError.IsRefusal : FieldError α → Prop
  | .unsupported _ _ | .storageMismatch _ | .empty _ | .sizeMismatch _ _ => True
  | .dimensionMismatch _ _ _ | .singular _ _ => False

abbrev Accepts {β : Type} (result : Except (FieldError α) β) : Prop :=
  Meets (fun _ => True) (fun error => ¬ error.IsRefusal) result

namespace Value

variable {mesh : Mesh α} {v w : Value α}

theorem domain_eq (left : v.Fits mesh) (right : w.Fits mesh) (together : v.Together w) :
    domain v w = .ok (v.location.or w.location, mesh.count (v.location.or w.location)) := by
  have leftSize := left.sized
  have rightSize := right.sized
  unfold domain
  cases leftPlace : v.location with
  | none =>
    cases rightPlace : w.location with
    | none => rfl
    | some location =>
      rw [rightPlace] at rightSize
      simp only [rightSize, Option.none_or]
  | some location =>
    rw [leftPlace] at leftSize
    cases rightPlace : w.location with
    | none => simp only [leftSize, Option.some_or]
    | some other =>
      obtain rfl := together location other leftPlace rightPlace
      rw [rightPlace] at rightSize
      simp only [leftSize, rightSize, if_true, Option.some_or]

theorem domain_accepts (left : v.Fits mesh) (right : w.Fits mesh) (together : v.Together w) :
    Meets (· = (v.location.or w.location, mesh.count (v.location.or w.location)))
      (fun error => ¬ error.IsRefusal) (domain v w) := by
  rw [domain_eq left right together]
  exact .ok rfl

variable [Scalar α]

theorem sumTag_accepts (operation : String) (tag other : Option (Dimensions α)) :
    Accepts (sumTag operation tag other) := by
  unfold sumTag
  split
  · split
    · exact .ok trivial
    · exact .error fun refused => refused
  · exact .ok trivial
  · exact .ok trivial

theorem combined_accepts (left : v.Fits mesh) (right : w.Fits mesh) (together : v.Together w)
    (same : v.data.shape = w.data.shape) (f : {ε : Type} → [Element α ε] → ε → ε → ε)
    {tag : Except (FieldError α) (Option (Dimensions α))} (tagged : Accepts tag)
    (error : FieldError α) :
    Accepts (do
      let (location, n) ← domain v w
      let tag ← tag
      match Data.lift₂ (zipSpread n f) v.data w.data with
      | some data => .ok (⟨v.kind, location, data, tag⟩ : Value α)
      | none => .error error) := by
  refine .bind (domain_accepts left right together) fun place _ => .bind tagged fun tag _ => ?_
  obtain ⟨data, combined⟩ := Data.lift₂_of_shape (zipSpread place.2 f) same
  rw [combined]
  exact .ok trivial

theorem minimum_accepts (left : v.Fits mesh) (right : w.Fits mesh) (together : v.Together w)
    (same : v.data.shape = w.data.shape) : Accepts (v.minimum w) :=
  combined_accepts left right together same Element.lower (sumTag_accepts _ _ _) _

theorem maximum_accepts (left : v.Fits mesh) (right : w.Fits mesh) (together : v.Together w)
    (same : v.data.shape = w.data.shape) : Accepts (v.maximum w) :=
  combined_accepts left right together same Element.upper (sumTag_accepts _ _ _) _

end Value

namespace BinaryOp

def combines : BinaryOp → Shape → Shape → Bool
  | .add, left, right | .sub, left, right => left = right
  | .mul, left, right => left = .number || right = .number
  | .div, _, right => right = .number
  | .inner, left, right => left ≠ .number && right ≠ .number
  | .cross, left, right => left = .vector && right = .vector
  | .doubleInner, left, right => left = .matrix && right = .matrix
  | .remainder, left, right | .less, left, right | .greater, left, right
  | .lessEqual, left, right | .greaterEqual, left, right | .equal, left, right
  | .notEqual, left, right | .and, left, right | .or, left, right =>
    left = .number && right = .number

/-- The table of legal applications names no element types that an operator cannot combine. -/
theorem rules_combine :
    ∀ rule ∈ rules, rule.op.combines rule.left.shape rule.right.shape = true := by
  decide

theorem result?_combines {op : BinaryOp} {left right kind : Kind}
    (legal : op.result? left right = some kind) :
    op.combines left.shape right.shape = true :=
  rules_combine _ (result?_mem legal)

end BinaryOp

namespace Value

variable [Scalar α] {mesh : Mesh α} {v w : Value α}

theorem mul_accepts (left : v.Fits mesh) (right : w.Fits mesh) (together : v.Together w)
    (number : v.data.shape = .number ∨ w.data.shape = .number) : Accepts (v.mul w) := by
  refine .bind (domain_accepts left right together) fun place _ => ?_
  dsimp only
  rcases number with number | number
  · obtain ⟨factors, held⟩ := Data.of_number number
    rw [held]
    exact .ok trivial
  · obtain ⟨factors, held⟩ := Data.of_number number
    rw [held]
    cases v.data <;> exact .ok trivial

theorem div_accepts (left : v.Fits mesh) (right : w.Fits mesh) (together : v.Together w)
    (number : w.data.shape = .number) : Accepts (v.div w) := by
  refine .bind (domain_accepts left right together) fun place _ => ?_
  obtain ⟨divisors, held⟩ := Data.of_number number
  dsimp only
  rw [held]
  exact .ok trivial

theorem inner_accepts (left : v.Fits mesh) (right : w.Fits mesh) (together : v.Together w)
    (apart : v.data.shape ≠ .number) (apart' : w.data.shape ≠ .number) : Accepts (v.inner w) := by
  refine .bind (domain_accepts left right together) fun place _ => ?_
  dsimp only
  cases held : v.data with
  | scalar _ => exact absurd (congrArg Data.shape held) apart
  | vector xs | tensor ms =>
    cases held' : w.data with
    | scalar _ => exact absurd (congrArg Data.shape held') apart'
    | vector _ | tensor _ => exact .ok trivial

theorem cross_accepts (left : v.Fits mesh) (right : w.Fits mesh) (together : v.Together w)
    (vector : v.data.shape = .vector) (vector' : w.data.shape = .vector) : Accepts (v.cross w) := by
  refine .bind (domain_accepts left right together) fun place _ => ?_
  obtain ⟨xs, held⟩ := Data.of_vector vector
  obtain ⟨ys, held'⟩ := Data.of_vector vector'
  dsimp only
  rw [held, held']
  exact .ok trivial

theorem doubleInner_accepts (left : v.Fits mesh) (right : w.Fits mesh) (together : v.Together w)
    (matrix : v.data.shape = .matrix) (matrix' : w.data.shape = .matrix) :
    Accepts (v.doubleInner w) := by
  refine .bind (domain_accepts left right together) fun place _ => ?_
  obtain ⟨ms, held⟩ := Data.of_matrix matrix
  obtain ⟨ns, held'⟩ := Data.of_matrix matrix'
  dsimp only
  rw [held, held']
  exact .ok trivial

section Numbers

variable (left : v.Fits mesh) (right : w.Fits mesh) (together : v.Together w)
  (number : v.data.shape = .number) (number' : w.data.shape = .number)

include left right together number number'

theorem remainder_accepts : Accepts (v.remainder w) := by
  refine .bind (domain_accepts left right together) fun place _ => ?_
  refine .bind (sumTag_accepts _ _ _) fun tag _ => ?_
  obtain ⟨xs, held⟩ := Data.of_number number
  obtain ⟨ys, held'⟩ := Data.of_number number'
  rw [held, held']
  exact .ok trivial

theorem compare_accepts (comparison : Comparison) : Accepts (v.compare comparison w) := by
  refine .bind (domain_accepts left right together) fun place _ => ?_
  refine .bind (sumTag_accepts _ _ _) fun tag _ => ?_
  obtain ⟨xs, held⟩ := Data.of_number number
  obtain ⟨ys, held'⟩ := Data.of_number number'
  dsimp only
  rw [held, held']
  exact .ok trivial

theorem truthPair_accepts (symbol : String) (f : Bool → Bool → Bool) :
    Accepts (truthPair symbol f v w) := by
  refine .bind (domain_accepts left right together) fun place _ => ?_
  obtain ⟨xs, held⟩ := Data.of_number number
  obtain ⟨ys, held'⟩ := Data.of_number number'
  dsimp only
  rw [held, held']
  exact .ok trivial

theorem pow_accepts : Accepts (v.pow w) := by
  refine .bind (domain_accepts left right together) fun place _ => ?_
  obtain ⟨xs, held⟩ := Data.of_number number
  obtain ⟨es, held'⟩ := Data.of_number number'
  rw [held, held']
  exact .ok trivial

end Numbers

end Value

theorem BinaryOp.apply_accepts [Scalar α] {mesh : Mesh α} (op : BinaryOp) {v w : Value α}
    (left : v.Fits mesh) (right : w.Fits mesh) (together : v.Together w)
    (combines : op.combines v.data.shape w.data.shape = true) : Accepts (op.apply v w) := by
  cases op
  all_goals
    simp only [BinaryOp.combines, Bool.and_eq_true, Bool.or_eq_true, decide_eq_true_eq] at combines
  case add => exact Value.combined_accepts left right together combines _ (Value.sumTag_accepts _ _ _) _
  case sub => exact Value.combined_accepts left right together combines _ (Value.sumTag_accepts _ _ _) _
  case mul => exact Value.mul_accepts left right together combines
  case div => exact Value.div_accepts left right together combines
  case inner => exact Value.inner_accepts left right together combines.1 combines.2
  case cross => exact Value.cross_accepts left right together combines.1 combines.2
  case doubleInner => exact Value.doubleInner_accepts left right together combines.1 combines.2
  case remainder => exact Value.remainder_accepts left right together combines.1 combines.2
  case and => exact Value.truthPair_accepts left right together combines.1 combines.2 _ _
  case or => exact Value.truthPair_accepts left right together combines.1 combines.2 _ _
  all_goals exact Value.compare_accepts left right together combines.1 combines.2 _

/-- A legal operator makes a value of the kind that the table names, or fails because of tags. -/
theorem BinaryOp.apply_meets [Scalar α] {mesh : Mesh α} {op : BinaryOp} {v w : Value α} {kind : Kind}
    (legal : op.result? v.kind w.kind = some kind) (left : v.Fits mesh) (right : w.Fits mesh)
    (together : v.Together w) :
    Meets (fun u => (u.relabel kind).Fits mesh) (fun error => ¬ error.IsRefusal) (op.apply v w) := by
  refine (op.apply_fits legal left right).within (op.apply_accepts left right together ?_)
  rw [left.shape, right.shape]
  exact result?_combines legal

end MeshLang
