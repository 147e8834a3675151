import MeshLang.Evaluation.Reduction
import MeshLang.Grammar.Precedence
import MeshLang.Proofs.Value.Shape
import MeshLang.Value.Function
import MeshLang.Value.Reduction
import MeshLang.Value.Tensor

namespace MeshLang

variable {α : Type}

namespace BinaryOp

def shape : BinaryOp → Shape → Shape → Shape
  | .add, left, _ | .sub, left, _ | .div, left, _ => left
  | .mul, .number, right => right
  | .mul, left, _ => left
  | .inner, .vector, .vector => .number
  | .inner, .matrix, .matrix => .matrix
  | .inner, _, _ => .vector
  | .cross, _, _ => .vector
  | .remainder, _, _ | .doubleInner, _, _ => .number
  | .less, _, _ | .greater, _, _ | .lessEqual, _, _ | .greaterEqual, _, _ => .number
  | .equal, _, _ | .notEqual, _, _ | .and, _, _ | .or, _, _ => .number

theorem rules_shape :
    ∀ rule ∈ rules, rule.result.shape = rule.op.shape rule.left.shape rule.right.shape := by
  decide

/-- The kind that the table names uses the elements that the operator computes. -/
theorem result?_shape {op : BinaryOp} {left right kind : Kind}
    (legal : op.result? left right = some kind) :
    kind.shape = op.shape left.shape right.shape :=
  rules_shape _ (result?_mem legal)

end BinaryOp

namespace Value

structure Shared (mesh : Mesh α) (v w : Value α) (domain : Option Location × Nat) : Prop where
  count : domain.2 = mesh.count domain.1
  left : Spreads domain.2 v.data.size
  right : Spreads domain.2 w.data.size

theorem domain_meets {mesh : Mesh α} {v w : Value α} (left : v.Fits mesh) (right : w.Fits mesh) :
    Meets (Shared mesh v w) (fun _ => True) (domain v w) := by
  have leftSize := left.sized
  have rightSize := right.sized
  unfold domain
  cases leftPlace : v.location with
  | none =>
    have leftOne : v.data.size = 1 := by simpa only [size, Mesh.count, leftPlace] using leftSize
    cases rightPlace : w.location with
    | none =>
      have rightOne : w.data.size = 1 := by simpa only [size, Mesh.count, rightPlace] using rightSize
      exact .ok ⟨rfl, .inl leftOne, .inl rightOne⟩
    | some location =>
      rw [rightPlace] at rightSize
      exact .ok ⟨rightSize, .inr leftOne, .inl rfl⟩
  | some location =>
    rw [leftPlace] at leftSize
    cases rightPlace : w.location with
    | none =>
      have rightOne : w.data.size = 1 := by simpa only [size, Mesh.count, rightPlace] using rightSize
      exact .ok ⟨leftSize, .inl rfl, .inr rightOne⟩
    | some other =>
      dsimp only
      split
      · rename_i same
        exact .ok ⟨leftSize, .inl rfl, .inl same.symm⟩
      · exact .error trivial

def Made (mesh : Mesh α) (shape : Shape) (v : Value α) : Prop := v.Fits mesh ∧ v.data.shape = shape

theorem Made.relabel {mesh : Mesh α} {shape : Shape} {v : Value α} {kind : Kind}
    (made : Made mesh shape v) (uses : kind.shape = shape) : (v.relabel kind).Fits mesh :=
  .of_shape (made.2.trans uses.symm) made.1.sized

theorem Made.fits {mesh : Mesh α} {shape : Shape} {result : Except (FieldError α) (Value α)}
    (made : Meets (Made mesh shape) (fun _ => True) result) :
    Meets (fun u => u.Fits mesh) (fun _ => True) result :=
  made.weaken fun _ both => both.1

theorem paired_size {mesh : Mesh α} {ε δ γ : Type} {f : ε → δ → γ} {xs : List ε} {ys : List δ}
    {location : Option Location} {n : Nat} (count : n = mesh.count location)
    (left : Spreads n xs.length) (right : Spreads n ys.length) :
    (zipSpread n f xs ys).length = mesh.count location :=
  (zipSpread_length left right).trans count

variable [Scalar α] {mesh : Mesh α} {v w : Value α}

theorem combined_made (left : v.Fits mesh) (right : w.Fits mesh)
    (f : {ε : Type} → [Element α ε] → ε → ε → ε) (tag : Except (FieldError α) (Option (Dimensions α)))
    (error : FieldError α) :
    Meets (Made mesh v.data.shape) (fun _ => True) (do
      let (location, n) ← domain v w
      let tag ← tag
      match Data.lift₂ (zipSpread n f) v.data w.data with
      | some data => .ok ⟨v.kind, location, data, tag⟩
      | none => .error error) := by
  refine .bind (domain_meets left right) fun ⟨location, n⟩ shared => .bind .any fun tag _ => ?_
  split
  · rename_i data combined
    have shape := Data.lift₂_shape combined
    refine .ok ⟨.of_shape (shape.trans left.shape) ?_, shape⟩
    refine Data.lift₂_size combined fun xs ys one other => ?_
    exact paired_size shared.count (one ▸ shared.left) (other ▸ shared.right)
  · exact .error trivial

theorem add_made (left : v.Fits mesh) (right : w.Fits mesh) :
    Meets (Made mesh v.data.shape) (fun _ => True) (v.add w) :=
  combined_made left right Element.add _ _

theorem sub_made (left : v.Fits mesh) (right : w.Fits mesh) :
    Meets (Made mesh v.data.shape) (fun _ => True) (v.sub w) :=
  combined_made left right Element.sub _ _

theorem minimum_made (left : v.Fits mesh) (right : w.Fits mesh) :
    Meets (Made mesh v.data.shape) (fun _ => True) (v.minimum w) :=
  combined_made left right Element.lower _ _

theorem maximum_made (left : v.Fits mesh) (right : w.Fits mesh) :
    Meets (Made mesh v.data.shape) (fun _ => True) (v.maximum w) :=
  combined_made left right Element.upper _ _

theorem mul_made (left : v.Fits mesh) (right : w.Fits mesh) :
    Meets (Made mesh (BinaryOp.mul.shape v.data.shape w.data.shape)) (fun _ => True) (v.mul w) := by
  apply Meets.bind (domain_meets left right)
  intro ⟨location, n⟩ ⟨count, one, other⟩
  have leftShape := left.shape
  have rightShape := right.shape
  cases leftData : v.data with
  | scalar factors =>
    rw [leftData] at one
    cases rightData : w.data
    all_goals
      rw [rightData] at other rightShape
      exact .ok ⟨.of_shape rightShape (paired_size count other one), rfl⟩
  | vector values | tensor values =>
    rw [leftData] at one leftShape
    cases rightData : w.data <;> try exact .error trivial
    rw [rightData] at other
    exact .ok ⟨.of_shape leftShape (paired_size count one other), rfl⟩

theorem div_made (left : v.Fits mesh) (right : w.Fits mesh) :
    Meets (Made mesh v.data.shape) (fun _ => True) (v.div w) := by
  apply Meets.bind (domain_meets left right)
  intro ⟨location, n⟩ ⟨count, one, other⟩
  have shape := left.shape
  cases leftData : v.data <;> cases rightData : w.data <;> try exact .error trivial
  all_goals
    rw [leftData] at one shape
    rw [rightData] at other
    exact .ok ⟨.of_shape shape (paired_size count one other), rfl⟩

theorem remainder_made (left : v.Fits mesh) (right : w.Fits mesh) :
    Meets (Made mesh .number) (fun _ => True) (v.remainder w) := by
  apply Meets.bind (domain_meets left right)
  intro ⟨location, n⟩ ⟨count, one, other⟩
  apply Meets.bind .any
  intro tag _
  cases leftData : v.data <;> cases rightData : w.data <;> try exact .error trivial
  rw [leftData] at one
  rw [rightData] at other
  exact .ok ⟨.of_shape rfl (paired_size count one other), rfl⟩

theorem inner_made (left : v.Fits mesh) (right : w.Fits mesh) :
    Meets (Made mesh (BinaryOp.inner.shape v.data.shape w.data.shape)) (fun _ => True)
      (v.inner w) := by
  apply Meets.bind (domain_meets left right)
  intro ⟨location, n⟩ ⟨count, one, other⟩
  cases leftData : v.data <;> cases rightData : w.data <;> try exact .error trivial
  all_goals
    rw [leftData] at one
    rw [rightData] at other
    refine .ok ⟨.of_shape ?_ (paired_size count one other), rfl⟩
    first
      | rfl
      | dsimp only
        split <;> rfl

theorem cross_made (left : v.Fits mesh) (right : w.Fits mesh) :
    Meets (Made mesh .vector) (fun _ => True) (v.cross w) := by
  apply Meets.bind (domain_meets left right)
  intro ⟨location, n⟩ ⟨count, one, other⟩
  cases leftData : v.data <;> cases rightData : w.data <;> try exact .error trivial
  rw [leftData] at one
  rw [rightData] at other
  exact .ok ⟨.of_shape rfl (paired_size count one other), rfl⟩

theorem doubleInner_made (left : v.Fits mesh) (right : w.Fits mesh) :
    Meets (Made mesh .number) (fun _ => True) (v.doubleInner w) := by
  apply Meets.bind (domain_meets left right)
  intro ⟨location, n⟩ ⟨count, one, other⟩
  cases leftData : v.data <;> cases rightData : w.data <;> try exact .error trivial
  rw [leftData] at one
  rw [rightData] at other
  exact .ok ⟨.of_shape rfl (paired_size count one other), rfl⟩

theorem compare_made (comparison : Comparison) (left : v.Fits mesh) (right : w.Fits mesh) :
    Meets (Made mesh .number) (fun _ => True) (Value.compare comparison v w) := by
  apply Meets.bind (domain_meets left right)
  intro ⟨location, n⟩ ⟨count, one, other⟩
  apply Meets.bind .any
  intro tag _
  cases leftData : v.data <;> cases rightData : w.data <;> try exact .error trivial
  rw [leftData] at one
  rw [rightData] at other
  exact .ok ⟨.of_shape rfl (paired_size count one other), rfl⟩

theorem truthPair_made (symbol : String) (f : Bool → Bool → Bool) (left : v.Fits mesh)
    (right : w.Fits mesh) :
    Meets (Made mesh .number) (fun _ => True) (truthPair symbol f v w) := by
  apply Meets.bind (domain_meets left right)
  intro ⟨location, n⟩ ⟨count, one, other⟩
  cases leftData : v.data <;> cases rightData : w.data <;> try exact .error trivial
  rw [leftData] at one
  rw [rightData] at other
  exact .ok ⟨.of_shape rfl (paired_size count one other), rfl⟩

theorem pow_made (left : v.Fits mesh) (right : w.Fits mesh) :
    Meets (Made mesh .number) (fun _ => True) (v.pow w) := by
  apply Meets.bind (domain_meets left right)
  intro ⟨location, n⟩ ⟨count, one, other⟩
  cases leftData : v.data <;> cases rightData : w.data <;> try exact .error trivial
  rw [leftData] at one
  rw [rightData] at other
  exact .ok ⟨.of_shape rfl (paired_size count one other), rfl⟩

end Value

theorem BinaryOp.apply_made [Scalar α] {mesh : Mesh α} (op : BinaryOp) {v w : Value α}
    (left : v.Fits mesh) (right : w.Fits mesh) :
    Meets (Value.Made mesh (op.shape v.data.shape w.data.shape)) (fun _ => True) (op.apply v w) := by
  cases op with
  | add => exact Value.add_made left right
  | sub => exact Value.sub_made left right
  | mul => exact Value.mul_made left right
  | div => exact Value.div_made left right
  | remainder => exact Value.remainder_made left right
  | inner => exact Value.inner_made left right
  | cross => exact Value.cross_made left right
  | doubleInner => exact Value.doubleInner_made left right
  | less => exact Value.compare_made .less left right
  | greater => exact Value.compare_made .greater left right
  | lessEqual => exact Value.compare_made .lessEqual left right
  | greaterEqual => exact Value.compare_made .greaterEqual left right
  | equal => exact Value.compare_made .equal left right
  | notEqual => exact Value.compare_made .notEqual left right
  | and => exact Value.truthPair_made "&&" Bool.and left right
  | or => exact Value.truthPair_made "||" Bool.or left right

theorem BinaryOp.apply_fits [Scalar α] {mesh : Mesh α} {op : BinaryOp} {v w : Value α} {kind : Kind}
    (legal : op.result? v.kind w.kind = some kind) (left : v.Fits mesh) (right : w.Fits mesh) :
    Meets (fun u => (u.relabel kind).Fits mesh) (fun _ => True) (op.apply v w) := by
  refine (op.apply_made left right).weaken fun u made => made.relabel ?_
  rw [left.shape, right.shape]
  exact result?_shape legal

end MeshLang
