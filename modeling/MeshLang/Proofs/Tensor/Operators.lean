import MeshLang.Proofs.Tensor.Elements

namespace MeshLang

variable {α : Type} [ExactScalar α]

/-- What the kind of a value says of its matrices. -/
def Kind.Admits : Kind → Mat3 α → Prop
  | .symmTensor, m => m.IsSymmetric
  | .sphericalTensor, m => m.IsIsotropic
  | _, _ => True

theorem Kind.admits_closed (kind : Kind) : Element.Closed (kind.Admits : Mat3 α → Prop) := by
  cases kind with
  | symmTensor => exact Mat3.isSymmetric_closed
  | sphericalTensor => exact Mat3.isIsotropic_closed
  | logical | scalar | vector | tensor => exact Element.closed_true

structure Value.Regular (v : Value α) : Prop where
  stored : v.data.stores v.kind = true
  matrices : v.data.Matrices v.kind.Admits

namespace Value

abbrev Promises (kind : Kind) (v : Value α) : Prop := v.Regular ∧ v.kind = kind

namespace Regular

variable {v : Value α}

theorem shape (regular : v.Regular) : v.data.shape = v.kind.shape :=
  (v.data.stores_iff v.kind).mp regular.stored

theorem of_shape (shape : v.data.shape = v.kind.shape) (matrices : v.data.Matrices v.kind.Admits) :
    v.Regular :=
  ⟨(v.data.stores_iff v.kind).mpr shape, matrices⟩

theorem scalar {location : Option Location} {values : List α} {tag : Option (Dimensions α)} :
    Regular ⟨.scalar, location, .scalar values, tag⟩ := ⟨rfl, trivial⟩

theorem logical {location : Option Location} {values : List α} {tag : Option (Dimensions α)} :
    Regular ⟨.logical, location, .scalar values, tag⟩ := ⟨rfl, trivial⟩

theorem vector {location : Option Location} {values : List (Vec3 α)} {tag : Option (Dimensions α)} :
    Regular ⟨.vector, location, .vector values, tag⟩ := ⟨rfl, trivial⟩

theorem tensor {location : Option Location} {values : List (Mat3 α)} {tag : Option (Dimensions α)} :
    Regular ⟨.tensor, location, .tensor values, tag⟩ := ⟨rfl, fun _ _ => trivial⟩

theorem symmTensor (location : Location) (ms : List (Mat3 α)) :
    (Value.symmTensor location ms).Regular := by
  refine ⟨rfl, fun m member => ?_⟩
  obtain ⟨n, -, rfl⟩ := List.mem_map.mp member
  exact n.symmetricFromUpper_isSymmetric

theorem sphericalTensor (location : Location) (factors : List α) :
    (Value.sphericalTensor location factors).Regular := by
  refine ⟨rfl, fun m member => ?_⟩
  obtain ⟨factor, -, rfl⟩ := List.mem_map.mp member
  exact ⟨factor, rfl⟩

theorem untagged (regular : v.Regular) : v.untagged.Regular := ⟨regular.stored, regular.matrices⟩

theorem broadcastTo (regular : v.Regular) (location : Location) (n : Nat) :
    (v.broadcastTo location n).Regular := by
  unfold Value.broadcastTo
  split
  · exact .of_shape ((Data.replicate_shape n v.data).trans regular.shape) (regular.matrices.replicate n)
  · exact regular

theorem lift (regular : v.Regular) (f : {ε : Type} → [Element α ε] → List ε → List ε)
    (keeps : ∀ ms : List (Mat3 α), (∀ m ∈ ms, v.kind.Admits m) → ∀ m ∈ f ms, v.kind.Admits m)
    {location : Option Location} {tag : Option (Dimensions α)} :
    Promises v.kind ⟨v.kind, location, v.data.lift f, tag⟩ :=
  ⟨.of_shape ((Data.lift_shape v.data).trans regular.shape) (regular.matrices.lift keeps), rfl⟩

theorem numbers (regular : v.Regular) (number : v.kind.shape = .number) :
    ∃ values, v.data = .scalar values :=
  Data.of_number (regular.shape.trans number)

end Regular

variable {v w : Value α}

theorem relabel_promises {kind : Kind} (promises : v.Promises kind) : (v.relabel kind).Regular := by
  obtain ⟨regular, rfl⟩ := promises
  exact regular

theorem combined_regular (left : v.Regular) (right : w.Regular) (same : w.kind = v.kind)
    (f : {ε : Type} → [Element α ε] → ε → ε → ε)
    (keeps : ∀ x y : Mat3 α, v.kind.Admits x → v.kind.Admits y → v.kind.Admits (f x y))
    (tag : Except (FieldError α) (Option (Dimensions α))) (error : FieldError α) :
    Meets (Promises v.kind) (fun _ => True) (do
      let (location, n) ← domain v w
      let tag ← tag
      match Data.lift₂ (zipSpread n f) v.data w.data with
      | some data => .ok ⟨v.kind, location, data, tag⟩
      | none => .error error) := by
  refine .bind .any fun place _ => .bind .any fun tag _ => ?_
  split
  · rename_i data combined
    have shape := Data.lift₂_shape combined
    refine .ok ⟨.of_shape (shape.trans left.shape) ?_, rfl⟩
    refine Data.Matrices.lift₂ combined left.matrices (same ▸ right.matrices) fun ms ns one other => ?_
    exact forall_zipSpread one other keeps
  · exact .error trivial

theorem add_regular (left : v.Regular) (right : w.Regular) (same : w.kind = v.kind) :
    Meets (Promises v.kind) (fun _ => True) (v.add w) :=
  combined_regular left right same Element.add v.kind.admits_closed.add _ _

theorem sub_regular (left : v.Regular) (right : w.Regular) (same : w.kind = v.kind) :
    Meets (Promises v.kind) (fun _ => True) (v.sub w) :=
  combined_regular left right same Element.sub v.kind.admits_closed.sub _ _

theorem minimum_regular (left : v.Regular) (right : w.Regular) (same : w.kind = v.kind) :
    Meets (Promises v.kind) (fun _ => True) (v.minimum w) :=
  combined_regular left right same Element.lower v.kind.admits_closed.lower _ _

theorem maximum_regular (left : v.Regular) (right : w.Regular) (same : w.kind = v.kind) :
    Meets (Promises v.kind) (fun _ => True) (v.maximum w) :=
  combined_regular left right same Element.upper v.kind.admits_closed.upper _ _

section Multiples

variable {β : Type} [Scalar β]

theorem scaleBy_shape (n : Nat) (factors : List β) (data : Data β) :
    (scaleBy n factors data).shape = data.shape :=
  Data.lift_shape data

theorem scaleBy_matrices {Q : Mat3 β → Prop} (closed : Element.Closed Q) {data : Data β}
    (all : data.Matrices Q) (n : Nat) (factors : List β) : (scaleBy n factors data).Matrices Q :=
  all.lift fun _ held => forall_zipSpread (Q := fun _ => True) held (fun _ _ => trivial)
    fun m factor so _ => closed.scale m factor so

end Multiples

theorem mul_regular (left : v.Regular) (right : w.Regular) (number : v.kind = .scalar) :
    Meets (Promises w.kind) (fun _ => True) (v.mul w) := by
  obtain ⟨factors, held⟩ := left.numbers (number ▸ rfl)
  refine .bind .any fun place _ => ?_
  dsimp only
  rw [held]
  refine .ok ⟨.of_shape ((scaleBy_shape _ _ _).trans right.shape) ?_, rfl⟩
  exact scaleBy_matrices w.kind.admits_closed right.matrices _ factors

theorem mul_number_regular (left : v.Regular) (right : w.Regular) (number : w.kind = .scalar)
    (apart : v.kind.shape ≠ .number) : Meets (Promises v.kind) (fun _ => True) (v.mul w) := by
  obtain ⟨factors, held⟩ := right.numbers (number ▸ rfl)
  have shape := left.shape
  have matrices := left.matrices
  refine .bind .any fun place _ => ?_
  dsimp only
  rw [held]
  cases found : v.data with
  | scalar values =>
    rw [found] at shape
    exact absurd shape.symm apart
  | vector values =>
    rw [found] at shape
    exact .ok ⟨.of_shape shape trivial, rfl⟩
  | tensor values =>
    rw [found] at shape matrices
    exact .ok ⟨.of_shape shape (scaleBy_matrices v.kind.admits_closed matrices _ factors), rfl⟩

theorem div_regular (left : v.Regular) : Meets (Promises v.kind) (fun _ => True) (v.div w) := by
  refine .bind .any fun place _ => ?_
  dsimp only
  split
  · rename_i divisors held
    refine .ok (left.lift (fun xs => zipSpread place.2 (fun x k => Element.divide x k) xs divisors) ?_)
    exact fun ms so => forall_zipSpread (Q := fun _ => True) so (fun _ _ => trivial)
      fun m divisor admitted _ => v.kind.admits_closed.divide m divisor admitted
  · exact .error trivial

theorem neg_regular (regular : v.Regular) : Promises v.kind v.neg := by
  refine regular.lift (List.map Element.neg) fun ms so m member => ?_
  obtain ⟨n, here, rfl⟩ := List.mem_map.mp member
  exact v.kind.admits_closed.neg n (so n here)

end Value

def BinaryOp.isLinear : BinaryOp → Bool
  | .add | .sub | .mul | .div => true
  | _ => false

def Kind.isFree : Kind → Bool
  | .symmTensor | .sphericalTensor => false
  | _ => true

theorem Kind.admits_free {kind : Kind} (free : kind.isFree = true) (data : Data α) :
    data.Matrices kind.Admits := by
  refine .of_all fun m => ?_
  cases kind with
  | symmTensor | sphericalTensor => cases free
  | logical | scalar | vector | tensor => trivial

namespace BinaryOp

theorem rules_sum : ∀ rule ∈ rules, rule.op = .add ∨ rule.op = .sub →
    rule.right = rule.left ∧ rule.result = rule.left := by
  decide

theorem rules_product : ∀ rule ∈ rules, rule.op = .mul →
    rule.left = .scalar ∧ rule.result = rule.right ∨
      rule.right = .scalar ∧ rule.left.shape ≠ .number ∧ rule.result = rule.left := by
  decide

theorem rules_quotient : ∀ rule ∈ rules, rule.op = .div → rule.result = rule.left := by
  decide

theorem rules_free : ∀ rule ∈ rules, rule.op.isLinear = false → rule.result.isFree = true := by
  decide

theorem apply_shape {op : BinaryOp} (other : op.isLinear = false) (v w : Value α) :
    Meets (fun u => u.data.shape = op.shape v.data.shape w.data.shape) (fun _ => True)
      (op.apply v w) := by
  have compared (comparison : Comparison) :
      Meets (fun u => u.data.shape = .number) (fun _ => True) (Value.compare comparison v w) := by
    refine .bind .any fun place _ => .bind .any fun _ _ => ?_
    split
    · exact .ok rfl
    · exact .error trivial
  have tested (symbol : String) (f : Bool → Bool → Bool) :
      Meets (fun u => u.data.shape = .number) (fun _ => True) (Value.truthPair symbol f v w) := by
    refine .bind .any fun place _ => ?_
    dsimp only
    split
    · exact .ok rfl
    · exact .error trivial
  cases op with
  | add | sub | mul | div => cases other
  | less => exact compared .less
  | greater => exact compared .greater
  | lessEqual => exact compared .lessEqual
  | greaterEqual => exact compared .greaterEqual
  | equal => exact compared .equal
  | notEqual => exact compared .notEqual
  | and => exact tested "&&" Bool.and
  | or => exact tested "||" Bool.or
  | remainder =>
    refine .bind .any fun place _ => .bind .any fun _ _ => ?_
    split
    · exact .ok rfl
    · exact .error trivial
  | inner =>
    refine .bind .any fun place _ => ?_
    cases v.data <;> cases w.data <;> first | exact .ok rfl | exact .error trivial
  | cross =>
    refine .bind .any fun place _ => ?_
    cases v.data <;> cases w.data <;> first | exact .ok rfl | exact .error trivial
  | doubleInner =>
    refine .bind .any fun place _ => ?_
    cases v.data <;> cases w.data <;> first | exact .ok rfl | exact .error trivial

theorem apply_regular {op : BinaryOp} {v w : Value α} {kind : Kind}
    (legal : op.result? v.kind w.kind = some kind) (left : v.Regular) (right : w.Regular) :
    Meets (fun u => (u.relabel kind).Regular) (fun _ => True) (op.apply v w) := by
  have listed := result?_mem legal
  by_cases linear : op.isLinear = true
  · cases op with
    | add =>
      obtain ⟨same, result⟩ : w.kind = v.kind ∧ kind = v.kind := rules_sum _ listed (.inl rfl)
      subst result
      exact (Value.add_regular left right same).weaken fun _ made => Value.relabel_promises made
    | sub =>
      obtain ⟨same, result⟩ : w.kind = v.kind ∧ kind = v.kind := rules_sum _ listed (.inr rfl)
      subst result
      exact (Value.sub_regular left right same).weaken fun _ made => Value.relabel_promises made
    | mul =>
      obtain ⟨number, result⟩ | ⟨number, apart, result⟩ : v.kind = .scalar ∧ kind = w.kind ∨
          w.kind = .scalar ∧ v.kind.shape ≠ .number ∧ kind = v.kind := rules_product _ listed rfl
      · subst result
        exact (Value.mul_regular left right number).weaken fun _ made => Value.relabel_promises made
      · subst result
        refine (Value.mul_number_regular left right number apart).weaken fun _ made => ?_
        exact Value.relabel_promises made
    | div =>
      obtain rfl : kind = v.kind := rules_quotient _ listed rfl
      exact (Value.div_regular left).weaken fun _ made => Value.relabel_promises made
    | _ => cases linear
  · have other : op.isLinear = false := Bool.eq_false_iff.mpr linear
    refine (apply_shape other v w).weaken fun u shape => ?_
    refine .of_shape (shape.trans ?_) (Kind.admits_free (rules_free _ listed other) u.data)
    rw [left.shape, right.shape]
    exact (result?_shape legal).symm

end BinaryOp

theorem UnaryOp.apply_regular {op : UnaryOp} {v : Value α} {kind : Kind}
    (legal : op.result? v.kind = some kind) (regular : v.Regular) :
    Meets (fun u => (u.relabel kind).Regular) (fun _ => True) (op.apply v) := by
  cases op with
  | negate =>
    simp only [result?] at legal
    split at legal
    · cases legal
      exact .ok (Value.relabel_promises (Value.neg_regular regular))
    · cases legal
  | not =>
    simp only [result?] at legal
    split at legal
    · cases legal
      unfold UnaryOp.apply Value.not
      dsimp only
      split
      · exact .ok .logical
      · exact .error trivial
    · cases legal

theorem Value.select_regular {c v w : Value α} {kind : Kind}
    (legal : choiceResult? c.kind v.kind w.kind = some kind) (left : v.Regular) (right : w.Regular) :
    Meets (fun u => (u.relabel kind).Regular) (fun _ => True) (Value.select c v w) := by
  simp only [choiceResult?] at legal
  split at legal
  · rename_i matching
    cases legal
    simp only [Bool.and_eq_true, decide_eq_true_eq] at matching
    refine .bind .any fun branches _ => .bind .any fun place _ => .bind .any fun tag _ => ?_
    split
    · rename_i mask held
      split
      · rename_i data combined
        have shape := Data.lift₂_shape combined
        refine .ok (.of_shape (shape.trans left.shape) ?_)
        refine Data.Matrices.lift₂ combined left.matrices (matching.2 ▸ right.matrices) ?_
        intro ms ns one other m member
        rcases Value.mem_choose member with here | there
        · exact one m here
        · exact other m there
      · exact .error trivial
    · exact .error trivial
  · cases legal

end MeshLang
