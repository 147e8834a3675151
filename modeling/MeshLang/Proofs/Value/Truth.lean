import MeshLang.Evaluation.Reduction
import MeshLang.Proofs.Evaluation.Outcome
import MeshLang.Grammar.Precedence
import MeshLang.Value.Function
import MeshLang.Value.Reduction
import MeshLang.Value.Tensor

namespace MeshLang

variable {α : Type} [Scalar α]

theorem Kind.scalar_ne_logical : Kind.scalar ≠ .logical := by decide

theorem Kind.vector_ne_logical : Kind.vector ≠ .logical := by decide

theorem Kind.tensor_ne_logical : Kind.tensor ≠ .logical := by decide

theorem Kind.symmTensor_ne_logical : Kind.symmTensor ≠ .logical := by decide

def Scalar.IsTruth (x : α) : Prop := x = Scalar.zero ∨ x = Scalar.one

theorem Scalar.truth_isTruth (b : Bool) : Scalar.IsTruth (Scalar.truth b : α) := by
  cases b
  · left; rfl
  · right; rfl

namespace Value

def Truths (v : Value α) : Prop := ∃ values, v.data = .scalar values ∧ ∀ x ∈ values, Scalar.IsTruth x

/-- All elements are zero or one if the value is logical. -/
def Truthful (v : Value α) : Prop := v.kind = .logical → v.Truths

abbrev Numeric (result : Except (FieldError α) (Value α)) : Prop :=
  Meets (fun v => v.kind ≠ .logical) (fun _ => True) result

abbrev OfKind (kind : Kind) (result : Except (FieldError α) (Value α)) : Prop :=
  Meets (fun v => v.kind = kind) (fun _ => True) result

variable {v w : Value α}

theorem truthful_of_kind (numeric : v.kind ≠ .logical) : v.Truthful :=
  fun logical => absurd logical numeric

omit [Scalar α] in
theorem OfKind.numeric {kind : Kind} {result : Except (FieldError α) (Value α)}
    (ofKind : OfKind kind result) (numeric : kind ≠ .logical) : Numeric result :=
  ofKind.weaken fun _ same => same ▸ numeric

theorem truths_map {ε : Type} (kind : Kind) (location : Option Location) (test : ε → Bool)
    (xs : List ε) (tag : Option (Dimensions α)) :
    Truths ⟨kind, location, .scalar (xs.map fun x => Scalar.truth (test x)), tag⟩ := by
  refine ⟨_, rfl, fun x member => ?_⟩
  obtain ⟨y, -, rfl⟩ := List.mem_map.mp member
  exact Scalar.truth_isTruth (test y)

theorem constantLogical_truthful (b : Bool) : (constantLogical b : Value α).Truthful :=
  fun _ => truths_map .logical none id [b] none

omit [Scalar α] in
theorem mem_spread {ε : Type} {n : Nat} {xs : List ε} {x : ε} (member : x ∈ spread n xs) : x ∈ xs := by
  unfold spread at member
  split at member
  · obtain ⟨-, rfl⟩ := List.mem_replicate.mp member
    exact List.mem_singleton.mpr rfl
  · exact member

omit [Scalar α] in
theorem mem_zipWith {ε δ γ : Type} {f : ε → δ → γ} {xs : List ε} {ys : List δ} {z : γ}
    (member : z ∈ List.zipWith f xs ys) : ∃ x ∈ xs, ∃ y ∈ ys, z = f x y := by
  rw [← List.map_uncurry_zip_eq_zipWith] at member
  obtain ⟨⟨x, y⟩, paired, rfl⟩ := List.mem_map.mp member
  exact ⟨x, (List.of_mem_zip paired).1, y, (List.of_mem_zip paired).2, rfl⟩

theorem Truthful.broadcastTo (truthful : v.Truthful) (location : Location) (n : Nat) :
    (v.broadcastTo location n).Truthful := by
  unfold Value.broadcastTo
  split
  · intro logical
    obtain ⟨values, held, truths⟩ := truthful logical
    refine ⟨_, congrArg (Data.replicate n) held, fun x member => ?_⟩
    obtain ⟨y, first, repeated⟩ := List.mem_flatMap.mp member
    obtain ⟨-, rfl⟩ := List.mem_replicate.mp repeated
    exact truths x (List.mem_of_mem_take first)
  · exact truthful

theorem truths_zipSpread {ε δ : Type} (kind : Kind) (location : Option Location) (n : Nat)
    (test : ε → δ → Bool) (xs : List ε) (ys : List δ) (tag : Option (Dimensions α)) :
    Truths ⟨kind, location, .scalar (zipSpread n (fun x y => Scalar.truth (test x y)) xs ys), tag⟩ := by
  refine ⟨_, rfl, fun x member => ?_⟩
  obtain ⟨y, -, z, -, rfl⟩ := mem_zipWith member
  exact Scalar.truth_isTruth (test y z)

theorem compare_truths (comparison : Comparison) (v w : Value α) :
    Meets Truths (fun _ => True) (Value.compare comparison v w) := by
  refine .bind .any fun ⟨location, n⟩ _ => .bind .any fun tag _ => ?_
  split
  · exact .ok (truths_zipSpread .logical location n comparison.holds _ _ none)
  · exact .error trivial

theorem truthPair_truths (symbol : String) (f : Bool → Bool → Bool) (v w : Value α) :
    Meets Truths (fun _ => True) (truthPair symbol f v w) := by
  apply Meets.bind .any
  intro ⟨location, n⟩ _
  dsimp only
  split
  · exact .ok (truths_zipSpread .logical location n
      (fun x y => f (Scalar.isTrue x) (Scalar.isTrue y)) _ _ none)
  · exact .error trivial

theorem not_truths (v : Value α) : Meets Truths (fun _ => True) v.not := by
  unfold not
  split
  · exact .ok (truths_map .logical v.location (fun x => !Scalar.isTrue x) _ none)
  · exact .error trivial

theorem mem_choose {ε : Type} {n : Nat} {mask : List α} {xs ys : List ε} {x : ε}
    (member : x ∈ choose n mask xs ys) : x ∈ xs ∨ x ∈ ys := by
  obtain ⟨m, -, ⟨left, right⟩, paired, rfl⟩ := mem_zipWith member
  have both := List.of_mem_zip paired
  by_cases chosen : Scalar.isTrue m
  · left
    simpa only [chosen, if_true] using mem_spread both.1
  · right
    simpa only [chosen, Bool.false_eq_true, if_false] using mem_spread both.2

theorem select_truthful {condition : Value α} {kind : Kind}
    (legal : choiceResult? condition.kind v.kind w.kind = some kind) (left : v.Truthful)
    (right : w.Truthful) :
    Meets (fun u => (u.relabel kind).Truthful) (fun _ => True) (select condition v w) := by
  have kinds : kind = v.kind ∧ v.kind = w.kind := by
    unfold choiceResult? at legal
    split at legal
    · rename_i both
      cases legal
      simp only [Bool.and_eq_true, decide_eq_true_eq] at both
      exact ⟨rfl, both.2⟩
    · cases legal
  obtain ⟨rfl, same⟩ := kinds
  refine .bind .any fun branches _ => .bind .any fun ⟨location, n⟩ _ => .bind .any fun tag _ => ?_
  split
  · rename_i mask held
    split
    · rename_i data combined
      refine .ok fun logical => ?_
      obtain ⟨xs, leftHeld, leftTruths⟩ := left logical
      obtain ⟨ys, rightHeld, rightTruths⟩ := right (same ▸ logical)
      rw [leftHeld, rightHeld] at combined
      cases combined
      refine ⟨_, rfl, fun x member => ?_⟩
      rcases mem_choose member with here | here
      · exact leftTruths x here
      · exact rightTruths x here
    · exact .error trivial
  · exact .error trivial

end Value

def BinaryOp.isTest : BinaryOp → Bool
  | .less | .greater | .lessEqual | .greaterEqual | .equal | .notEqual | .and | .or => true
  | _ => false

theorem BinaryOp.rules_logical : ∀ rule ∈ rules, rule.result = .logical → rule.op.isTest = true := by
  decide

theorem BinaryOp.isTest_truths {op : BinaryOp} (test : op.isTest = true) (v w : Value α) :
    Meets Value.Truths (fun _ => True) (op.apply v w) := by
  cases op with
  | less => exact Value.compare_truths .less v w
  | greater => exact Value.compare_truths .greater v w
  | lessEqual => exact Value.compare_truths .lessEqual v w
  | greaterEqual => exact Value.compare_truths .greaterEqual v w
  | equal => exact Value.compare_truths .equal v w
  | notEqual => exact Value.compare_truths .notEqual v w
  | and => exact Value.truthPair_truths "&&" Bool.and v w
  | or => exact Value.truthPair_truths "||" Bool.or v w
  | add | sub | mul | div | remainder | inner | cross | doubleInner => cases test

theorem BinaryOp.apply_truthful {op : BinaryOp} {v w : Value α} {kind : Kind}
    (legal : op.result? v.kind w.kind = some kind) :
    Meets (fun u => (u.relabel kind).Truthful) (fun _ => True) (op.apply v w) := by
  by_cases logical : kind = .logical
  · have test := rules_logical _ (result?_mem legal) logical
    exact (isTest_truths test v w).weaken fun u truths _ => truths
  · exact Meets.any.weaken fun u _ => Value.truthful_of_kind logical

theorem UnaryOp.apply_truthful {op : UnaryOp} {v : Value α} {kind : Kind}
    (legal : op.result? v.kind = some kind) :
    Meets (fun w => (w.relabel kind).Truthful) (fun _ => True) (op.apply v) := by
  cases op with
  | negate =>
    unfold result? at legal
    dsimp only at legal
    split at legal
    · rename_i numeric
      cases legal
      refine .ok (Value.truthful_of_kind fun logical => ?_)
      have same : v.kind = .logical := logical
      rw [same] at numeric
      cases numeric
    · cases legal
  | not => exact v.not_truths.weaken fun w truths _ => truths

theorem TensorFunction.resultKind_numeric (function : TensorFunction) {kind : Kind}
    (matrix : kind.isTensorLike = true) : function.resultKind kind ≠ .logical := by
  cases kind with
  | logical | scalar | vector => cases matrix
  | tensor | symmTensor | sphericalTensor => cases function <;> decide

namespace Value

variable {v w : Value α}

omit [Scalar α] in
theorem component?_kind {name : String} (found : v.component? name = some w) : w.kind = .scalar := by
  unfold component? at found
  split at found <;> cases found <;> rfl

theorem combined_kind (operation : String)
    (f : Nat → {ε : Type} → [Element α ε] → List ε → List ε → List ε) (v w : Value α) (kind : Kind) :
    OfKind v.kind (do
      let (location, n) ← domain v w
      let tag ← sumTag operation v.dimensions w.dimensions
      match Data.lift₂ (f n) v.data w.data with
      | some data => .ok ⟨v.kind, location, data, tag⟩
      | none => .error (.unsupported operation kind)) := by
  refine .bind .any fun ⟨location, n⟩ _ => .bind .any fun tag _ => ?_
  split
  · exact .ok rfl
  · exact .error trivial

theorem add_kind (v w : Value α) : OfKind v.kind (v.add w) :=
  combined_kind "+" (fun n => zipSpread n Element.add) v w w.kind

theorem sub_kind (v w : Value α) : OfKind v.kind (v.sub w) :=
  combined_kind "-" (fun n => zipSpread n Element.sub) v w w.kind

theorem minimum_kind (v w : Value α) : OfKind v.kind (v.minimum w) :=
  combined_kind "min" (fun n => zipSpread n Element.lower) v w w.kind

theorem maximum_kind (v w : Value α) : OfKind v.kind (v.maximum w) :=
  combined_kind "max" (fun n => zipSpread n Element.upper) v w w.kind

theorem mul_numeric (left : v.kind ≠ .logical) (right : w.kind ≠ .logical) : Numeric (v.mul w) := by
  apply Meets.bind .any
  intro ⟨location, n⟩ _
  dsimp only
  split
  · exact .ok right
  · exact .ok left
  · exact .error trivial

theorem div_kind (v w : Value α) : OfKind v.kind (v.div w) := by
  apply Meets.bind .any
  intro ⟨location, n⟩ _
  dsimp only
  split
  · exact .ok rfl
  · exact .error trivial

theorem pow_kind (v w : Value α) : OfKind .scalar (v.pow w) := by
  apply Meets.bind .any
  intro ⟨location, n⟩ _
  dsimp only
  split
  · exact .ok rfl
  · exact .error trivial

theorem applyScalar_kind (function : ScalarFunction) (v : Value α) :
    OfKind .scalar (v.applyScalar function) := by
  unfold applyScalar
  split
  · exact .ok rfl
  · exact .error trivial

theorem square_numeric (v : Value α) : Numeric v.square := by
  unfold square
  dsimp only
  split
  · exact .ok Kind.scalar_ne_logical
  · exact .ok Kind.symmTensor_ne_logical
  · exact .error trivial

theorem reduce_kind (reduction : Reduction) (v : Value α) : OfKind v.kind (v.reduce reduction) := by
  unfold reduce
  split
  · exact .error trivial
  · exact .ok rfl

theorem extremumPosition_kind (largest : Bool) (v : Value α) (positions : List (Vec3 α)) :
    OfKind .vector (v.extremumPosition largest positions) := by
  unfold extremumPosition
  dsimp only
  split
  · exact .error trivial
  · split
    · exact .error trivial
    · split
      · exact .error trivial
      · exact .ok rfl

theorem applyTensor_numeric (function : TensorFunction) (matrix : v.kind.isTensorLike = true) :
    Numeric (v.applyTensor function) := by
  unfold applyTensor
  split
  · exact .map (Meets.any.weaken fun data _ => function.resultKind_numeric matrix)
  · exact .error trivial

theorem build_numeric (kind : Kind) (components : List (Value α)) : Numeric (build kind components) := by
  unfold build
  split
  · exact .error trivial
  · dsimp only
    split
    · exact .error trivial
    · split
      · exact .error trivial
      · apply Meets.bind .any
        intro gathered _
        split
        · rename_i data assembled
          refine .ok fun logical => ?_
          have same : kind = .logical := logical
          subst same
          cases assembled
        · exact .error trivial

end Value

end MeshLang
