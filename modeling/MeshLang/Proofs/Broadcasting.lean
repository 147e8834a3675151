import Mathlib.Data.List.Forall2
import MeshLang.Proofs.Value.Expansion

namespace MeshLang

variable {α : Type}

/-- An elementwise operation with its operands: an operator, the smaller or larger of two values, or
a choice. -/
inductive Application (α : Type) where
  | binary (op : BinaryOp) (v w : Value α)
  | extremum (largest : Bool) (v w : Value α)
  | choice (condition v w : Value α)

def Value.Stretches (location : Location) (n : Nat) (v w : Value α) : Prop :=
  w = v ∨ w = v.broadcastTo location n

namespace Value.Stretches

variable {location : Location} {n : Nat} {v w : Value α}

theorem broadcastTo_eq (stretches : v.Stretches location n w) :
    w.broadcastTo location n = v.broadcastTo location n := by
  rcases stretches with rfl | rfl
  · rfl
  · exact broadcastTo_broadcastTo v location n

theorem liesAt [Scalar α] (stretches : v.Stretches location n w) (lies : v.LiesAt location n) :
    w.LiesAt location n := by
  rcases stretches with rfl | rfl
  · exact lies
  · exact broadcastTo_eq_expand lies ▸ expand_liesAt lies

theorem isConstant (stretches : v.Stretches location n w) (located : v.isConstant = false) :
    w.isConstant = false := by
  rcases stretches with rfl | rfl
  · exact located
  · exact broadcastTo_isConstant v location n

end Value.Stretches

namespace Application

def operands : Application α → List (Value α)
  | binary _ v w | extremum _ v w => [v, w]
  | choice condition v w => [condition, v, w]

def outcome [Scalar α] : Application α → Except (FieldError α) (Value α)
  | binary op v w => op.apply v w
  | extremum largest v w => if largest then v.maximum w else v.minimum w
  | choice condition v w => Value.select condition v w

def map (f : Value α → Value α) : Application α → Application α
  | binary op v w => binary op (f v) (f w)
  | extremum largest v w => extremum largest (f v) (f w)
  | choice condition v w => choice (f condition) (f v) (f w)

def place (application : Application α) : Option Location :=
  application.operands.foldr (fun v place => v.location.or place) none

def Located (application : Application α) : Prop :=
  ∃ v ∈ application.operands, v.isConstant = false

/-- All operands are constants, or lie at a location with all elements there. -/
def LiesAt (location : Location) (n : Nat) (application : Application α) : Prop :=
  ∀ v ∈ application.operands, v.LiesAt location n

/-- The same operation with some of its constants expanded over a location. -/
inductive Expands (location : Location) (n : Nat) : Application α → Application α → Prop
  | binary {op : BinaryOp} {v v' w w' : Value α} : v.Stretches location n v' →
      w.Stretches location n w' → Expands location n (binary op v w) (binary op v' w')
  | extremum {largest : Bool} {v v' w w' : Value α} : v.Stretches location n v' →
      w.Stretches location n w' → Expands location n (extremum largest v w) (extremum largest v' w')
  | choice {condition condition' v v' w w' : Value α} : condition.Stretches location n condition' →
      v.Stretches location n v' → w.Stretches location n w' →
      Expands location n (choice condition v w) (choice condition' v' w')

variable [Scalar α]

/-- Constants and their expansions can stand for each other. -/
structure Broadcasts (application : Application α) : Prop where
  located : ∀ location n other, application.LiesAt location n →
    application.Expands location n other → application.Located →
      other.outcome = application.outcome
  becomesLocated : ∀ location n other, application.LiesAt location n →
    application.Expands location n other → ¬application.Located → other.Located →
      other.outcome = application.outcome.map (·.broadcastTo location n)
  constant : (∀ v ∈ application.operands, v.isConstant = true ∧ v.size = 1) →
    ∀ u, application.outcome = .ok u → u.isConstant = true ∧ u.size = 1
  sizes : ∀ v ∈ application.operands, ∀ w ∈ application.operands, v.isConstant = false →
    w.isConstant = false → v.size ≠ w.size →
      ∃ left right, left ≠ right ∧ application.outcome = .error (.sizeMismatch left right)

section Expansions

variable {application other : Application α} {location : Location} {n : Nat}

omit [Scalar α] in
theorem Expands.map_eq (expands : application.Expands location n other) :
    other.map (·.broadcastTo location n) = application.map (·.broadcastTo location n) := by
  cases expands with
  | binary left right => simp only [map, left.broadcastTo_eq, right.broadcastTo_eq]
  | extremum left right => simp only [map, left.broadcastTo_eq, right.broadcastTo_eq]
  | choice test left right =>
    simp only [map, test.broadcastTo_eq, left.broadcastTo_eq, right.broadcastTo_eq]

omit [Scalar α] in
theorem Expands.operands (expands : application.Expands location n other) :
    List.Forall₂ (Value.Stretches location n) application.operands other.operands := by
  cases expands with
  | binary left right => exact .cons left (.cons right .nil)
  | extremum left right => exact .cons left (.cons right .nil)
  | choice test left right => exact .cons test (.cons left (.cons right .nil))

theorem Expands.liesAt (expands : application.Expands location n other)
    (lies : application.LiesAt location n) : other.LiesAt location n := by
  have pairs := expands.operands
  unfold LiesAt at lies ⊢
  generalize application.operands = vs, other.operands = ws at pairs lies ⊢
  induction pairs with
  | nil => exact lies
  | cons first rest ih =>
    obtain ⟨here, others⟩ := List.forall_mem_cons.mp lies
    exact List.forall_mem_cons.mpr ⟨first.liesAt here, ih others⟩

omit [Scalar α] in
theorem Expands.located (expands : application.Expands location n other)
    (located : application.Located) : other.Located := by
  have pairs := expands.operands
  unfold Located at located ⊢
  generalize application.operands = vs, other.operands = ws at pairs located ⊢
  induction pairs with
  | nil => exact located
  | cons first rest ih =>
    simp only [List.exists_mem_cons_iff] at located ⊢
    exact located.imp first.isConstant ih

end Expansions

section Places

variable {application : Application α} {location : Location} {n : Nat}

omit [Scalar α] in
theorem place_of_located (lies : application.LiesAt location n) (located : application.Located) :
    application.place = some location := by
  unfold LiesAt at lies
  unfold Located at located
  unfold place
  generalize application.operands = operands at lies located ⊢
  induction operands with
  | nil => obtain ⟨v, member, -⟩ := located; cases member
  | cons v rest ih =>
    obtain ⟨here, others⟩ := List.forall_mem_cons.mp lies
    rw [List.foldr_cons]
    unfold Value.LiesAt at here
    cases found : v.location with
    | some place =>
      rw [found] at here
      rw [Option.some_or, here.1]
    | none =>
      rw [Option.none_or]
      simp only [List.exists_mem_cons_iff, Value.isConstant, found, Option.isNone_none,
        Bool.true_eq_false, false_or] at located
      exact ih others located

omit [Scalar α] in
theorem place_of_constants (constants : ¬application.Located) : application.place = none := by
  unfold Located at constants
  unfold place
  generalize application.operands = operands at constants ⊢
  induction operands with
  | nil => rfl
  | cons v rest ih =>
    rw [List.exists_mem_cons_iff, not_or] at constants
    have nowhere : v.location = none := by simpa [Value.isConstant] using constants.1
    rw [List.foldr_cons, nowhere, Option.none_or]
    exact ih constants.2

end Places

theorem outcome_widened {application : Application α} {location : Location} {n : Nat}
    (lies : application.LiesAt location n) :
    Value.Widened location n application.place
      (application.map (·.broadcastTo location n)).outcome application.outcome := by
  cases application with
  | binary op v w =>
    have left : v.LiesAt location n := lies v (by simp [operands])
    have right : w.LiesAt location n := lies w (by simp [operands])
    have widened := op.apply_elementwise left right
    simpa only [map, place, operands, outcome, List.foldr, Option.or_none,
      Value.broadcastTo_eq_expand left, Value.broadcastTo_eq_expand right] using widened
  | extremum largest v w =>
    have left : v.LiesAt location n := lies v (by simp [operands])
    have right : w.LiesAt location n := lies w (by simp [operands])
    simp only [map, place, operands, outcome, List.foldr, Option.or_none,
      Value.broadcastTo_eq_expand left, Value.broadcastTo_eq_expand right]
    cases largest with
    | true => exact Value.maximum_elementwise left right
    | false => exact Value.minimum_elementwise left right
  | choice condition v w =>
    have test : condition.LiesAt location n := lies condition (by simp [operands])
    have left : v.LiesAt location n := lies v (by simp [operands])
    have right : w.LiesAt location n := lies w (by simp [operands])
    have widened := Value.select_widened test left right
    simpa only [map, place, operands, outcome, List.foldr, Option.or_none,
      Value.broadcastTo_eq_expand test, Value.broadcastTo_eq_expand left,
      Value.broadcastTo_eq_expand right] using widened

section Sizes

variable {condition v w : Value α}

omit [Scalar α] in
theorem domain_sizes (v w : Value α) :
    (∃ left right, left ≠ right ∧ Value.domain v w = .error (.sizeMismatch left right)) ∨
    ∃ shared, Value.domain v w = .ok shared ∧ ∀ u ∈ [v, w], u.isConstant = false →
      shared.1.isSome = true ∧ u.size = shared.2 := by
  unfold Value.domain Value.isConstant
  cases first : v.location with
  | none =>
    cases second : w.location with
    | none => exact .inr ⟨_, rfl, by simp [first, second]⟩
    | some location => exact .inr ⟨_, rfl, by simp [first]⟩
  | some location =>
    cases second : w.location with
    | none => exact .inr ⟨_, rfl, by simp [second]⟩
    | some other =>
      by_cases same : v.size = w.size
      · exact .inr ⟨_, if_pos same, by simp [same]⟩
      · exact .inl ⟨_, _, same, if_neg same⟩

theorem apply_refuses (op : BinaryOp) {error : FieldError α}
    (refused : Value.domain v w = .error error) : op.apply v w = .error error := by
  have bind (rest : Option Location × Nat → Except (FieldError α) (Value α)) :
      (Value.domain v w >>= rest) = .error error := by
    rw [refused]
    rfl
  cases op <;> exact bind _

theorem extremum_refuses (largest : Bool) {error : FieldError α}
    (refused : Value.domain v w = .error error) :
    (extremum largest v w).outcome = .error error := by
  cases largest with
  | true =>
    show v.maximum w = _
    unfold Value.maximum
    rw [refused]
    rfl
  | false =>
    show v.minimum w = _
    unfold Value.minimum
    rw [refused]
    rfl

theorem choice_refuses {shared : Option Location × Nat} (found : Value.domain v w = .ok shared)
    (located : condition.isConstant = false) (branches : shared.1.isSome = true)
    (differ : condition.size ≠ shared.2) :
    Value.select condition v w = .error (.sizeMismatch condition.size shared.2) := by
  obtain ⟨location, place⟩ : ∃ location, condition.location = some location := by
    rw [← Option.isSome_iff_exists, ← Option.isNone_eq_false_iff]
    exact located
  have refused : Value.choiceDomain condition shared =
      .error (.sizeMismatch condition.size shared.2) := by
    unfold Value.choiceDomain
    simp [place, branches, differ]
  unfold Value.select
  rw [found]
  show (Value.choiceDomain condition shared >>= _) = _
  rw [refused]
  rfl

theorem refuses_sizes {application : Application α} {a b : Value α}
    (first : a ∈ application.operands) (second : b ∈ application.operands)
    (left : a.isConstant = false) (right : b.isConstant = false) (differ : a.size ≠ b.size) :
    ∃ left right, left ≠ right ∧ application.outcome = .error (.sizeMismatch left right) := by
  cases application with
  | binary op v w =>
    rcases domain_sizes v w with ⟨m, n, apart, refused⟩ | ⟨shared, -, sized⟩
    · exact ⟨m, n, apart, apply_refuses op refused⟩
    · exact absurd ((sized a first left).2.trans (sized b second right).2.symm) differ
  | extremum largest v w =>
    rcases domain_sizes v w with ⟨m, n, apart, refused⟩ | ⟨shared, -, sized⟩
    · exact ⟨m, n, apart, extremum_refuses largest refused⟩
    · exact absurd ((sized a first left).2.trans (sized b second right).2.symm) differ
  | choice condition v w =>
    rcases domain_sizes v w with ⟨m, n, apart, refused⟩ | ⟨shared, found, sized⟩
    · refine ⟨m, n, apart, ?_⟩
      show Value.select condition v w = _
      unfold Value.select
      rw [refused]
      rfl
    · -- the branches agree, so one of the two operands is the condition
      rcases List.mem_cons.mp first with rfl | inBranches
      · rcases List.mem_cons.mp second with rfl | branch
        · exact absurd rfl differ
        · obtain ⟨branches, size⟩ := sized b branch right
          exact ⟨_, _, size ▸ differ, choice_refuses found left branches (size ▸ differ)⟩
      · rcases List.mem_cons.mp second with rfl | branch
        · obtain ⟨branches, size⟩ := sized a inBranches left
          exact ⟨_, _, size ▸ differ.symm, choice_refuses found right branches (size ▸ differ.symm)⟩
        · exact absurd ((sized a inBranches left).2.trans (sized b branch right).2.symm) differ

end Sizes

/-- Constants broadcast in every elementwise operation. -/
theorem broadcasts (application : Application α) : application.Broadcasts where
  located location n other lies expands located := by
    have here := outcome_widened lies
    have there := outcome_widened (expands.liesAt lies)
    rw [place_of_located lies located] at here
    rw [place_of_located (expands.liesAt lies) (expands.located located), expands.map_eq] at there
    exact there.eq_of_located.symm.trans here.eq_of_located
  becomesLocated location n other lies expands _ located := by
    have there := outcome_widened (expands.liesAt lies)
    rw [place_of_located (expands.liesAt lies) located, expands.map_eq] at there
    exact there.eq_of_located.symm.trans (outcome_widened lies).eq_map
  constant constants u made := by
    have lies : application.LiesAt .volume 1 := fun v member =>
      Value.liesAt_of_constant (constants v member).1 (constants v member).2
    have nowhere : ¬application.Located := by
      rintro ⟨v, member, located⟩
      rw [(constants v member).1] at located
      cases located
    have widened := outcome_widened lies
    rw [place_of_constants nowhere, made] at widened
    exact widened.constant_of_ok
  sizes v first w second left right differ := refuses_sizes first second left right differ

end Application

end MeshLang
