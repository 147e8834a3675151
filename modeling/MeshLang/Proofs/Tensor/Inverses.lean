import MeshLang.Proofs.Scalar.Ordered
import MeshLang.Proofs.Tensor.Matrices
import MeshLang.Proofs.Tensor.Space
import MeshLang.Value.Tensor

namespace MeshLang

variable {α : Type} [ExactScalar α]

namespace Mat3

def Invertible (m : Mat3 α) : Prop :=
  ∃ n, m.multiply n = identity ∧ n.multiply m = identity

variable {m n : Mat3 α}

theorem identity_eq : (identity : Mat3 α) = ⟨1, 0, 0, 0, 1, 0, 0, 0, 1⟩ := by
  simp only [identity, ExactScalar.one_eq, ExactScalar.zero_eq]

theorem determinant_identity : (identity : Mat3 α).determinant = 1 := by
  simp [identity_eq, determinant]

theorem determinant_multiply (m n : Mat3 α) :
    (m.multiply n).determinant = m.determinant * n.determinant := by
  simp only [determinant, multiply, Vec3.dot, row, column]
  ring

theorem multiply_cofactors (m : Mat3 α) :
    m.multiply m.cofactor.transpose = isotropic m.determinant := by
  rw [isotropic_eq]
  ext <;> simp only [multiply, cofactor, transpose, determinant, Vec3.dot, row, column] <;> ring

theorem cofactors_multiply (m : Mat3 α) :
    m.cofactor.transpose.multiply m = isotropic m.determinant := by
  rw [isotropic_eq]
  ext <;> simp only [multiply, cofactor, transpose, determinant, Vec3.dot, row, column] <;> ring

theorem multiply_divide (m n : Mat3 α) (divisor : α) :
    m.multiply (n.divide divisor) = (m.multiply n).divide divisor := by
  ext <;> simp only [multiply, divide, map, Vec3.dot, row, column] <;> ring

theorem divide_multiply (m n : Mat3 α) (divisor : α) :
    (m.divide divisor).multiply n = (m.multiply n).divide divisor := by
  ext <;> simp only [multiply, divide, map, Vec3.dot, row, column] <;> ring

theorem isotropic_divide {factor : α} (solid : factor ≠ 0) :
    (isotropic factor).divide factor = identity := by
  simp [isotropic_eq, identity_eq, divide, map, solid]

theorem apply_multiply (m n : Mat3 α) (v : Vec3 α) : (m.multiply n).apply v = m.apply (n.apply v) := by
  ext <;> simp only [apply, multiply, Vec3.dot, row, column] <;> ring

theorem identity_apply (v : Vec3 α) : (identity : Mat3 α).apply v = v := by
  simp [identity_eq, apply, Vec3.dot, row]

theorem Invertible.determinant_ne_zero (invertible : m.Invertible) : m.determinant ≠ 0 := by
  obtain ⟨n, product, -⟩ := invertible
  have one : m.determinant * n.determinant = 1 := by
    rw [← determinant_multiply, product, determinant_identity]
  exact left_ne_zero_of_mul_eq_one one

section Ordered

variable [LinearOrder α] [OrderedScalar α]

theorem inverse?_eq_none_iff : m.inverse? = none ↔ m.determinant = 0 := by
  unfold inverse?
  simp only [ExactScalar.zero_eq, ite_eq_left_iff, reduceCtorEq, imp_false, not_not,
    OrderedScalar.eq_iff]

theorem inverse?_eq_some (solid : m.determinant ≠ 0) :
    m.inverse? = some (m.cofactor.transpose.divide m.determinant) := by
  have different : ¬ Scalar.eq m.determinant Scalar.zero = true := by
    rwa [OrderedScalar.eq_iff, ExactScalar.zero_eq]
  refine (if_neg different).trans (congrArg some ?_)
  ext <;> simp only [cofactor, transpose, divide, map] <;> ring

theorem inverse?_inverts (inverted : m.inverse? = some n) :
    m.multiply n = identity ∧ n.multiply m = identity := by
  have solid : m.determinant ≠ 0 := by
    rw [Ne, ← inverse?_eq_none_iff, inverted]
    exact Option.some_ne_none n
  rw [inverse?_eq_some solid, Option.some.injEq] at inverted
  subst inverted
  rw [multiply_divide, divide_multiply, multiply_cofactors, cofactors_multiply,
    isotropic_divide solid]
  exact ⟨rfl, rfl⟩

theorem invertible_iff : m.Invertible ↔ m.determinant ≠ 0 :=
  ⟨Invertible.determinant_ne_zero, fun solid => ⟨_, inverse?_inverts (inverse?_eq_some solid)⟩⟩

theorem inverse?_eq_none : m.inverse? = none ↔ ¬ m.Invertible := by
  rw [inverse?_eq_none_iff, invertible_iff, not_not]

/-- An inverse undoes what the matrix does to vectors. -/
theorem inverse?_apply (inverted : m.inverse? = some n) (v : Vec3 α) : n.apply (m.apply v) = v := by
  rw [← apply_multiply, (inverse?_inverts inverted).2, identity_apply]

end Ordered

end Mat3

/-- The index of the first matrix that has no inverse. -/
structure FirstSingular (ms : List (Mat3 α)) (index : Nat) : Prop where
  here : ∃ m, ms[index]? = some m ∧ ¬ m.Invertible
  before : ∀ earlier < index, ∀ m, ms[earlier]? = some m → m.Invertible

theorem FirstSingular.unique {ms : List (Mat3 α)} {i j : Nat} (first : FirstSingular ms i)
    (other : FirstSingular ms j) : i = j := by
  obtain ⟨m, atFirst, flat⟩ := first.here
  obtain ⟨n, atOther, flat'⟩ := other.here
  rcases lt_trichotomy i j with less | same | less
  · exact absurd (other.before i less m atFirst) flat
  · exact same
  · exact absurd (first.before j less n atOther) flat'

variable [LinearOrder α] [OrderedScalar α]

theorem inverses_cases (operation : String) (index : Nat) (ms : List (Mat3 α)) :
    (∃ ns, inverses operation index ms = .ok ns ∧
      List.Forall₂ (fun m n => m.inverse? = some n) ms ns) ∨
    ∃ k, FirstSingular ms k ∧ inverses operation index ms = .error (.singular operation (index + k)) := by
  induction ms generalizing index with
  | nil => exact .inl ⟨[], rfl, .nil⟩
  | cons m rest ih =>
    unfold inverses
    cases inverted : m.inverse? with
    | none =>
      refine .inr ⟨0, ⟨⟨m, rfl, Mat3.inverse?_eq_none.mp inverted⟩, fun _ below => ?_⟩, rfl⟩
      exact absurd below (Nat.not_lt_zero _)
    | some n =>
      have here : m.Invertible := ⟨n, Mat3.inverse?_inverts inverted⟩
      dsimp only
      rcases ih (index + 1) with ⟨ns, made, all⟩ | ⟨k, ⟨singular, before⟩, failed⟩
      · exact .inl ⟨n :: ns, by rw [made]; rfl, .cons inverted all⟩
      · refine .inr ⟨k + 1, ⟨singular, fun earlier below other found => ?_⟩, ?_⟩
        · cases earlier with
          | zero => cases found; exact here
          | succ earlier => exact before earlier (Nat.lt_of_succ_lt_succ below) other found
        · rw [failed, Nat.add_assoc, Nat.add_comm 1 k]
          rfl

variable {ms ns : List (Mat3 α)}

theorem inverted_invertible (inverted : List.Forall₂ (fun m n => m.inverse? = some n) ms ns) :
    ∀ m ∈ ms, m.Invertible := by
  induction inverted with
  | nil => exact fun _ member => absurd member List.not_mem_nil
  | cons here _ ih => exact List.forall_mem_cons.mpr ⟨⟨_, Mat3.inverse?_inverts here⟩, ih⟩

theorem inverted_apply (inverted : List.Forall₂ (fun m n => m.inverse? = some n) ms ns) (v : Vec3 α) :
    List.zipWith Mat3.apply ns (ms.map fun m => m.apply v) = List.replicate ms.length v := by
  induction inverted with
  | nil => rfl
  | cons here _ ih =>
    rw [List.map_cons, List.zipWith_cons_cons, ih, Mat3.inverse?_apply here]
    rfl

end MeshLang
