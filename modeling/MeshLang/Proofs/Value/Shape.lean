import MeshLang.Calculus
import MeshLang.Grammar.Operator
import MeshLang.Proofs.Evaluation.Outcome
import MeshLang.Repository.Mapping
import MeshLang.Value.Function
import MeshLang.Value.Logic

namespace MeshLang

inductive Shape where
  | number
  | vector
  | matrix
deriving DecidableEq, Repr

def Kind.shape : Kind → Shape
  | .logical | .scalar => .number
  | .vector => .vector
  | .tensor | .symmTensor | .sphericalTensor => .matrix

variable {α : Type}

namespace Data

def shape : Data α → Shape
  | .scalar _ => .number
  | .vector _ => .vector
  | .tensor _ => .matrix

theorem stores_iff (data : Data α) (kind : Kind) : data.stores kind = true ↔ data.shape = kind.shape := by
  cases data <;> cases kind <;> simp [stores, shape, Kind.shape, Kind.isTensorLike]

theorem of_number {data : Data α} (shape : data.shape = .number) : ∃ values, data = .scalar values := by
  cases data with
  | scalar values => exact ⟨values, rfl⟩
  | vector _ | tensor _ => cases shape

theorem of_vector {data : Data α} (shape : data.shape = .vector) : ∃ values, data = .vector values := by
  cases data with
  | vector values => exact ⟨values, rfl⟩
  | scalar _ | tensor _ => cases shape

theorem of_matrix {data : Data α} (shape : data.shape = .matrix) : ∃ values, data = .tensor values := by
  cases data with
  | tensor values => exact ⟨values, rfl⟩
  | scalar _ | vector _ => cases shape

theorem replicate_shape (n : Nat) (data : Data α) : (data.replicate n).shape = data.shape := by
  cases data <;> rfl

theorem replicate_size (n : Nat) {data : Data α} (single : data.size = 1) :
    (data.replicate n).size = n := by
  have repeated {ε : Type} (values : List ε) (one : values.length = 1) :
      ((values.take 1).flatMap (List.replicate n)).length = n := by
    obtain ⟨x, rfl⟩ := List.length_eq_one_iff.mp one
    simp
  cases data with
  | scalar values => exact repeated values single
  | vector values => exact repeated values single
  | tensor values => exact repeated values single

variable [Scalar α]

theorem gather_shape (places : List Nat) (data : Data α) : (data.gather places).shape = data.shape := by
  cases data <;> rfl

theorem gather_size (places : List Nat) (data : Data α) :
    (data.gather places).size = places.length := by
  cases data <;> exact List.length_map _

section Lift

variable {f : {ε : Type} → [Element α ε] → List ε → List ε}

theorem lift_shape (data : Data α) : (data.lift f).shape = data.shape := by cases data <;> rfl

theorem lift_size {data : Data α} {n : Nat}
    (length : ∀ {ε : Type} [Element α ε] (values : List ε), values.length = data.size →
      (f values).length = n) : (data.lift f).size = n := by
  cases data with
  | scalar values => exact length values rfl
  | vector values => exact length values rfl
  | tensor values => exact length values rfl

end Lift

theorem lift₂_shape {f : {ε : Type} → [Element α ε] → List ε → List ε → List ε}
    {left right data : Data α} (combined : lift₂ f left right = some data) :
    data.shape = left.shape := by
  cases left <;> cases right <;> cases combined <;> rfl

theorem lift₂_of_shape {left right : Data α}
    (f : {ε : Type} → [Element α ε] → List ε → List ε → List ε) (same : left.shape = right.shape) :
    ∃ data, lift₂ f left right = some data := by
  cases left <;> cases right <;> first | exact ⟨_, rfl⟩ | cases same

theorem lift₂_size {f : {ε : Type} → [Element α ε] → List ε → List ε → List ε}
    {left right data : Data α} {n : Nat} (combined : lift₂ f left right = some data)
    (length : ∀ {ε : Type} [Element α ε] (xs ys : List ε), xs.length = left.size →
      ys.length = right.size → (f xs ys).length = n) : data.size = n := by
  cases left <;> cases right <;> cases combined
  · exact length _ _ rfl rfl
  · exact length _ _ rfl rfl
  · exact length _ _ rfl rfl

end Data

theorem foldl_max_le_iff {ns : List Nat} {start n : Nat} :
    ns.foldl max start ≤ n ↔ start ≤ n ∧ ∀ m ∈ ns, m ≤ n := by
  induction ns generalizing start with
  | nil => simp
  | cons first rest ih => rw [List.foldl_cons, ih, Nat.max_le, and_assoc, List.forall_mem_cons]

section Spreading

variable {ε δ γ : Type}

/-- A number of elements that can be combined with `n` others. -/
def Spreads (n size : Nat) : Prop := size = n ∨ size = 1

theorem spread_length {n : Nat} {xs : List ε} (spreads : Spreads n xs.length) :
    (spread n xs).length = n := by
  unfold spread
  split
  · exact List.length_replicate
  · rename_i several
    rcases spreads with all | one
    · exact all
    · obtain ⟨x, rfl⟩ := List.length_eq_one_iff.mp one
      exact absurd rfl (several x)

theorem spread_of_length {n : Nat} {xs : List ε} (all : xs.length = n) : spread n xs = xs := by
  subst all
  unfold spread
  split <;> rfl

theorem spread_spread (n : Nat) (xs : List ε) : spread n (spread n xs) = spread n xs := by
  by_cases one : xs.length = 1
  · exact spread_of_length (spread_length (.inr one))
  · have kept : spread n xs = xs := by
      unfold spread
      split
      · exact absurd rfl one
      · rfl
    rw [kept, kept]

theorem zipSpread_of_length {n : Nat} (f : ε → δ → γ) {xs : List ε} {ys : List δ}
    (left : xs.length = n) (right : ys.length = n) : zipSpread n f xs ys = List.zipWith f xs ys := by
  rw [zipSpread, spread_of_length left, spread_of_length right]

theorem zipSpread_length {n : Nat} {f : ε → δ → γ} {xs : List ε} {ys : List δ}
    (left : Spreads n xs.length) (right : Spreads n ys.length) :
    (zipSpread n f xs ys).length = n := by
  unfold zipSpread
  rw [List.length_zipWith, spread_length left, spread_length right, Nat.min_self]

theorem map_getD_range {xs : List ε} {n : Nat} (all : xs.length = n) (fallback : ε) :
    (List.range n).map (xs.getD · fallback) = xs := by
  subst all
  apply List.ext_getElem (by simp)
  intro index inside below
  rw [List.getElem_map, List.getElem_range, List.getD_eq_getElem?_getD,
    List.getElem?_eq_getElem below, Option.getD_some]

end Spreading

def Mesh.count (mesh : Mesh α) : Option Location → Nat
  | none => 1
  | some location => mesh.size location

/-- The elements of a value are those of its kind and its location. -/
structure Value.Fits (v : Value α) (mesh : Mesh α) : Prop where
  stored : v.data.stores v.kind = true
  sized : v.size = mesh.count v.location

namespace Value.Fits

variable {v w : Value α} {mesh : Mesh α}

theorem shape (fits : v.Fits mesh) : v.data.shape = v.kind.shape := (v.data.stores_iff v.kind).mp fits.stored

theorem of_shape (shape : v.data.shape = v.kind.shape) (sized : v.size = mesh.count v.location) :
    v.Fits mesh :=
  ⟨(v.data.stores_iff v.kind).mpr shape, sized⟩

theorem withDimensions (fits : v.Fits mesh) (tag : Option (Dimensions α)) :
    (v.withDimensions tag).Fits mesh :=
  ⟨fits.stored, fits.sized⟩

theorem untagged (fits : v.Fits mesh) : v.untagged.Fits mesh := fits.withDimensions none

theorem scalars_length (fits : v.Fits mesh) (number : v.kind.shape = .number) :
    (v.scalars?.getD []).length = mesh.count v.location := by
  have shape := fits.shape
  have sized := fits.sized
  unfold Value.size at sized
  unfold Value.scalars?
  cases held : v.data with
  | scalar values => rw [held] at sized; exact sized
  | vector values | tensor values => rw [held, number] at shape; cases shape

theorem broadcastTo (fits : v.Fits mesh) (location : Location) :
    (v.broadcastTo location (mesh.size location)).Fits mesh := by
  unfold Value.broadcastTo Value.isConstant
  cases found : v.location with
  | none =>
    have single : v.data.size = 1 := by
      simpa only [Value.size, Mesh.count, found] using fits.sized
    exact .of_shape ((Data.replicate_shape _ _).trans fits.shape) (Data.replicate_size _ single)
  | some place => exact fits

end Value.Fits

end MeshLang
