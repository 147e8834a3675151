import Mathlib.Tactic.Ring
import MeshLang.Linear
import MeshLang.Proofs.Scalar.Exact

namespace MeshLang

variable {α : Type}

namespace Mat3

def IsSymmetric (m : Mat3 α) : Prop := m.transpose = m

theorem transpose_map (f : α → α) (m : Mat3 α) : (m.map f).transpose = m.transpose.map f := rfl

theorem transpose_zipWith (f : α → α → α) (m n : Mat3 α) :
    (zipWith f m n).transpose = zipWith f m.transpose n.transpose := rfl

theorem isSymmetric_iff {m : Mat3 α} :
    m.IsSymmetric ↔ m.yx = m.xy ∧ m.zx = m.xz ∧ m.zy = m.yz := by
  obtain ⟨xx, xy, xz, yx, yy, yz, zx, zy, zz⟩ := m
  constructor
  · intro same
    injection same
    exact ⟨‹_›, ‹_›, ‹_›⟩
  · intro same
    dsimp only at same
    obtain ⟨rfl, rfl, rfl⟩ := same
    rfl

namespace IsSymmetric

variable {m n : Mat3 α}

theorem map (symmetric : m.IsSymmetric) (f : α → α) : (m.map f).IsSymmetric := by
  rw [IsSymmetric, transpose_map, symmetric]

theorem zipWith (left : m.IsSymmetric) (right : n.IsSymmetric) (f : α → α → α) :
    (Mat3.zipWith f m n).IsSymmetric := by
  rw [IsSymmetric, transpose_zipWith, left, right]

theorem transpose (symmetric : m.IsSymmetric) : m.transpose.IsSymmetric := by
  rw [IsSymmetric, symmetric, symmetric]

end IsSymmetric

theorem symmetricFromUpper_isSymmetric (m : Mat3 α) : m.symmetricFromUpper.IsSymmetric := rfl

variable [ExactScalar α]

def IsIsotropic (m : Mat3 α) : Prop := ∃ factor, m = isotropic factor

theorem isotropic_eq (a : α) : isotropic a = ⟨a, 0, 0, 0, a, 0, 0, 0, a⟩ := by
  simp [isotropic, identity, scale, map]

theorem IsIsotropic.isSymmetric {m : Mat3 α} (spherical : m.IsIsotropic) : m.IsSymmetric := by
  obtain ⟨a, rfl⟩ := spherical
  rw [isotropic_eq]
  rfl

namespace IsIsotropic

variable {m n : Mat3 α}

theorem map (spherical : m.IsIsotropic) {f : α → α} (zero : f 0 = 0) : (m.map f).IsIsotropic := by
  obtain ⟨a, rfl⟩ := spherical
  exact ⟨f a, by simp [isotropic_eq, Mat3.map, zero]⟩

theorem zipWith (left : m.IsIsotropic) (right : n.IsIsotropic) {f : α → α → α} (zero : f 0 0 = 0) :
    (Mat3.zipWith f m n).IsIsotropic := by
  obtain ⟨a, rfl⟩ := left
  obtain ⟨b, rfl⟩ := right
  exact ⟨f a b, by simp [isotropic_eq, Mat3.zipWith, zero]⟩

theorem add (left : m.IsIsotropic) (right : n.IsIsotropic) : (m + n).IsIsotropic :=
  left.zipWith right (add_zero 0)

theorem sub (left : m.IsIsotropic) (right : n.IsIsotropic) : (m - n).IsIsotropic :=
  left.zipWith right (sub_zero 0)

theorem scale (spherical : m.IsIsotropic) (factor : α) : (m.scale factor).IsIsotropic :=
  spherical.map (zero_mul factor)

theorem transpose (spherical : m.IsIsotropic) : m.transpose.IsIsotropic :=
  spherical.isSymmetric.symm ▸ spherical

theorem cofactor (spherical : m.IsIsotropic) : m.cofactor.IsIsotropic := by
  obtain ⟨a, rfl⟩ := spherical
  exact ⟨a * a, by simp [isotropic_eq, Mat3.cofactor]⟩

theorem inverse (spherical : m.IsIsotropic) (inverted : m.inverse? = some n) : n.IsIsotropic := by
  obtain ⟨a, rfl⟩ := spherical
  unfold inverse? at inverted
  dsimp only at inverted
  split at inverted
  · cases inverted
  · cases inverted
    refine ⟨a * a / (isotropic a).determinant, ?_⟩
    rw [isotropic_eq (a * a / _)]
    simp [isotropic_eq]

theorem spherical (m : Mat3 α) : m.spherical.IsIsotropic := ⟨_, rfl⟩

theorem deviatoric (spherical : m.IsIsotropic) : m.deviatoric.IsIsotropic :=
  spherical.sub ⟨_, rfl⟩

theorem deviatoricTwice (spherical : m.IsIsotropic) : m.deviatoricTwice.IsIsotropic :=
  spherical.sub ⟨_, rfl⟩

theorem symmetricTwice (spherical : m.IsIsotropic) : m.symmetricTwice.IsIsotropic :=
  spherical.add spherical.transpose

theorem symmetricPart (spherical : m.IsIsotropic) : m.symmetricPart.IsIsotropic :=
  spherical.symmetricTwice.scale _

end IsIsotropic

namespace IsSymmetric

variable {m n : Mat3 α}

theorem cofactor (symmetric : m.IsSymmetric) : m.cofactor.IsSymmetric := by
  obtain ⟨yx, zx, zy⟩ := isSymmetric_iff.mp symmetric
  rw [isSymmetric_iff]
  simp only [Mat3.cofactor, yx, zx, zy]
  exact ⟨by ring, by ring, by ring⟩

theorem inverse (symmetric : m.IsSymmetric) (inverted : m.inverse? = some n) : n.IsSymmetric := by
  obtain ⟨yx, zx, zy⟩ := isSymmetric_iff.mp symmetric
  unfold inverse? at inverted
  dsimp only at inverted
  split at inverted
  · cases inverted
  · cases inverted
    rw [isSymmetric_iff]
    simp only [yx, zx, zy]
    exact ⟨by ring, by ring, by ring⟩

theorem deviatoric (symmetric : m.IsSymmetric) : m.deviatoric.IsSymmetric :=
  symmetric.zipWith (IsIsotropic.spherical m).isSymmetric _

theorem deviatoricTwice (symmetric : m.IsSymmetric) : m.deviatoricTwice.IsSymmetric :=
  symmetric.zipWith (IsIsotropic.isSymmetric ⟨_, rfl⟩) _

end IsSymmetric

theorem symmetricTwice_isSymmetric (m : Mat3 α) : m.symmetricTwice.IsSymmetric := by
  rw [isSymmetric_iff]
  exact ⟨add_comm _ _, add_comm _ _, add_comm _ _⟩

theorem symmetricPart_isSymmetric (m : Mat3 α) : m.symmetricPart.IsSymmetric :=
  m.symmetricTwice_isSymmetric.map _

theorem outer_isSymmetric (v : Vec3 α) : (outer v v).IsSymmetric := by
  rw [isSymmetric_iff]
  exact ⟨mul_comm _ _, mul_comm _ _, mul_comm _ _⟩

end Mat3

/-- A property of elements that the operations which they share keep. -/
structure Element.Closed [Scalar α] {ε : Type} [Element α ε] (Q : ε → Prop) : Prop where
  zero : Q Element.zero
  add : ∀ x y : ε, Q x → Q y → Q (Element.add x y)
  sub : ∀ x y : ε, Q x → Q y → Q (Element.sub x y)
  neg : ∀ x : ε, Q x → Q (Element.neg x)
  scale : ∀ (x : ε) (factor : α), Q x → Q (Element.scale x factor)
  divide : ∀ (x : ε) (divisor : α), Q x → Q (Element.divide x divisor)
  lower : ∀ x y : ε, Q x → Q y → Q (Element.lower x y)
  upper : ∀ x y : ε, Q x → Q y → Q (Element.upper x y)

theorem Element.closed_true [Scalar α] {ε : Type} [Element α ε] : Element.Closed fun _ : ε => True :=
  ⟨trivial, fun _ _ _ _ => trivial, fun _ _ _ _ => trivial, fun _ _ => trivial,
    fun _ _ _ => trivial, fun _ _ _ => trivial, fun _ _ _ _ => trivial, fun _ _ _ _ => trivial⟩

theorem Mat3.isSymmetric_closed [Scalar α] : Element.Closed (Mat3.IsSymmetric : Mat3 α → Prop) where
  zero := rfl
  add _ _ left right := left.zipWith right _
  sub _ _ left right := left.zipWith right _
  neg _ symmetric := symmetric.map _
  scale _ _ symmetric := symmetric.map _
  divide _ _ symmetric := symmetric.map _
  lower _ _ left right := left.zipWith right _
  upper _ _ left right := left.zipWith right _

theorem Mat3.isIsotropic_closed [ExactScalar α] :
    Element.Closed (Mat3.IsIsotropic : Mat3 α → Prop) where
  zero := ⟨0, by simp [Mat3.isotropic_eq, Element.zero, Mat3.zero, Mat3.ofRows, Vec3.zero, Vec3.uniform]⟩
  add _ _ left right := left.add right
  sub _ _ left right := left.sub right
  neg _ spherical := spherical.map neg_zero
  scale _ factor spherical := spherical.scale factor
  divide _ divisor spherical := spherical.map (f := (· / divisor)) (zero_div divisor)
  lower _ _ left right := left.zipWith right (ite_self 0)
  upper _ _ left right := left.zipWith right (ite_self 0)

end MeshLang
