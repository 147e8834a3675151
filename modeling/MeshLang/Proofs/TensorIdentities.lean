import Mathlib.LinearAlgebra.Matrix.Determinant.Basic
import Mathlib.LinearAlgebra.Matrix.Trace
import MeshLang.Proofs.Lockstep.Environment
import MeshLang.Proofs.Tensor.Inverses
import MeshLang.Proofs.Value.Components

namespace MeshLang

namespace Mat3

variable {α : Type} [ExactScalar α]

def toMatrix (m : Mat3 α) : Matrix (Fin 3) (Fin 3) α :=
  !![m.xx, m.xy, m.xz; m.yx, m.yy, m.yz; m.zx, m.zy, m.zz]

theorem det_toMatrix (m : Mat3 α) : m.toMatrix.det = m.determinant := by
  simp only [toMatrix, Matrix.det_fin_three, Matrix.of_apply, Matrix.cons_val, determinant]
  ring

theorem trace_toMatrix (m : Mat3 α) : m.toMatrix.trace = m.trace := by
  simp [toMatrix, Matrix.trace_fin_three, trace]

theorem transpose_multiply (m n : Mat3 α) :
    (m.multiply n).transpose = n.transpose.multiply m.transpose := by
  ext <;> simp only [multiply, transpose, Vec3.dot, row, column] <;> ring

theorem transpose_isotropic (a : α) : (isotropic a : Mat3 α).transpose = isotropic a :=
  IsIsotropic.isSymmetric ⟨a, rfl⟩

theorem transpose_multiply_cofactor (m : Mat3 α) :
    m.transpose.multiply m.cofactor = isotropic m.toMatrix.det := by
  have turned := congrArg transpose (cofactors_multiply m)
  rwa [transpose_multiply, transpose_isotropic, ← det_toMatrix] at turned

theorem cofactor_multiply_transpose (m : Mat3 α) :
    m.cofactor.multiply m.transpose = isotropic m.toMatrix.det := by
  have turned := congrArg transpose (multiply_cofactors m)
  rwa [transpose_multiply, transpose_isotropic, ← det_toMatrix] at turned

theorem scale_two (m : Mat3 α) : m.scale (Scalar.ofNat 2) = m + m := by
  ext <;> exact (congrArg _ (ExactScalar.ofNat_eq 2)).trans (mul_two _)

theorem isotropic_add (a b : α) : isotropic (a + b) = (isotropic a + isotropic b : Mat3 α) :=
  add_smul a b identity

theorem deviatoric_add_spherical (m : Mat3 α) : m.deviatoric + m.spherical = m :=
  sub_add_cancel m m.spherical

theorem deviatoricTwice_add_spherical (m : Mat3 α) :
    m.deviatoricTwice + m.spherical.scale (Scalar.ofNat 2) = m := by
  have twice : Scalar.ofNat 2 * m.trace * third = m.trace * third + m.trace * third := by
    rw [ExactScalar.ofNat_eq]
    ring
  rw [scale_two, deviatoricTwice, twice, isotropic_add]
  exact sub_add_cancel m (m.spherical + m.spherical)

theorem transpose_skewPart (m : Mat3 α) : m.skewPart.transpose = -m.skewPart := by
  have turned (x y : α) : (x - y) * Scalar.half = -((y - x) * Scalar.half) := by ring
  ext <;> exact turned _ _

theorem trace_sub (m n : Mat3 α) : (m - n).trace = m.trace - n.trace := by
  show Scalar.zero + (m.xx - n.xx) + (m.yy - n.yy) + (m.zz - n.zz) = m.trace - n.trace
  unfold trace
  rw [ExactScalar.zero_eq]
  ring

theorem trace_isotropic (a : α) : (isotropic a : Mat3 α).trace = 3 * a := by
  rw [isotropic_eq, trace, ExactScalar.zero_eq]
  ring

section CharZero

variable [CharZero α]

theorem trace_deviatoric (m : Mat3 α) : m.deviatoric.trace = 0 := by
  have thirds : 3 * (m.trace * third) = m.trace := by
    rw [third, ExactScalar.one_eq, ExactScalar.ofNat_eq, Nat.cast_ofNat, one_div, mul_left_comm,
      mul_inv_cancel₀ three_ne_zero, mul_one]
  rw [deviatoric, trace_sub, spherical, trace_isotropic, thirds, sub_self]

theorem symmetricPart_add_skewPart (m : Mat3 α) : m.symmetricPart + m.skewPart = m := by
  have halves (x y : α) : (x + y) * Scalar.half + (x - y) * Scalar.half = x := by
    rw [ExactScalar.half_eq]
    ring
  ext <;> exact halves _ _

theorem symmetricPart_twice (m : Mat3 α) :
    m.symmetricPart.scale (Scalar.ofNat 2) = m.symmetricTwice := by
  have twice (x : α) : x * Scalar.half * Scalar.ofNat 2 = x := by
    rw [ExactScalar.half_eq, ExactScalar.ofNat_eq, mul_assoc, Nat.cast_ofNat,
      inv_mul_cancel₀ two_ne_zero, mul_one]
  ext <;> exact twice _

end CharZero

end Mat3

theorem spread_map {ε δ : Type} (n : Nat) (f : ε → δ) (xs : List ε) :
    spread n (xs.map f) = (spread n xs).map f := by
  match xs with
  | [] | _ :: _ :: _ => rfl
  | [x] => exact List.map_replicate.symm

theorem zipSpread_single {ε δ γ : Type} (f : ε → δ → γ) (xs : List ε) (y : δ) :
    zipSpread xs.length f xs [y] = xs.map (f · y) := by
  rw [zipSpread, spread_of_length rfl, spread]
  induction xs with
  | nil => rfl
  | cons x xs ih => exact congrArg (f x y :: ·) ih

def FieldError.turned {α : Type} : FieldError α → FieldError α
  | .sizeMismatch left right => .sizeMismatch right left
  | error => error

namespace Value

section Same

variable {α : Type} {v w : Value α}

theorem domain_same (place : w.location = v.location) (size : w.size = v.size)
    (single : v.isConstant = true → v.size = 1) : domain v w = .ok (v.location, v.size) := by
  cases here : v.location with
  | none =>
    have one := single (by rw [isConstant, here]; rfl)
    simp [domain, place, here, one]
  | some location => simp [domain, place, here, size]

theorem domain_constantScalar (x : α) (single : v.isConstant = true → v.size = 1) :
    domain (constantScalar x) v = .ok (v.location, v.size) := by
  cases here : v.location with
  | none =>
    have one := single (by rw [isConstant, here]; rfl)
    simp [domain, constantScalar, here, one]
  | some location => simp [domain, constantScalar, here]

theorem domain_turned {u : Value α} (place : u.location = v.location) (size : u.size = v.size)
    (together : v.Together w) : (domain v w).mapError FieldError.turned = domain w u := by
  unfold domain
  rw [place, size]
  cases here : v.location with
  | none => cases w.location <;> rfl
  | some left =>
    cases there : w.location with
    | none => rfl
    | some right =>
      obtain rfl := together left right here there
      by_cases same : v.size = w.size
      · simp [same, Except.mapError]
      · simp [same, Ne.symm same, Except.mapError, FieldError.turned]

end Same

variable {α : Type} [ExactScalar α]

/-- A computation succeeds with a value, whichever kind its elements are said to be of. -/
def Gives (result : Except (FieldError α) (Value α)) (v : Value α) : Prop :=
  ∃ w, result = .ok w ∧ w.relabel v.kind = v

omit [ExactScalar α] in
theorem Gives.of {result : Except (FieldError α) (Value α)} {kind kind' : Kind}
    {location : Option Location} {data data' : Data α} {tag tag' : Option (Dimensions α)}
    (made : result = .ok ⟨kind, location, data, tag⟩) (elements : data = data') (tags : tag = tag') :
    Gives result ⟨kind', location, data', tag'⟩ := by
  subst elements tags
  exact ⟨_, made, rfl⟩

/-- The identities of tensor algebra for a value that holds certain matrices. -/
structure TensorLaws (a : Value α) (ms : List (Mat3 α)) : Prop where
  determinant : a.applyTensor .determinant = .ok ⟨.scalar, a.location,
    .scalar (ms.map fun m => m.toMatrix.det), TensorFunction.determinant.resultTag a.dimensions⟩
  trace : a.applyTensor .trace = .ok ⟨.scalar, a.location,
    .scalar (ms.map fun m => m.toMatrix.trace), a.dimensions⟩
  transpose_cofactor : Gives (do (← a.applyTensor .transpose).inner (← a.applyTensor .cofactor))
    ⟨.tensor, a.location, .tensor (ms.map fun m => .isotropic m.toMatrix.det),
      TensorFunction.determinant.resultTag a.dimensions⟩
  cofactor_transpose : Gives (do (← a.applyTensor .cofactor).inner (← a.applyTensor .transpose))
    ⟨.tensor, a.location, .tensor (ms.map fun m => .isotropic m.toMatrix.det),
      TensorFunction.determinant.resultTag a.dimensions⟩
  invertible : (∃ b, a.applyTensor .inverse = .ok b) ↔ ∀ m ∈ ms, m.toMatrix.det ≠ 0
  singular : ∀ (index : Nat) (m : Mat3 α), ms[index]? = some m → m.toMatrix.det = 0 →
    (∀ earlier < index, ∀ n, ms[earlier]? = some n → n.toMatrix.det ≠ 0) →
    a.applyTensor .inverse = .error (.singular "inv" index)
  inverse : ∀ b, a.applyTensor .inverse = .ok b →
    let unit : Value α := ⟨.tensor, a.location, .tensor (ms.map fun _ => .identity),
      a.dimensions.map fun _ => .dimensionless⟩
    Gives (b.inner a) unit ∧ Gives (a.inner b) unit
  symmetric_transpose : (do (← a.applyTensor .symmetric).applyTensor .transpose) =
    a.applyTensor .symmetric
  skew_transpose : (do (← a.applyTensor .skew).applyTensor .transpose) =
    do return (← a.applyTensor .skew).neg
  symmetric_skew : Gives (do (← a.applyTensor .symmetric).add (← a.applyTensor .skew)) a
  symmetricTwice : a.applyTensor .symmetricTwice =
    do (constantScalar (Scalar.ofNat 2)).mul (← a.applyTensor .symmetric)
  spherical : ∃ ns, a.applyTensor .spherical =
    .ok ⟨.sphericalTensor, a.location, .tensor ns, a.dimensions⟩ ∧ ∀ n ∈ ns, n.IsIsotropic
  deviatoric_spherical : Gives (do (← a.applyTensor .deviatoric).add (← a.applyTensor .spherical)) a
  trace_deviatoric : (do (← a.applyTensor .deviatoric).applyTensor .trace) =
    .ok ⟨.scalar, a.location, .scalar (ms.map fun _ => 0), a.dimensions⟩
  deviatoricTwice_spherical : Gives (do
    (← a.applyTensor .deviatoricTwice).add
      (← (constantScalar (Scalar.ofNat 2)).mul (← a.applyTensor .spherical))) a
  diagonal : ∃ d x y z, a.applyTensor .diagonal = .ok d ∧ d.component? "x" = some x ∧
    d.component? "y" = some y ∧ d.component? "z" = some z ∧
    x.data = .scalar (ms.map (·.xx)) ∧ y.data = .scalar (ms.map (·.yy)) ∧
    z.data = .scalar (ms.map (·.zz)) ∧ (do (← x.add y).add z) = a.applyTensor .trace
  contraction : ∀ v ys, v.data = .vector ys → a.Together v →
    (a.inner v).mapError FieldError.turned = do v.inner (← a.applyTensor .transpose)

section Tags

theorem multiply_pow (d : Dimensions α) :
    d.multiply (d.pow (Scalar.ofNat 2)) = d.pow (Scalar.ofNat 3) := by
  have exponent (x : α) : x + x * Scalar.ofNat 2 = x * Scalar.ofNat 3 := by
    rw [ExactScalar.ofNat_eq, ExactScalar.ofNat_eq]
    ring
  simp only [Dimensions.multiply, Dimensions.zipWith, Dimensions.pow, Dimensions.map, exponent]

theorem productTag_pow (tag : Option (Dimensions α)) :
    productTag tag (TensorFunction.cofactor.resultTag tag) =
      TensorFunction.determinant.resultTag tag := by
  cases tag with
  | none => rfl
  | some d => exact congrArg some (multiply_pow d)

theorem productTag_comm (tag other : Option (Dimensions α)) :
    productTag tag other = productTag other tag := by
  have swap (d e : Dimensions α) : d.multiply e = e.multiply d := by
    simp only [Dimensions.multiply, Dimensions.zipWith, add_comm]
  cases tag <;> cases other <;> first | rfl | exact congrArg some (swap _ _)

theorem productTag_inverse (tag : Option (Dimensions α)) :
    productTag (TensorFunction.inverse.resultTag tag) tag = tag.map fun _ => .dimensionless := by
  have exponent (x : α) : Scalar.zero - x + x = Scalar.zero := sub_add_cancel _ x
  cases tag with
  | none => rfl
  | some d =>
    simp only [productTag, TensorFunction.resultTag, Option.map_some, Dimensions.multiply,
      Dimensions.divide, Dimensions.zipWith, Dimensions.dimensionless, exponent]

end Tags

section Pairs

variable {ms ns : List (Mat3 α)} {location : Option Location}

theorem inner_same (length : ns.length = ms.length) (single : location.isNone = true → ms.length = 1)
    (kind kind' : Kind) (tag tag' : Option (Dimensions α)) :
    inner ⟨kind, location, .tensor ms, tag⟩ ⟨kind', location, .tensor ns, tag'⟩ =
      .ok ⟨if kind = .sphericalTensor && kind' = .sphericalTensor then .sphericalTensor else .tensor,
        location, .tensor (List.zipWith Mat3.multiply ms ns), productTag tag tag'⟩ := by
  have shared : domain ⟨kind, location, .tensor ms, tag⟩ ⟨kind', location, .tensor ns, tag'⟩ =
      .ok (location, ms.length) := domain_same rfl length single
  unfold inner
  rw [shared, ← zipSpread_of_length Mat3.multiply rfl length]
  rfl

theorem add_tensors [LinearOrder α] [OrderedScalar α] (length : ns.length = ms.length)
    (single : location.isNone = true → ms.length = 1) (kind kind' : Kind)
    (tag : Option (Dimensions α)) :
    add ⟨kind, location, .tensor ms, tag⟩ ⟨kind', location, .tensor ns, tag⟩ =
      .ok ⟨kind, location, .tensor (List.zipWith (· + ·) ms ns), tag⟩ := by
  have shared : domain ⟨kind, location, .tensor ms, tag⟩ ⟨kind', location, .tensor ns, tag⟩ =
      .ok (location, ms.length) := domain_same rfl length single
  unfold add
  rw [shared, sumTag_self, ← zipSpread_of_length (· + ·) rfl length]
  rfl

theorem add_scalars [LinearOrder α] [OrderedScalar α] {xs ys : List α} (length : ys.length = xs.length)
    (single : location.isNone = true → xs.length = 1) (tag : Option (Dimensions α)) :
    add ⟨.scalar, location, .scalar xs, tag⟩ ⟨.scalar, location, .scalar ys, tag⟩ =
      .ok ⟨.scalar, location, .scalar (List.zipWith (· + ·) xs ys), tag⟩ := by
  have shared : domain ⟨.scalar, location, .scalar xs, tag⟩ ⟨.scalar, location, .scalar ys, tag⟩ =
      .ok (location, xs.length) := domain_same rfl length single
  unfold add
  rw [shared, sumTag_self, ← zipSpread_of_length (· + ·) rfl length]
  rfl

theorem add_diagonals [LinearOrder α] [OrderedScalar α]
    (single : location.isNone = true → ms.length = 1) (tag : Option (Dimensions α)) :
    let along (axis : Axis) : Value α :=
      ⟨.scalar, location, .scalar ((ms.map Mat3.diagonal).map (·.entry axis)), tag⟩
    (do (← (along .x).add (along .y)).add (along .z)) =
      .ok ⟨.scalar, location, .scalar (ms.map Mat3.trace), tag⟩ := by
  intro along
  have length (axis : Axis) : ((ms.map Mat3.diagonal).map (·.entry axis)).length = ms.length := by
    simp
  have two : (along .x).add (along .y) =
      .ok ⟨.scalar, location, .scalar (ms.map fun m => m.xx + m.yy), tag⟩ := by
    rw [add_scalars ((length .y).trans (length .x).symm) (fun nowhere =>
      (length .x).trans (single nowhere))]
    simp [List.zipWith_map, List.zipWith_self, Mat3.diagonal, Vec3.entry]
  have three : add ⟨.scalar, location, .scalar (ms.map fun m => m.xx + m.yy), tag⟩ (along .z) =
      .ok ⟨.scalar, location, .scalar (ms.map Mat3.trace), tag⟩ := by
    rw [add_scalars ((length .z).trans (List.length_map _).symm) (fun nowhere =>
      (List.length_map _).trans (single nowhere))]
    simp [List.zipWith_map, List.zipWith_self, Mat3.diagonal, Vec3.entry, Mat3.trace]
  rw [two]
  exact three

theorem double_tensors (single : location.isNone = true → ms.length = 1) (f : Mat3 α → Mat3 α)
    (kind : Kind) (tag : Option (Dimensions α)) :
    mul (constantScalar (Scalar.ofNat 2)) ⟨kind, location, .tensor (ms.map f), tag⟩ =
      .ok ⟨kind, location, .tensor (ms.map fun m => (f m).scale (Scalar.ofNat 2)), tag⟩ := by
  have lone : location.isNone = true → (ms.map f).length = 1 := fun nowhere =>
    (List.length_map f).trans (single nowhere)
  have shared : domain (constantScalar (Scalar.ofNat 2)) ⟨kind, location, .tensor (ms.map f), tag⟩ =
      .ok (location, (ms.map f).length) := domain_constantScalar _ lone
  have scaled := zipSpread_single Mat3.scale (ms.map f) (Scalar.ofNat 2)
  rw [List.map_map] at scaled
  unfold mul
  rw [shared]
  exact congrArg (fun ns => Except.ok (Value.mk kind location (.tensor ns) tag)) scaled

theorem zipSpread_transpose (n : Nat) (ms : List (Mat3 α)) (ys : List (Vec3 α)) :
    zipSpread n (fun y m => m.transpose.apply y) ys (ms.map Mat3.transpose) =
      zipSpread n Mat3.apply ms ys := by
  unfold zipSpread
  rw [spread_map, List.zipWith_map_right]
  exact List.zipWith_comm

theorem inner_turned {v w : Value α} {ys : List (Vec3 α)} (matrices : v.data = .tensor ms)
    (vectors : w.data = .vector ys) (together : v.Together w) :
    (v.inner w).mapError FieldError.turned =
      w.inner { v with data := .tensor (ms.map Mat3.transpose) } := by
  let turned : Value α := { v with data := .tensor (ms.map Mat3.transpose) }
  have size : turned.size = v.size := by
    rw [Value.size, Value.size, matrices]
    exact List.length_map _
  have shared : (domain v w).mapError FieldError.turned = domain w turned :=
    domain_turned rfl size together
  unfold inner
  rw [← shared, matrices, vectors]
  cases domain v w with
  | error => rfl
  | ok place =>
    show Except.ok _ = Except.ok _
    rw [zipSpread_transpose, productTag_comm]

end Pairs

section Inverses

variable [LinearOrder α] [OrderedScalar α] {ms ns : List (Mat3 α)}

theorem zipWith_inverted (inverted : List.Forall₂ (fun m n => m.inverse? = some n) ms ns) :
    List.zipWith Mat3.multiply ns ms = ms.map (fun _ => .identity) ∧
      List.zipWith Mat3.multiply ms ns = ms.map (fun _ => .identity) := by
  induction inverted with
  | nil => exact ⟨rfl, rfl⟩
  | cons here _ ih =>
    obtain ⟨right, left⟩ := Mat3.inverse?_inverts here
    simp only [List.zipWith_cons_cons, List.map_cons, left, right, ih.1, ih.2, and_self]

theorem applyTensor_inverse (kind : Kind) (location : Option Location) (ms : List (Mat3 α))
    (tag : Option (Dimensions α)) :
    (∃ ns, applyTensor .inverse ⟨kind, location, .tensor ms, tag⟩ =
        .ok ⟨kind, location, .tensor ns, TensorFunction.inverse.resultTag tag⟩ ∧
      List.Forall₂ (fun m n => m.inverse? = some n) ms ns) ∨
    ∃ k, applyTensor .inverse ⟨kind, location, .tensor ms, tag⟩ = .error (.singular "inv" k) ∧
      FirstSingular ms k := by
  have results (symmetric : Bool) : TensorFunction.inverse.results symmetric ms =
      (inverses "inv" 0 ms).map .tensor := rfl
  unfold applyTensor
  dsimp only
  rw [results]
  rcases inverses_cases "inv" 0 ms with ⟨ns, made, all⟩ | ⟨k, first, failed⟩
  · exact .inl ⟨ns, by rw [made]; rfl, all⟩
  · exact .inr ⟨k, by rw [failed, Nat.zero_add]; rfl, first⟩

theorem invertible_iff_det (m : Mat3 α) : m.Invertible ↔ m.toMatrix.det ≠ 0 := by
  rw [Mat3.invertible_iff, Mat3.det_toMatrix]

variable {kind : Kind} {location : Option Location} {tag : Option (Dimensions α)}

theorem inverse_ok_iff : (∃ b, applyTensor .inverse ⟨kind, location, .tensor ms, tag⟩ = .ok b) ↔
    ∀ m ∈ ms, m.toMatrix.det ≠ 0 := by
  simp only [← invertible_iff_det]
  rcases applyTensor_inverse kind location ms tag with ⟨ns, made, all⟩ | ⟨k, failed, first⟩
  · exact iff_of_true ⟨_, made⟩ (inverted_invertible all)
  · obtain ⟨m, here, flat⟩ := first.here
    refine iff_of_false ?_ fun all => flat (all m (List.mem_of_getElem? here))
    rintro ⟨b, made⟩
    rw [made] at failed
    cases failed

theorem inverse_singular {index : Nat} {m : Mat3 α} (here : ms[index]? = some m)
    (flat : m.toMatrix.det = 0)
    (before : ∀ earlier < index, ∀ n, ms[earlier]? = some n → n.toMatrix.det ≠ 0) :
    applyTensor .inverse ⟨kind, location, .tensor ms, tag⟩ = .error (.singular "inv" index) := by
  simp only [← invertible_iff_det] at before
  have singular : ¬m.Invertible := fun solid => (invertible_iff_det m).mp solid flat
  have first : FirstSingular ms index := ⟨⟨m, here, singular⟩, before⟩
  rcases applyTensor_inverse kind location ms tag with ⟨ns, -, all⟩ | ⟨k, failed, other⟩
  · exact absurd (inverted_invertible all m (List.mem_of_getElem? here)) singular
  · rw [first.unique other]
    exact failed

theorem inner_inverse {b : Value α} (single : location.isNone = true → ms.length = 1)
    (inverted : applyTensor .inverse ⟨kind, location, .tensor ms, tag⟩ = .ok b) :
    let a : Value α := ⟨kind, location, .tensor ms, tag⟩
    let unit : Value α :=
      ⟨.tensor, location, .tensor (ms.map fun _ => .identity), tag.map fun _ => .dimensionless⟩
    Gives (b.inner a) unit ∧ Gives (a.inner b) unit := by
  rcases applyTensor_inverse kind location ms tag with ⟨ns, made, all⟩ | ⟨k, failed, -⟩
  · obtain rfl := Except.ok.inj (made.symm.trans inverted)
    obtain ⟨left, right⟩ := zipWith_inverted all
    have length := all.length_eq
    have alone : location.isNone = true → ns.length = 1 := fun nowhere =>
      length.symm.trans (single nowhere)
    exact ⟨.of (inner_same length alone _ _ _ _) (congrArg Data.tensor left) (productTag_inverse tag),
      .of (inner_same length.symm single _ _ _ _) (congrArg Data.tensor right)
        ((productTag_comm _ _).trans (productTag_inverse tag))⟩
  · cases failed.symm.trans inverted

end Inverses

/-- The functions of tensor algebra satisfy their identities, whatever matrices a value holds. -/
theorem tensor_laws [LinearOrder α] [OrderedScalar α] {a : Value α} {ms : List (Mat3 α)}
    (held : a.data = .tensor ms) (single : a.isConstant = true → a.size = 1) : TensorLaws a ms := by
  obtain ⟨kind, location, data, tag⟩ := a
  obtain rfl : data = .tensor ms := held
  have single : location.isNone = true → ms.length = 1 := single
  have alone (f : Mat3 α → Mat3 α) : location.isNone = true → (ms.map f).length = 1 :=
    fun nowhere => (List.length_map f).trans (single nowhere)
  have even (f g : Mat3 α → Mat3 α) : (ms.map f).length = (ms.map g).length := by
    rw [List.length_map, List.length_map]
  have merged {f g h : Mat3 α → Mat3 α} {op : Mat3 α → Mat3 α → Mat3 α}
      (each : ∀ m, op (f m) (g m) = h m) :
      Data.tensor (List.zipWith op (ms.map f) (ms.map g)) = .tensor (ms.map h) := by
    rw [List.zipWith_map, List.zipWith_self]
    exact congrArg Data.tensor (List.map_congr_left fun m _ => each m)
  have restored {f g : Mat3 α → Mat3 α} (each : ∀ m, f m + g m = m) :
      Data.tensor (List.zipWith (· + ·) (ms.map f) (ms.map g)) = .tensor ms :=
    (merged each).trans (congrArg Data.tensor (List.map_id' ms))
  exact {
    determinant := by
      simp only [Mat3.det_toMatrix]
      rfl
    trace := by
      simp only [Mat3.trace_toMatrix]
      rfl
    transpose_cofactor :=
      .of (inner_same (even _ _) (alone _) _ _ _ _)
        (merged Mat3.transpose_multiply_cofactor) (productTag_pow tag)
    cofactor_transpose :=
      .of (inner_same (even _ _) (alone _) _ _ _ _)
        (merged Mat3.cofactor_multiply_transpose) ((productTag_comm _ _).trans (productTag_pow tag))
    invertible := inverse_ok_iff
    singular := fun index m here flat before => inverse_singular here flat before
    inverse := fun b inverted => inner_inverse single inverted
    symmetric_transpose := by
      have turned : (ms.map Mat3.symmetricPart).map Mat3.transpose = ms.map Mat3.symmetricPart := by
        rw [List.map_map]
        exact List.map_congr_left fun m _ => m.symmetricPart_isSymmetric
      exact congrArg (fun ns => Except.ok (Value.mk _ location (.tensor ns) tag)) turned
    skew_transpose := by
      have turned : (ms.map Mat3.skewPart).map Mat3.transpose =
          (ms.map Mat3.skewPart).map Element.neg := by
        rw [List.map_map, List.map_map]
        exact List.map_congr_left fun m _ => m.transpose_skewPart
      exact congrArg (fun ns => Except.ok (Value.mk .tensor location (.tensor ns) tag)) turned
    symmetric_skew :=
      .of (add_tensors (even _ _) (alone _) _ _ _) (restored Mat3.symmetricPart_add_skewPart) rfl
    symmetricTwice := by
      refine Eq.symm ((double_tensors single _ _ _).trans ?_)
      simp only [Mat3.symmetricPart_twice]
      rfl
    spherical := by
      refine ⟨_, rfl, fun n member => ?_⟩
      obtain ⟨m, -, rfl⟩ := List.mem_map.mp member
      exact Mat3.IsIsotropic.spherical m
    deviatoric_spherical :=
      .of (add_tensors (even _ _) (alone _) _ _ _) (restored Mat3.deviatoric_add_spherical) rfl
    trace_deviatoric := by
      have flat : (ms.map Mat3.deviatoric).map Mat3.trace = ms.map fun _ => 0 := by
        rw [List.map_map]
        exact List.map_congr_left fun m _ => m.trace_deviatoric
      exact congrArg (fun xs => Except.ok (Value.mk .scalar location (.scalar xs) tag)) flat
    deviatoricTwice_spherical := by
      have doubled := double_tensors single Mat3.spherical .sphericalTensor tag
      exact .of ((congrArg (Except.bind · fun w =>
        add ⟨kind, location, .tensor (ms.map Mat3.deviatoricTwice), tag⟩ w) doubled).trans
          (add_tensors (even _ _) (alone _) _ _ _)) (restored Mat3.deviatoricTwice_add_spherical) rfl
    diagonal := by
      have along (axis : Axis) : (ms.map Mat3.diagonal).map (·.entry axis) =
          ms.map (·.diagonal.entry axis) := List.map_map
      exact ⟨_, _, _, _, rfl, rfl, rfl, rfl, congrArg Data.scalar (along .x),
        congrArg Data.scalar (along .y), congrArg Data.scalar (along .z), add_diagonals single tag⟩
    contraction := fun v ys vectors together => inner_turned rfl vectors together }

/-- One matrix that can be inverted and one that cannot, in tagged cells. -/
theorem tensor_laws_sheared :
    let matrices : List (Mat3 Rat) := [⟨2, 1, 0, 0, 3, 0, 0, 0, 4⟩, ⟨1, 2, 3, 4, 5, 6, 7, 8, 9⟩]
    TensorLaws ⟨.tensor, some .volume, .tensor matrices, some ⟨1, -1, -2, 0, 0, 0, 0⟩⟩ matrices :=
  tensor_laws rfl fun constant => by cases constant

end Value

end MeshLang
