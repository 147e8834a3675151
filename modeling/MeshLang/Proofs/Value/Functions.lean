import MeshLang.Proofs.Value.Operators

namespace MeshLang

variable {α : Type} [Scalar α] {mesh : Mesh α} {v w : Value α}

namespace Value

theorem neg_made (fits : v.Fits mesh) : Made mesh v.data.shape v.neg := by
  have sized := fits.sized
  have shape := fits.shape
  unfold size at sized
  unfold neg
  cases held : v.data
  all_goals
    rw [held] at sized shape
    exact ⟨.of_shape shape ((List.length_map _).trans sized), rfl⟩

theorem not_made (fits : v.Fits mesh) : Meets (Made mesh .number) (fun _ => True) v.not := by
  have sized := fits.sized
  unfold size at sized
  unfold not
  cases held : v.data <;> try exact .error trivial
  rw [held] at sized
  exact .ok ⟨.of_shape rfl ((List.length_map _).trans sized), rfl⟩

end Value

theorem UnaryOp.apply_fits {op : UnaryOp} {kind : Kind} (legal : op.result? v.kind = some kind)
    (fits : v.Fits mesh) :
    Meets (fun w => (w.relabel kind).Fits mesh) (fun _ => True) (op.apply v) := by
  cases op with
  | negate =>
    simp only [result?] at legal
    split at legal
    · cases legal
      exact .ok ((Value.neg_made fits).relabel fits.shape.symm)
    · cases legal
  | not =>
    simp only [result?] at legal
    split at legal
    · cases legal
      exact (Value.not_made fits).weaken fun w made => made.relabel rfl
    · cases legal

namespace Value

theorem choose_length {ε : Type} {n : Nat} {mask : List α} {xs ys : List ε}
    (condition : Spreads n mask.length) (left : Spreads n xs.length) (right : Spreads n ys.length) :
    (choose n mask xs ys).length = n := by
  unfold choose
  rw [List.length_zipWith, List.length_zip, spread_length condition, spread_length left,
    spread_length right, Nat.min_self, Nat.min_self]

omit [Scalar α] in
theorem choiceDomain_meets {condition : Value α} (fits : condition.Fits mesh)
    {branches : Option Location × Nat} (shared : Shared mesh v w branches) :
    Meets (fun domain => Shared mesh v w domain ∧ Spreads domain.2 condition.data.size)
      (fun _ => True) (choiceDomain condition branches) := by
  have sized := fits.sized
  unfold choiceDomain
  cases place : condition.location with
  | none =>
    rw [place] at sized
    exact .ok ⟨shared, .inr sized⟩
  | some location =>
    rw [place] at sized
    dsimp only
    split
    · exact .error trivial
    · rename_i agrees
      refine .ok ⟨⟨sized, ?_, ?_⟩, .inl rfl⟩
      all_goals
        obtain ⟨branch, n⟩ := branches
        obtain ⟨count, left, right⟩ := shared
        cases branch with
        | none =>
          -- two constants: whatever the condition needs, they are single elements
          have one : n = 1 := count
          subst one
          simp_all [Spreads]
        | some other => simp_all [Spreads]

theorem select_fits {condition : Value α} {kind : Kind}
    (legal : choiceResult? condition.kind v.kind w.kind = some kind) (test : condition.Fits mesh)
    (left : v.Fits mesh) (right : w.Fits mesh) :
    Meets (fun u => (u.relabel kind).Fits mesh) (fun _ => True) (select condition v w) := by
  have same : kind = v.kind := by
    simp only [choiceResult?] at legal
    split at legal
    · cases legal; rfl
    · cases legal
  subst same
  apply Meets.bind (domain_meets left right)
  intro branches shared
  apply Meets.bind (choiceDomain_meets test shared)
  intro ⟨location, n⟩ ⟨⟨count, one, other⟩, mask⟩
  apply Meets.bind .any
  intro tag _
  cases held : condition.data with
  | scalar values =>
    rw [held] at mask
    dsimp only
    split
    · rename_i data combined
      refine .ok (.of_shape ((Data.lift₂_shape combined).trans left.shape) ?_)
      refine (Data.lift₂_size combined fun xs ys first second => ?_).trans count
      exact choose_length mask (first ▸ one) (second ▸ other)
    · exact .error trivial
  | vector values | tensor values => exact .error trivial

omit [Scalar α] in
theorem component?_fits {name : String} (found : v.component? name = some w) (fits : v.Fits mesh) :
    w.Fits mesh := by
  have sized := fits.sized
  unfold size at sized
  unfold component? at found
  split at found
  all_goals first
    | cases found
      rename_i held
      rw [held] at sized
      exact .of_shape rfl ((List.length_map _).trans sized)
    | cases found

theorem applyScalar_fits (function : ScalarFunction) (fits : v.Fits mesh) :
    Meets (fun u => u.Fits mesh) (fun _ => True) (v.applyScalar function) := by
  have sized := fits.sized
  unfold size at sized
  unfold applyScalar
  cases held : v.data <;> try exact .error trivial
  rw [held] at sized
  exact .ok (.of_shape rfl ((List.length_map _).trans sized))

theorem magnitude_fits (fits : v.Fits mesh) : v.magnitude.Fits mesh := by
  have sized := fits.sized
  unfold size at sized
  unfold magnitude
  cases held : v.data
  all_goals
    rw [held] at sized
    exact .of_shape rfl ((List.length_map _).trans sized)

theorem magnitudeSquared_fits (fits : v.Fits mesh) : v.magnitudeSquared.Fits mesh := by
  have sized := fits.sized
  unfold size at sized
  unfold magnitudeSquared
  cases held : v.data
  all_goals
    rw [held] at sized
    exact .of_shape rfl ((List.length_map _).trans sized)

theorem square_fits (fits : v.Fits mesh) :
    Meets (fun u => u.Fits mesh) (fun _ => True) v.square := by
  have sized := fits.sized
  unfold size at sized
  unfold square
  cases held : v.data <;> try exact .error trivial
  all_goals
    rw [held] at sized
    exact .ok (.of_shape rfl ((List.length_map _).trans sized))

theorem reduce_fits (reduction : Reduction) (fits : v.Fits mesh) :
    Meets (fun u => u.Fits mesh) (fun _ => True) (v.reduce reduction) := by
  unfold reduce
  split
  · exact .error trivial
  · rename_i filled
    have single : (v.data.lift reduction.apply).size = 1 := by
      refine Data.lift_size fun values same => ?_
      cases values with
      | nil => simp [isEmpty, ← same] at filled
      | cons first rest => rfl
    have shape : (v.data.lift reduction.apply).shape = v.data.shape := Data.lift_shape _
    exact .ok (.of_shape (shape.trans fits.shape) single)

theorem extremumPosition_fits (largest : Bool) (positions : List (Vec3 α)) :
    Meets (fun u => u.Fits mesh) (fun _ => True) (v.extremumPosition largest positions) := by
  unfold extremumPosition
  dsimp only
  split
  · exact .error trivial
  · split
    · exact .error trivial
    · split
      · exact .error trivial
      · exact .ok ⟨rfl, rfl⟩

end Value

theorem inverses_length (operation : String) (index : Nat) (ms : List (Mat3 α)) :
    Meets (fun inverted => inverted.length = ms.length) (fun _ => True) (inverses operation index ms) := by
  induction ms generalizing index with
  | nil => exact .ok rfl
  | cons m rest ih =>
    unfold inverses
    split
    · exact .error trivial
    · exact .map ((ih (index + 1)).weaken fun inverted same => congrArg (· + 1) same)

theorem TensorFunction.results_made (function : TensorFunction) (symmetric : Bool)
    (ms : List (Mat3 α)) {kind : Kind} (matrices : kind.shape = .matrix) :
    Meets (fun data => data.shape = (function.resultKind kind).shape ∧ data.size = ms.length)
      (fun _ => True) (function.results symmetric ms) := by
  have symmetricKind : ∀ function ∈ [TensorFunction.symmetric, .symmetricTwice],
      (function.resultKind kind).shape = .matrix := by
    cases kind <;> decide
  cases function with
  | symmetric | symmetricTwice => exact .ok ⟨(symmetricKind _ (by decide)).symm, List.length_map _⟩
  | inverse =>
    exact .map ((inverses_length _ 0 ms).weaken fun inverted same => ⟨matrices.symm, same⟩)
  | transpose | cofactor | deviatoric | deviatoricTwice =>
    exact .ok ⟨matrices.symm, List.length_map _⟩
  | trace | determinant | diagonal | eigenValues | skew | spherical | eigenVectors =>
    exact .ok ⟨rfl, List.length_map _⟩

theorem Value.applyTensor_fits (function : TensorFunction) (fits : v.Fits mesh) :
    Meets (fun u => u.Fits mesh) (fun _ => True) (v.applyTensor function) := by
  have sized := fits.sized
  have shape := fits.shape
  unfold size at sized
  unfold applyTensor
  cases held : v.data with
  | tensor ms =>
    rw [held] at sized shape
    refine .map ((function.results_made _ ms shape.symm).weaken fun data made => ?_)
    exact .of_shape made.1 (made.2.trans sized)
  | scalar values | vector values => exact .error trivial

end MeshLang
