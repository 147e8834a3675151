import MeshLang.Proofs.Acceptance.Operators
import MeshLang.Proofs.Value.Components

namespace MeshLang

variable {α : Type}

theorem choiceResult?_some {condition first second kind : Kind}
    (legal : choiceResult? condition first second = some kind) :
    condition = .logical ∧ first = second := by
  unfold choiceResult? at legal
  split at legal
  · rename_i both
    simpa using both
  · cases legal

namespace Value

variable {mesh : Mesh α} {v w : Value α}

theorem Suits.together {location : Location} (left : v.Suits location) (right : w.Suits location) :
    v.Together w := by
  intro here there atLeft atRight
  rw [Suits, atLeft] at left
  rw [Suits, atRight] at right
  simp_all

theorem scalars?_of_shape (number : v.data.shape = .number) : ∃ values, v.scalars? = some values := by
  obtain ⟨values, held⟩ := Data.of_number number
  exact ⟨values, by rw [scalars?, held]⟩

theorem Fits.number (fits : v.Fits mesh) (scalar : v.kind = .scalar) : v.data.shape = .number := by
  rw [fits.shape, scalar]
  rfl

theorem choiceDomain_accepts {condition : Value α} (test : condition.Fits mesh)
    (first : condition.Together v) (second : condition.Together w) :
    Accepts (choiceDomain condition
      (v.location.or w.location, mesh.count (v.location.or w.location))) := by
  have sized := test.sized
  unfold choiceDomain
  cases place : condition.location with
  | none => exact .ok trivial
  | some location =>
    have same : v.location.or w.location = none ∨ v.location.or w.location = some location := by
      cases atFirst : v.location with
      | some other => exact .inr (first location other place atFirst ▸ rfl)
      | none =>
        cases atSecond : w.location with
        | some other => exact .inr (second location other place atSecond ▸ rfl)
        | none => exact .inl rfl
    rw [place] at sized
    rcases same with same | same
    · rw [same]
      exact .ok trivial
    · rw [same, sized]
      simp only [bne_self_eq_false, Bool.and_false, Bool.false_eq_true, if_false]
      exact .ok trivial

variable [Scalar α]

theorem not_accepts (number : v.data.shape = .number) : Accepts v.not := by
  obtain ⟨xs, held⟩ := Data.of_number number
  unfold not
  rw [held]
  exact .ok trivial

theorem select_accepts {condition : Value α} (test : condition.Fits mesh) (left : v.Fits mesh)
    (right : w.Fits mesh) (first : condition.Together v) (together : v.Together w)
    (second : condition.Together w) (number : condition.data.shape = .number)
    (same : v.data.shape = w.data.shape) : Accepts (select condition v w) := by
  refine .bind (domain_accepts left right together) fun branches shared => ?_
  subst shared
  refine .bind (choiceDomain_accepts test first second) fun place _ => ?_
  refine .bind (sumTag_accepts _ _ _) fun tag _ => ?_
  obtain ⟨mask, held⟩ := Data.of_number number
  obtain ⟨data, combined⟩ := Data.lift₂_of_shape (choose place.2 mask) same
  rw [held]
  dsimp only
  rw [combined]
  exact .ok trivial

theorem select_meets {condition : Value α} {kind : Kind}
    (legal : choiceResult? condition.kind v.kind w.kind = some kind) (test : condition.Fits mesh)
    (left : v.Fits mesh) (right : w.Fits mesh) (first : condition.Together v)
    (together : v.Together w) (second : condition.Together w) :
    Meets (fun u => (u.relabel kind).Fits mesh) (fun error => ¬ error.IsRefusal)
      (select condition v w) := by
  obtain ⟨logical, same⟩ := choiceResult?_some legal
  refine (select_fits legal test left right).within ?_
  refine select_accepts test left right first together second ?_ ?_
  · rw [test.shape, logical]
    rfl
  · rw [left.shape, right.shape, same]

theorem applyScalar_accepts (function : ScalarFunction) (number : v.data.shape = .number) :
    Accepts (v.applyScalar function) := by
  obtain ⟨xs, held⟩ := Data.of_number number
  unfold applyScalar
  rw [held]
  exact .ok trivial

theorem square_accepts (apart : v.data.shape ≠ .matrix) : Accepts v.square := by
  unfold square
  cases held : v.data with
  | scalar _ | vector _ => exact .ok trivial
  | tensor _ => exact absurd (congrArg Data.shape held) apart

theorem reduce_accepts (proper : mesh.Proper) (fits : v.Fits mesh) (reduction : Reduction) :
    Accepts (v.reduce reduction) := by
  have filled : 0 < v.data.size := by
    have sized : v.data.size = mesh.count v.location := fits.sized
    rw [sized]
    cases v.location with
    | none => exact Nat.one_pos
    | some location => exact proper.inhabited location
  have some : v.isEmpty = false := beq_eq_false_iff_ne.mpr (Nat.ne_of_gt filled)
  unfold reduce
  rw [some]
  exact .ok trivial

theorem extremumIndex?_isSome (largest : Bool) {xs : List α} (filled : 0 < xs.length) :
    ∃ index, extremumIndex? largest xs = some index := by
  cases xs with
  | nil => cases filled
  | cons x rest => exact ⟨_, rfl⟩

theorem extremumPosition_accepts (proper : mesh.Proper) (fits : v.Fits mesh) {location : Location}
    (located : v.location = some location) (scalar : v.kind = .scalar) (largest : Bool) :
    Accepts (v.extremumPosition largest (mesh.positions location)) := by
  obtain ⟨xs, held⟩ := Data.of_number (fits.number scalar)
  have length : xs.length = mesh.size location := by
    have sized := fits.sized
    rwa [located, size, held] at sized
  obtain ⟨index, found⟩ := extremumIndex?_isSome largest (length ▸ proper.inhabited location)
  unfold extremumPosition scalars?
  rw [held]
  simp only [length, mesh.positions_length, ne_eq, not_true_eq_false, if_false, found]
  exact .ok trivial

end Value

theorem UnaryOp.apply_meets [Scalar α] {mesh : Mesh α} {op : UnaryOp} {v : Value α} {kind : Kind}
    (legal : op.result? v.kind = some kind) (fits : v.Fits mesh) :
    Meets (fun u => (u.relabel kind).Fits mesh) (fun error => ¬ error.IsRefusal) (op.apply v) := by
  refine (UnaryOp.apply_fits legal fits).within ?_
  cases op with
  | negate => exact .ok trivial
  | not =>
    refine Value.not_accepts ?_
    rw [fits.shape]
    simp only [result?] at legal
    split at legal
    · rename_i logical
      rw [logical]
      rfl
    · cases legal

section Matrices

variable [Scalar α]

theorem inverses_accepts (operation : String) (index : Nat) (ms : List (Mat3 α)) :
    Accepts (inverses operation index ms) := by
  induction ms generalizing index with
  | nil => exact .ok trivial
  | cons m rest ih =>
    unfold inverses
    split
    · exact .error fun refused => refused
    · exact .map (ih (index + 1))

theorem TensorFunction.results_accepts (function : TensorFunction) (symmetric : Bool)
    (ms : List (Mat3 α)) : Accepts (function.results symmetric ms) := by
  cases function
  case inverse => exact .map (inverses_accepts _ 0 ms)
  all_goals exact .ok trivial

theorem Value.applyTensor_accepts (function : TensorFunction) {v : Value α}
    (matrix : v.data.shape = .matrix) : Accepts (v.applyTensor function) := by
  obtain ⟨ms, held⟩ := Data.of_matrix matrix
  unfold applyTensor
  rw [held]
  exact .map (function.results_accepts _ ms)

end Matrices

namespace Value

variable [Scalar α] {mesh : Mesh α} {location : Location}

structure IsComponent (mesh : Mesh α) (location : Location) (v : Value α) : Prop where
  fits : v.Fits mesh
  scalar : v.kind = .scalar
  suits : v.Suits location

omit [Scalar α] in
theorem IsComponent.admitted {v : Value α} (component : v.IsComponent mesh location) :
    (v.scalars?.isNone || v.isLogical) = false := by
  obtain ⟨values, held⟩ := scalars?_of_shape (component.fits.number component.scalar)
  rw [held, isLogical, component.scalar]
  rfl

theorem Gathered.extend_accepts (gathered : Gathered α) {first v : Value α}
    (start : first.IsComponent mesh location) (component : v.IsComponent mesh location) :
    Accepts (gathered.extend first v) := by
  unfold extend
  rw [component.admitted]
  refine .bind (domain_accepts start.fits component.fits (start.suits.together component.suits))
    fun place _ => ?_
  exact .bind (sumTag_accepts _ _ _) fun tag _ => .ok trivial

theorem build_accepts {kind : Kind} {components : List (Value α)}
    (all : ∀ v ∈ components, v.IsComponent mesh location) (filled : components ≠ [])
    (count : components.length = kind.components.length) : Accepts (build kind components) := by
  have assembled (entries : List (List α)) : ∃ data, kind.assemble? entries = some data := by
    cases kind with
    | logical | scalar => exact absurd (List.length_eq_zero_iff.mp count) filled
    | vector | tensor | symmTensor | sphericalTensor => exact ⟨_, rfl⟩
  cases components with
  | nil => exact absurd rfl filled
  | cons first rest =>
    have start := all first List.mem_cons_self
    unfold build
    dsimp only
    rw [if_neg (not_not.mpr count), start.admitted]
    refine .bind (P := fun _ => True) (.foldlM (fun gathered _ v member =>
      gathered.extend_accepts start (all v (List.mem_cons_of_mem first member))) trivial)
      fun gathered _ => ?_
    obtain ⟨data, found⟩ := assembled ((List.range gathered.size).map fun i =>
      ((first :: rest).filterMap (·.scalars?)).map fun column =>
        (spread gathered.size column).getD i Scalar.zero)
    rw [found]
    exact .ok trivial

end Value

end MeshLang
