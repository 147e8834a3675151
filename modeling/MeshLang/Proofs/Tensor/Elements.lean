import MeshLang.Proofs.Mesh.Truth
import MeshLang.Proofs.Tensor.Matrices
import MeshLang.Proofs.Value.Functions

namespace MeshLang

theorem forall_zipSpread {ε δ γ : Type} {P : ε → Prop} {Q : δ → Prop} {R : γ → Prop} {n : Nat}
    {f : ε → δ → γ} {xs : List ε} {ys : List δ} (left : ∀ x ∈ xs, P x) (right : ∀ y ∈ ys, Q y)
    (keeps : ∀ x y, P x → Q y → R (f x y)) : ∀ z ∈ zipSpread n f xs ys, R z := by
  intro z member
  obtain ⟨x, here, y, there, rfl⟩ := Value.mem_zipWith member
  exact keeps x y (left x (Value.mem_spread here)) (right y (Value.mem_spread there))

variable {α : Type} [Scalar α]

namespace Element.Closed

variable {ε : Type} [Element α ε] {Q : ε → Prop} {xs : List ε} {mesh : Mesh α}

theorem getD (closed : Element.Closed Q) (all : ∀ x ∈ xs, Q x) (index : Nat) :
    Q (xs.getD index Element.zero) := by
  rw [List.getD_eq_getElem?_getD]
  cases found : xs[index]? with
  | none => exact closed.zero
  | some x => exact all x (List.mem_of_getElem? found)

theorem cellSum (closed : Element.Closed Q) (all : ∀ x ∈ xs, Q x) (sign : α) (cell : Nat) :
    Q (mesh.cellSum sign xs cell) := by
  refine List.foldlRecOn _ _ closed.zero fun sum held pair member => ?_
  have contribution := all pair.2 (List.of_mem_zip member).2
  refine List.foldlRecOn _ _ held fun sum held side _ => ?_
  cases side with
  | owner => exact closed.add _ _ held contribution
  | neighbour => exact closed.add _ _ held (closed.scale _ sign contribution)

theorem accumulate (closed : Element.Closed Q) (all : ∀ x ∈ xs, Q x) (sign : α) :
    ∀ x ∈ mesh.accumulate sign xs, Q x := by
  intro x member
  obtain ⟨cell, -, rfl⟩ := List.mem_map.mp member
  exact closed.cellSum all sign cell

theorem scaled (closed : Element.Closed Q) (all : ∀ x ∈ xs, Q x) (factors : List α) (f : α → α) :
    ∀ x ∈ List.zipWith (fun x factor => Element.scale x (f factor)) xs factors, Q x := by
  intro x member
  obtain ⟨y, here, factor, -, rfl⟩ := Value.mem_zipWith member
  exact closed.scale y _ (all y here)

theorem outflow (closed : Element.Closed Q) (all : ∀ x ∈ xs, Q x) :
    ∀ x ∈ mesh.perVolume (mesh.netOutflow xs), Q x :=
  closed.scaled (closed.accumulate all _) mesh.volumes _

theorem faceValues (closed : Element.Closed Q) (all : ∀ x ∈ xs, Q x) :
    ∀ x ∈ mesh.faceValues xs, Q x := by
  intro x member
  obtain ⟨face, -, rfl⟩ := List.mem_map.mp member
  unfold Mesh.faceValue
  dsimp only
  split
  · exact closed.getD all _
  · exact closed.add _ _ (closed.scale _ _ (closed.getD all _)) (closed.scale _ _ (closed.getD all _))

theorem pointValues (closed : Element.Closed Q) (all : ∀ x ∈ xs, Q x) :
    ∀ x ∈ mesh.pointValues xs, Q x := by
  intro x member
  obtain ⟨place, -, around, -, rfl⟩ := Value.mem_zipWith member
  have sum : Q ((around.map fun cell => (xs.getD cell Element.zero,
      Scalar.one / Scalar.max (mesh.centreOf cell - place).norm Scalar.epsilon)).foldl
        (fun sum pair => Element.add sum (Element.scale pair.1 pair.2)) Element.zero) := by
    refine List.foldlRecOn _ _ closed.zero fun sum held pair member => ?_
    obtain ⟨cell, -, rfl⟩ := List.mem_map.mp member
    exact closed.add _ _ held (closed.scale _ _ (closed.getD all cell))
  unfold Mesh.pointValue
  dsimp only
  split
  · exact closed.scale _ _ sum
  · exact sum

theorem cellValues (closed : Element.Closed Q) (all : ∀ x ∈ xs, Q x) :
    ∀ x ∈ mesh.cellValues xs, Q x := by
  intro x member
  obtain ⟨cell, -, rfl⟩ := List.mem_map.mp member
  refine closed.scale _ _ (List.foldlRecOn _ _ closed.zero fun sum held point _ => ?_)
  exact closed.add _ _ held (closed.getD all point)

theorem areaAverages (closed : Element.Closed Q) (all : ∀ x ∈ xs, Q x) :
    ∀ x ∈ mesh.areaAverages xs, Q x :=
  closed.scaled (closed.accumulate (closed.scaled all mesh.areaSizes id) _) _ _

theorem normalGradients (closed : Element.Closed Q) (all : ∀ x ∈ xs, Q x) :
    ∀ x ∈ mesh.normalGradients xs, Q x := by
  intro x member
  obtain ⟨face, -, rfl⟩ := List.mem_map.mp member
  unfold Mesh.normalGradient
  split
  · exact closed.zero
  · exact closed.scale _ _ (closed.sub _ _ (closed.getD all _) (closed.getD all _))

theorem reduction (closed : Element.Closed Q) (all : ∀ x ∈ xs, Q x) (reduction : Reduction) :
    ∀ x ∈ reduction.apply xs, Q x := by
  cases xs with
  | nil => exact fun x member => absurd member List.not_mem_nil
  | cons first rest =>
    have start := all first List.mem_cons_self
    have folded {f : ε → ε → ε} (keeps : ∀ x y, Q x → Q y → Q (f x y)) : Q (rest.foldl f first) :=
      List.foldlRecOn _ _ start fun sum held x member =>
        keeps _ _ held (all x (List.mem_cons_of_mem first member))
    intro x member
    obtain rfl := List.mem_singleton.mp member
    cases reduction with
    | min => exact folded closed.lower
    | max => exact folded closed.upper
    | sum => exact folded closed.add
    | average => exact closed.scale _ _ (folded closed.add)

end Element.Closed

def Data.Matrices (Q : Mat3 α → Prop) : Data α → Prop
  | .tensor ms => ∀ m ∈ ms, Q m
  | .scalar _ | .vector _ => True

namespace Data.Matrices

variable {Q : Mat3 α → Prop} {data other : Data α}

omit [Scalar α] in
theorem of_all (all : ∀ m, Q m) : data.Matrices Q := by
  cases data with
  | scalar _ | vector _ => trivial
  | tensor _ => exact fun m _ => all m

omit [Scalar α] in
theorem replicate (all : data.Matrices Q) (n : Nat) : (data.replicate n).Matrices Q := by
  cases data with
  | scalar _ | vector _ => trivial
  | tensor ms =>
    intro m member
    obtain ⟨k, here, repeated⟩ := List.mem_flatMap.mp member
    obtain ⟨-, rfl⟩ := List.mem_replicate.mp repeated
    exact all m (List.mem_of_mem_take here)

theorem gather (closed : Element.Closed Q) (all : data.Matrices Q) (places : List Nat) :
    (data.gather places).Matrices Q := by
  cases data with
  | scalar _ | vector _ => trivial
  | tensor ms =>
    intro m member
    obtain ⟨place, -, rfl⟩ := List.mem_map.mp member
    exact closed.getD all place

theorem lift {f : {ε : Type} → [Element α ε] → List ε → List ε} (all : data.Matrices Q)
    (keeps : ∀ ms : List (Mat3 α), (∀ m ∈ ms, Q m) → ∀ m ∈ f ms, Q m) :
    (data.lift f).Matrices Q := by
  cases data with
  | scalar _ | vector _ => trivial
  | tensor ms => exact keeps ms all

theorem lift₂ {f : {ε : Type} → [Element α ε] → List ε → List ε → List ε} {result : Data α}
    (combined : Data.lift₂ f data other = some result) (left : data.Matrices Q)
    (right : other.Matrices Q)
    (keeps : ∀ ms ns : List (Mat3 α), (∀ m ∈ ms, Q m) → (∀ n ∈ ns, Q n) → ∀ m ∈ f ms ns, Q m) :
    result.Matrices Q := by
  cases data <;> cases other <;> cases combined
  · trivial
  · trivial
  · exact keeps _ _ left right

end Data.Matrices

end MeshLang
