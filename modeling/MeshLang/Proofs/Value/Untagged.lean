import MeshLang.Evaluation.Reduction
import MeshLang.Proofs.Evaluation.Outcome
import MeshLang.Repository.Mapping
import MeshLang.Value.Function
import MeshLang.Value.Reduction
import MeshLang.Value.Tensor

namespace MeshLang

variable {α : Type}

def FieldError.OfTags : FieldError α → Prop
  | .dimensionMismatch _ _ _ => True
  | _ => False

def Value.Untagged (v : Value α) : Prop := v.dimensions = none

abbrev Tagless (result : Except (FieldError α) (Value α)) : Prop :=
  Meets Value.Untagged (fun error => ¬ error.OfTags) result

namespace Value

theorem untagged_untagged (v : Value α) : v.untagged.Untagged := rfl

theorem Untagged.broadcastTo {v : Value α} (plain : v.Untagged) (location : Location) (n : Nat) :
    (v.broadcastTo location n).Untagged := by
  unfold Value.broadcastTo
  split
  · exact plain
  · exact plain

theorem domain_tagless (v w : Value α) :
    Meets (fun _ => True) (fun error : FieldError α => ¬ error.OfTags) (domain v w) := by
  unfold domain
  split
  · split
    · trivial
    · exact id
  · trivial
  · trivial
  · trivial

variable [Scalar α] {v w : Value α}

theorem combined_tagless (left : v.Untagged) (right : w.Untagged) (operation : String)
    (f : Nat → {ε : Type} → [Element α ε] → List ε → List ε → List ε) (kind : Kind) :
    Tagless (do
      let (location, n) ← domain v w
      let tag ← sumTag operation v.dimensions w.dimensions
      match Data.lift₂ (f n) v.data w.data with
      | some data => .ok ⟨v.kind, location, data, tag⟩
      | none => .error (.unsupported operation kind)) := by
  apply Meets.bind (domain_tagless v w)
  intro ⟨location, n⟩ _
  rw [left, right]
  change Tagless (match Data.lift₂ (f n) v.data w.data with
    | some data => .ok ⟨v.kind, location, data, none⟩
    | none => .error (.unsupported operation kind))
  split
  · exact rfl
  · exact id

theorem add_tagless (left : v.Untagged) (right : w.Untagged) : Tagless (v.add w) :=
  combined_tagless left right "+" (fun n => zipSpread n Element.add) w.kind

theorem sub_tagless (left : v.Untagged) (right : w.Untagged) : Tagless (v.sub w) :=
  combined_tagless left right "-" (fun n => zipSpread n Element.sub) w.kind

theorem minimum_tagless (left : v.Untagged) (right : w.Untagged) : Tagless (v.minimum w) :=
  combined_tagless left right "min" (fun n => zipSpread n Element.lower) w.kind

theorem maximum_tagless (left : v.Untagged) (right : w.Untagged) : Tagless (v.maximum w) :=
  combined_tagless left right "max" (fun n => zipSpread n Element.upper) w.kind

theorem mul_tagless (left : v.Untagged) (right : w.Untagged) : Tagless (v.mul w) := by
  apply Meets.bind (domain_tagless v w)
  intro ⟨location, n⟩ _
  rw [left, right]
  dsimp only
  split
  · exact rfl
  · exact rfl
  · exact id

theorem div_tagless (left : v.Untagged) (right : w.Untagged) : Tagless (v.div w) := by
  apply Meets.bind (domain_tagless v w)
  intro ⟨location, n⟩ _
  rw [left, right]
  dsimp only
  split
  · exact rfl
  · exact id

theorem remainder_tagless (left : v.Untagged) (right : w.Untagged) : Tagless (v.remainder w) := by
  apply Meets.bind (domain_tagless v w)
  intro ⟨location, n⟩ _
  rw [left, right]
  refine .bind (P := (· = none)) rfl fun tag absent => ?_
  split
  · exact absent
  · exact id

theorem inner_tagless (left : v.Untagged) (right : w.Untagged) : Tagless (v.inner w) := by
  apply Meets.bind (domain_tagless v w)
  intro ⟨location, n⟩ _
  rw [left, right]
  dsimp only
  split
  · exact rfl
  · exact rfl
  · exact rfl
  · exact rfl
  · exact id

theorem cross_tagless (left : v.Untagged) (right : w.Untagged) : Tagless (v.cross w) := by
  apply Meets.bind (domain_tagless v w)
  intro ⟨location, n⟩ _
  rw [left, right]
  dsimp only
  split
  · exact rfl
  · exact id

theorem doubleInner_tagless (left : v.Untagged) (right : w.Untagged) : Tagless (v.doubleInner w) := by
  apply Meets.bind (domain_tagless v w)
  intro ⟨location, n⟩ _
  rw [left, right]
  dsimp only
  split
  · exact rfl
  · exact id

theorem compare_tagless (comparison : Comparison) (left : v.Untagged) (right : w.Untagged) :
    Tagless (Value.compare comparison v w) := by
  apply Meets.bind (domain_tagless v w)
  intro ⟨location, n⟩ _
  rw [left, right]
  refine .bind (P := (· = none)) rfl fun tag _ => ?_
  split
  · exact rfl
  · exact id

theorem truthPair_tagless (symbol : String) (f : Bool → Bool → Bool) (v w : Value α) :
    Tagless (truthPair symbol f v w) := by
  apply Meets.bind (domain_tagless v w)
  intro ⟨location, n⟩ _
  dsimp only
  split
  · exact rfl
  · exact id

theorem pow_tagless (plain : v.Untagged) (w : Value α) : Tagless (v.pow w) := by
  apply Meets.bind (domain_tagless v w)
  intro ⟨location, n⟩ _
  rw [plain]
  dsimp only
  split
  · exact rfl
  · exact id

theorem not_tagless (v : Value α) : Tagless v.not := by
  unfold not
  split
  · exact rfl
  · exact id

theorem select_tagless (condition : Value α) (left : v.Untagged) (right : w.Untagged) :
    Tagless (select condition v w) := by
  apply Meets.bind (domain_tagless v w)
  intro branches _
  have shared : Meets (fun _ => True) (fun error : FieldError α => ¬ error.OfTags)
      (choiceDomain condition branches) := by
    unfold choiceDomain
    split
    · trivial
    · split
      · exact id
      · trivial
  apply Meets.bind shared
  intro ⟨location, n⟩ _
  rw [left, right]
  refine .bind (P := (· = none)) rfl fun tag absent => ?_
  split
  · split
    · exact absent
    · exact id
  · exact id

omit [Scalar α] in
theorem component?_untagged {name : String} (found : v.component? name = some w)
    (plain : v.Untagged) : w.Untagged := by
  unfold component? at found
  split at found <;> cases found <;> exact plain

theorem applyScalar_tagless (function : ScalarFunction) (plain : v.Untagged) :
    Tagless (v.applyScalar function) := by
  unfold applyScalar
  rw [plain]
  split
  · cases function <;> exact rfl
  · exact id

theorem magnitude_untagged (plain : v.Untagged) : v.magnitude.Untagged := plain

theorem magnitudeSquared_untagged (plain : v.Untagged) : v.magnitudeSquared.Untagged := by
  unfold magnitudeSquared Untagged
  rw [plain]
  rfl

theorem square_tagless (plain : v.Untagged) : Tagless v.square := by
  unfold square
  rw [plain]
  dsimp only
  split
  · exact rfl
  · exact rfl
  · exact id

theorem reduce_tagless (reduction : Reduction) (plain : v.Untagged) : Tagless (v.reduce reduction) := by
  unfold reduce
  split
  · exact id
  · exact plain

theorem extremumPosition_tagless (largest : Bool) (v : Value α) (positions : List (Vec3 α)) :
    Tagless (v.extremumPosition largest positions) := by
  unfold extremumPosition
  dsimp only
  split
  · exact id
  · split
    · exact id
    · split
      · exact id
      · exact rfl

theorem inverses_tagless (operation : String) (index : Nat) (ms : List (Mat3 α)) :
    Meets (fun _ => True) (fun error => ¬ error.OfTags) (inverses operation index ms) := by
  induction ms generalizing index with
  | nil => trivial
  | cons m rest ih =>
    unfold inverses
    split
    · exact id
    · exact .map (ih (index + 1))

theorem applyTensor_tagless (function : TensorFunction) (plain : v.Untagged) :
    Tagless (v.applyTensor function) := by
  unfold applyTensor
  rw [plain]
  split
  · rename_i ms held
    have results (symmetric : Bool) : Meets (fun _ => True) (fun error => ¬ error.OfTags)
        (function.results symmetric ms) := by
      cases function <;> first | trivial | exact .map (inverses_tagless _ 0 ms)
    refine .map ((results _).weaken fun data _ => ?_)
    cases function <;> exact rfl
  · exact id

theorem build_tagless (kind : Kind) {components : List (Value α)}
    (plain : ∀ v ∈ components, v.Untagged) : Tagless (build kind components) := by
  cases components with
  | nil => exact id
  | cons first rest =>
    have grows : ∀ gathered : Gathered α, gathered.tag = none → ∀ v ∈ rest,
        Meets (fun next : Gathered α => next.tag = none) (fun error => ¬ error.OfTags)
          (gathered.extend first v) := by
      intro gathered absent v member
      have tag := plain v (List.mem_cons_of_mem first member)
      unfold Gathered.extend
      dsimp only
      split
      · exact id
      · apply Meets.bind (domain_tagless first v)
        intro ⟨location, size⟩ _
        rw [absent, tag]
        exact rfl
    unfold build
    dsimp only
    split
    · exact id
    · split
      · exact id
      · refine .bind (.foldlM grows (plain first List.mem_cons_self)) fun gathered absent => ?_
        split
        · exact absent
        · exact id

end Value

theorem UnaryOp.apply_tagless [Scalar α] (op : UnaryOp) {v : Value α} (plain : v.Untagged) :
    Tagless (op.apply v) := by
  cases op with
  | negate => exact plain
  | not => exact v.not_tagless

theorem BinaryOp.apply_tagless [Scalar α] (op : BinaryOp) {v w : Value α} (left : v.Untagged)
    (right : w.Untagged) : Tagless (op.apply v w) := by
  cases op with
  | add => exact Value.add_tagless left right
  | sub => exact Value.sub_tagless left right
  | mul => exact Value.mul_tagless left right
  | div => exact Value.div_tagless left right
  | remainder => exact Value.remainder_tagless left right
  | inner => exact Value.inner_tagless left right
  | cross => exact Value.cross_tagless left right
  | doubleInner => exact Value.doubleInner_tagless left right
  | less => exact Value.compare_tagless .less left right
  | greater => exact Value.compare_tagless .greater left right
  | lessEqual => exact Value.compare_tagless .lessEqual left right
  | greaterEqual => exact Value.compare_tagless .greaterEqual left right
  | equal => exact Value.compare_tagless .equal left right
  | notEqual => exact Value.compare_tagless .notEqual left right
  | and => exact Value.truthPair_tagless "&&" Bool.and v w
  | or => exact Value.truthPair_tagless "||" Bool.or v w

end MeshLang

namespace MeshLang.Mesh

variable {α : Type} {mesh : Mesh α} {flow v : Value α}

theorem expect_tagless (mesh : Mesh α) (location : Location) (v : Value α) :
    Meets (fun _ => True) (fun error : FieldError α => ¬ error.OfTags) (mesh.expect location v) := by
  unfold expect
  split
  · trivial
  · exact id

variable [Scalar α]

theorem surfaceIntegrate_tagless (plain : v.Untagged) : Tagless (mesh.surfaceIntegrate v) :=
  .bind (mesh.expect_tagless .surface v) fun _ _ => .ok plain

theorem surfaceSum_tagless (plain : v.Untagged) : Tagless (mesh.surfaceSum v) :=
  .bind (mesh.expect_tagless .surface v) fun _ _ => .ok plain

theorem interpolate_tagless (plain : v.Untagged) : Tagless (mesh.interpolate v) :=
  .bind (mesh.expect_tagless .volume v) fun _ _ => .ok plain

theorem interpolateToPoint_tagless (plain : v.Untagged) : Tagless (mesh.interpolateToPoint v) :=
  .bind (mesh.expect_tagless .volume v) fun _ _ => .ok plain

theorem interpolateToCell_tagless (plain : v.Untagged) : Tagless (mesh.interpolateToCell v) :=
  .bind (mesh.expect_tagless .point v) fun _ _ => .ok plain

theorem faceAverage_tagless (plain : v.Untagged) : Tagless (mesh.faceAverage v) :=
  .bind (mesh.expect_tagless .surface v) fun _ _ => .ok plain

theorem snGrad_tagless (mesh : Mesh α) (v : Value α) : Tagless (mesh.snGrad v) :=
  .bind (mesh.expect_tagless .volume v) fun _ _ => .ok rfl

theorem grad_tagless (mesh : Mesh α) (v : Value α) : Tagless (mesh.grad v) := by
  apply Meets.bind (mesh.expect_tagless .volume v)
  intro _ _
  split
  · exact rfl
  · exact rfl
  · exact id

theorem div_tagless (plain : v.Untagged) : Tagless (mesh.div v) := by
  unfold div
  split
  · exact .map ((surfaceIntegrate_tagless plain).weaken fun u _ => u.untagged_untagged)
  · apply Meets.bind (mesh.expect_tagless .volume v)
    intro _ _
    split
    · exact rfl
    · exact rfl
    · exact id

theorem curl_tagless (mesh : Mesh α) (v : Value α) : Tagless (mesh.curl v) := by
  apply Meets.bind (mesh.expect_tagless .volume v)
  intro _ _
  split
  · exact rfl
  · exact id

theorem magSqrGradGrad_tagless (mesh : Mesh α) (v : Value α) : Tagless (mesh.magSqrGradGrad v) := by
  apply Meets.bind (mesh.grad_tagless v)
  intro slopes _
  split
  · exact rfl
  · exact id

theorem faceDiffusivities_tagless (mesh : Mesh α) (diffusivity? : Option (Value α)) :
    Meets (fun _ => True) (fun error => ¬ error.OfTags) (mesh.faceDiffusivities diffusivity?) := by
  cases diffusivity? with
  | none => trivial
  | some v =>
    unfold faceDiffusivities
    dsimp only
    split
    · apply Meets.bind (mesh.expect_tagless .surface v)
      intro _ _
      split
      · trivial
      · exact id
    · apply Meets.bind (mesh.expect_tagless .volume v)
      intro _ _
      split
      · trivial
      · trivial
      · exact id

theorem laplacian_tagless (mesh : Mesh α) (diffusivity? : Option (Value α)) (v : Value α) :
    Tagless (mesh.laplacian diffusivity? v) := by
  apply Meets.bind (mesh.faceDiffusivities_tagless diffusivity?)
  intro diffusivities _
  exact .bind (mesh.snGrad_tagless v) fun slopes _ => .ok rfl

theorem flux_tagless (flow : Value α) (plain : v.Untagged) : Tagless (mesh.flux flow v) := by
  apply Meets.bind (mesh.expect_tagless .surface flow)
  intro _ _
  split
  · exact id
  · rename_i rates held
    apply Meets.bind (interpolate_tagless plain)
    intro faces carried
    exact .bind (Value.mul_tagless rfl carried) fun u _ => .ok u.untagged_untagged

theorem divFlux_tagless (flow : Value α) (plain : v.Untagged) : Tagless (mesh.divFlux flow v) := by
  apply Meets.bind (flux_tagless flow plain)
  intro carried through
  exact .map ((surfaceIntegrate_tagless through).weaken fun u _ => u.untagged_untagged)

theorem reconstruct_tagless (mesh : Mesh α) (flow : Value α) : Tagless (mesh.reconstruct flow) := by
  apply Meets.bind (mesh.expect_tagless .surface flow)
  intro _ _
  split
  · exact id
  · exact .bind (Value.inverses_tagless _ 0 _) fun inverted _ => .ok rfl

theorem mapCells_tagless (source target : Mesh α) (order : MappingOrder) (v : Value α) :
    Meets (fun _ => True) (fun error => ¬ error.OfTags) (source.mapCells target order v) := by
  unfold mapCells
  split
  · exact id
  · trivial

end MeshLang.Mesh
