import Mathlib.Data.List.Forall2
import MeshLang.Proofs.Regard.Operators
import MeshLang.Proofs.Value.Functions
import MeshLang.Value.Function

namespace MeshLang

variable {α : Type} {regard : Regard} {v v' w w' : Value α}

namespace Regard

theorem component_alike (alike : v.Alike regard w) (name : String) :
    Option.Rel (Value.Alike regard) (v.component? name) (w.component? name) := by
  have data := alike.data
  have scalar {xs ys : List α} (lists : regard.Lists xs ys) :
      Value.Alike regard ⟨.scalar, v.location, .scalar xs, v.dimensions⟩
        ⟨.scalar, w.location, .scalar ys, w.dimensions⟩ :=
    ⟨rfl, alike.location, .scalar lists, alike.tags⟩
  unfold Value.component?
  rw [alike.kind]
  generalize v.data = a at data ⊢
  generalize w.data = b at data ⊢
  cases w.kind.component? name with
  | none => exact .none
  | some component =>
    cases component with
    | entry axis =>
      cases data with
      | vector lists => exact .some (scalar (lists.map (·.entry axis)))
      | scalar _ | tensor _ => exact .none
    | cell row column =>
      cases data with
      | tensor lists => exact .some (scalar (lists.map (·.entry row column)))
      | scalar _ | vector _ => exact .none
    | isotropic =>
      cases data with
      | tensor lists => exact .some (scalar (lists.map (·.xx)))
      | scalar _ | vector _ => exact .none

theorem mapped_alike (alike : v.Alike regard w) (f : α → α) :
    (Data.scalar ((v.scalars?.getD []).map f)).Alike regard
      (Data.scalar ((w.scalars?.getD []).map f)) := by
  have numbers := alike.scalars?
  generalize v.scalars? = xs at numbers ⊢
  generalize w.scalars? = ys at numbers ⊢
  cases numbers with
  | some lists => exact .scalar (lists.map f)
  | none => exact .refl _

variable [Scalar α]

theorem elementary_agree (function : ScalarFunction) (alike : v.Alike regard w) :
    regard.Results (v.applyScalar function) (w.applyScalar function) := by
  have data := alike.data
  have tags : regard.Tags (function.resultTag v.dimensions) (function.resultTag w.dimensions) := by
    cases function <;> exact alike.tags.map _ _
  unfold Value.applyScalar
  rw [alike.kind, alike.location]
  generalize v.data = a at data ⊢
  generalize w.data = b at data ⊢
  cases data with
  | scalar lists => exact .ok ⟨rfl, rfl, .scalar (lists.map _), tags⟩
  | vector _ | tensor _ => exact .error trivial

theorem powerTag_agree {tag tag' : Option (Dimensions α)} (alike : regard.Tags tag tag')
    (constant constant' : Bool) (exponents exponents' : List α) :
    regard.Tags (Value.powerTag tag constant exponents) (Value.powerTag tag' constant' exponents') :=
  alike.map _ _

theorem power_agree (left : v.Alike regard v') (right : w.Alike regard w') :
    regard.Results (v.pow w) (v'.pow w') := by
  refine placed left right fun place => ?_
  have first := left.data
  have second := right.data
  dsimp only
  rw [left.kind]
  generalize v.data = a at first ⊢
  generalize v'.data = a' at first ⊢
  generalize w.data = b at second ⊢
  generalize w'.data = b' at second ⊢
  cases first with
  | vector _ | tensor _ => exact .error trivial
  | scalar xs =>
    cases second with
    | vector _ | tensor _ => exact .error trivial
    | scalar es =>
      exact .ok ⟨rfl, rfl, .scalar (xs.zipSpread es _ _), powerTag_agree left.tags _ _ _ _⟩

theorem magnitude_alike (alike : v.Alike regard w) : v.magnitude.Alike regard w.magnitude := by
  have data := alike.data
  refine ⟨rfl, alike.location, .scalar ?_, alike.tags⟩
  generalize v.data = a at data ⊢
  generalize w.data = b at data ⊢
  cases data with
  | scalar lists | vector lists | tensor lists => exact lists.map _

theorem magnitudeSquared_alike (alike : v.Alike regard w) :
    v.magnitudeSquared.Alike regard w.magnitudeSquared := by
  have data := alike.data
  refine ⟨rfl, alike.location, .scalar ?_, alike.tags.map _ _⟩
  generalize v.data = a at data ⊢
  generalize w.data = b at data ⊢
  cases data with
  | scalar lists | vector lists | tensor lists => exact lists.map _

theorem square_agree (alike : v.Alike regard w) : regard.Results v.square w.square := by
  have data := alike.data
  have tags := alike.tags.map (·.pow (Scalar.ofNat 2)) (·.pow (Scalar.ofNat 2))
  unfold Value.square
  rw [alike.kind, alike.location]
  generalize v.data = a at data ⊢
  generalize w.data = b at data ⊢
  cases data with
  | scalar lists => exact .ok ⟨rfl, rfl, .scalar (lists.map _), tags⟩
  | vector lists => exact .ok ⟨rfl, rfl, .tensor (lists.map _), tags⟩
  | tensor _ => exact .error trivial

theorem reduce_agree (reduction : Reduction) (alike : v.Alike regard w) :
    regard.Results (v.reduce reduction) (w.reduce reduction) := by
  have data := alike.data.lift (f := reduction.apply) (g := reduction.apply)
    fun xs ys lists => lists.congr fun same => by cases xs <;> cases ys <;> simp [Reduction.apply] at same ⊢
  unfold Value.reduce Value.isEmpty
  rw [alike.data.size]
  split
  · exact .error trivial
  · exact .ok ⟨alike.kind, rfl, data, alike.tags⟩

theorem extremumPosition_agree (largest : Bool) (positions : List (Vec3 α))
    (alike : v.Alike regard w) :
    regard.Results (v.extremumPosition largest positions) (w.extremumPosition largest positions) := by
  have numbers := alike.scalars?
  unfold Value.extremumPosition
  rw [alike.kind]
  generalize v.scalars? = found at numbers ⊢
  generalize w.scalars? = found' at numbers ⊢
  cases numbers with
  | none => exact .error trivial
  | @some xs ys lists =>
    dsimp only
    rw [lists.length]
    split
    · exact .error trivial
    · cases regard with
      | elements =>
        obtain rfl : xs = ys := lists
        split
        · exact .error trivial
        · exact .ok (.refl _ trivial)
      | types =>
        have same : xs.length = ys.length := lists
        cases xs with
        | nil =>
          obtain rfl := List.length_eq_zero_iff.mp same.symm
          exact .error trivial
        | cons x xs =>
          cases ys with
          | nil => cases same
          | cons y ys => exact .ok ⟨rfl, rfl, .vector rfl, rfl, rfl⟩

theorem inverses_agree (operation : String) {ms ns : List (Mat3 α)} (alike : regard.Lists ms ns) :
    Agree regard.Lists regard.tolerance (inverses operation 0 ms) (inverses operation 0 ns) := by
  cases regard with
  | elements =>
    obtain rfl : ms = ns := alike
    refine (Agree.refl .any fun _ _ => trivial).weaken fun found found' both => ?_
    exact both.1
  | types =>
    have singular (index : Nat) (matrices : List (Mat3 α)) :
        Meets (fun inverted => inverted.length = matrices.length) FieldError.IsSingular
          (inverses operation index matrices) := by
      induction matrices generalizing index with
      | nil => exact .ok rfl
      | cons m rest ih =>
        unfold inverses
        split
        · exact .error trivial
        · exact .map ((ih (index + 1)).weaken fun inverted same => congrArg (· + 1) same)
    have first := singular 0 ms
    have second := singular 0 ns
    cases inverted : inverses operation 0 ms with
    | error error => exact .left (first.of_error inverted)
    | ok found =>
      cases inverted' : inverses operation 0 ns with
      | error error => exact .right (second.of_error inverted')
      | ok found' =>
        exact .ok ((first.of_ok inverted).trans (alike.length.trans (second.of_ok inverted').symm))

theorem results_agree (function : TensorFunction) (symmetric : Bool) {ms ns : List (Mat3 α)}
    (alike : regard.Lists ms ns) :
    Agree (Data.Alike regard) regard.tolerance (function.results symmetric ms)
      (function.results symmetric ns) := by
  cases function with
  | inverse => exact (inverses_agree "inv" alike).map fun _ _ lists => .tensor lists
  | trace | determinant => exact .ok (.scalar (alike.map _))
  | diagonal | eigenValues => exact .ok (.vector (alike.map _))
  | transpose | cofactor | deviatoric | deviatoricTwice | symmetric | symmetricTwice | skew
  | spherical | eigenVectors => exact .ok (.tensor (alike.map _))

theorem tensors_agree (function : TensorFunction) (alike : v.Alike regard w) :
    regard.Results (v.applyTensor function) (w.applyTensor function) := by
  have data := alike.data
  have tags : regard.Tags (function.resultTag v.dimensions) (function.resultTag w.dimensions) := by
    cases function <;> first | exact alike.tags | exact alike.tags.map _ _
  unfold Value.applyTensor
  rw [alike.kind, alike.location]
  generalize v.data = a at data ⊢
  generalize w.data = b at data ⊢
  cases data with
  | scalar _ | vector _ => exact .error trivial
  | tensor lists =>
    exact (results_agree function _ lists).map fun _ _ made => ⟨rfl, rfl, made, tags⟩

structure Gathers (regard : Regard) (gathered gathered' : Value.Gathered α) : Prop where
  location : gathered.location = gathered'.location
  size : gathered.size = gathered'.size
  tag : regard.Tags gathered.tag gathered'.tag

theorem extend_agree {gathered gathered' : Value.Gathered α} (so : regard.Gathers gathered gathered')
    (first : v.Alike regard v') (component : w.Alike regard w') :
    Agree regard.Gathers regard.tolerance (gathered.extend v w) (gathered'.extend v' w') := by
  have numbers : w.scalars?.isNone = w'.scalars?.isNone := by
    have related := component.scalars?
    generalize w.scalars? = xs at related ⊢
    generalize w'.scalars? = ys at related ⊢
    cases related <;> rfl
  unfold Value.Gathered.extend Value.isLogical
  rw [numbers, component.kind]
  dsimp only
  split
  · exact .error trivial
  · refine placed first component fun place => ?_
    refine .bind (sumTag_agree _ so.tag component.tags) fun tag tag' tags => .ok ?_
    exact ⟨congrArg (Option.or · place.1) so.location, congrArg (max · place.2) so.size, tags⟩

theorem gather_agree {items items' : List (Value α)}
    (alike : List.Forall₂ (Value.Alike regard) items items') {gathered gathered' : Value.Gathered α}
    (so : regard.Gathers gathered gathered') (first : v.Alike regard v') :
    Agree regard.Gathers regard.tolerance (items.foldlM (·.extend v ·) gathered)
      (items'.foldlM (·.extend v' ·) gathered') := by
  induction alike generalizing gathered gathered' with
  | nil => exact .ok so
  | cons head _ ih => exact .bind (extend_agree so first head) fun _ _ further => ih further

theorem assemble_alike (kind : Kind) {entries entries' : List (List α)}
    (alike : regard.Lists entries entries') :
    Option.Rel (Data.Alike regard) (kind.assemble? entries) (kind.assemble? entries') := by
  cases kind with
  | logical | scalar => exact .none
  | vector => exact .some (.vector (alike.map _))
  | tensor | symmTensor | sphericalTensor => exact .some (.tensor (alike.map _))

theorem entries_alike {columns columns' : List (List α)}
    (alike : List.Forall₂ regard.Lists columns columns') (n : Nat) :
    regard.Lists
      ((List.range n).map fun i => columns.map fun column => (spread n column).getD i Scalar.zero)
      ((List.range n).map fun i => columns'.map fun column => (spread n column).getD i Scalar.zero) := by
  cases regard with
  | elements =>
    obtain rfl : columns = columns' := List.forall₂_eq_eq_eq ▸ alike
    rfl
  | types => exact (List.length_map _).trans (List.length_map _).symm

theorem assembled_agree (kind : Kind) {gathered gathered' : Value.Gathered α}
    (so : regard.Gathers gathered gathered') (error : FieldError α) {entries entries' : List (List α)}
    (alike : regard.Lists entries entries') :
    regard.Results
      (match kind.assemble? entries with
        | some data => .ok ⟨kind, gathered.location, data, gathered.tag⟩
        | none => .error error)
      (match kind.assemble? entries' with
        | some data => .ok ⟨kind, gathered'.location, data, gathered'.tag⟩
        | none => .error error) := by
  have made := assemble_alike kind alike
  generalize kind.assemble? entries = data at made ⊢
  generalize kind.assemble? entries' = data' at made ⊢
  cases made with
  | some data => exact .ok ⟨rfl, so.location, data, so.tag⟩
  | none => exact .error trivial

theorem build_agree (kind : Kind) {components components' : List (Value α)}
    (alike : List.Forall₂ (Value.Alike regard) components components') :
    regard.Results (Value.build kind components) (Value.build kind components') := by
  cases alike with
  | nil => exact .error trivial
  | @cons first first' rest rest' head tail =>
    have numbers : first.scalars?.isNone = first'.scalars?.isNone := by
      have related := head.scalars?
      generalize first.scalars? = xs at related ⊢
      generalize first'.scalars? = ys at related ⊢
      cases related <;> rfl
    have all : List.Forall₂ (Value.Alike regard) (first :: rest) (first' :: rest') := .cons head tail
    have start : regard.Gathers
        ⟨first.location, if first.isConstant then 1 else first.size, first.dimensions⟩
        ⟨first'.location, if first'.isConstant then 1 else first'.size, first'.dimensions⟩ := by
      unfold Value.isConstant
      exact ⟨head.location, by rw [head.location, head.size], head.tags⟩
    unfold Value.build Value.isLogical
    dsimp only
    rw [all.length_eq, numbers, head.kind]
    split
    · exact .error trivial
    · split
      · exact .error trivial
      · refine .bind (gather_agree tail start head) fun gathered gathered' so => ?_
        rw [so.size]
        have columns := List.rel_filterMap (fun _ _ alike => alike.scalars?) all
        exact assembled_agree kind so _ (entries_alike columns _)

end Regard

end MeshLang
