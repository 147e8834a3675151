import Mathlib.Data.List.MinMax
import MeshLang.Proofs.Tensor.Vectors
import MeshLang.Proofs.Value.Components
import MeshLang.Value.Arithmetic
import MeshLang.Value.Reduction

namespace MeshLang

variable {α : Type}

/-- The first place at which a list has an entry. -/
structure FirstAt (xs : List α) (x : α) (index : Nat) : Prop where
  here : xs[index]? = some x
  before : ∀ earlier < index, xs[earlier]? ≠ some x

theorem Value.extremumFrom_first {beats : α → α → Bool} {pick : α → α → α}
    (picks : ∀ best x, pick best x = if beats x best then x else best)
    (itself : ∀ x, beats x x = false)
    (further : ∀ x y z, beats x y = true → beats y z = true → beats x z = true) (rest : List α)
    {seen : List α} {best : α} {index : Nat} (first : FirstAt (seen ++ rest) best index)
    (unbeaten : ∀ y ∈ seen, beats y best = false) :
    FirstAt (seen ++ rest) (rest.foldl pick best)
      (extremumFrom beats index best seen.length rest) := by
  induction rest generalizing seen best index with
  | nil => exact first
  | cons x rest ih =>
    have longer : seen ++ x :: rest = seen ++ [x] ++ rest := by simp
    have count : seen.length + 1 = (seen ++ [x]).length := by simp
    rw [extremumFrom, List.foldl_cons, picks, count]
    cases better : beats x best with
    | true =>
      simp only [if_true]
      -- An equal number before would have beaten the best so far as well.
      have new : FirstAt (seen ++ x :: rest) x seen.length := by
        refine ⟨by simp, fun earlier below found => ?_⟩
        rw [List.getElem?_append_left below] at found
        rw [unbeaten x (List.mem_of_getElem? found)] at better
        cases better
      rw [longer] at new ⊢
      refine ih new (List.forall_mem_append.mpr
        ⟨fun y old => ?_, List.forall_mem_singleton.mpr (itself x)⟩)
      cases beaten : beats y x with
      | false => rfl
      | true => exact (further y x best beaten better).symm.trans (unbeaten y old)
    | false =>
      simp only [Bool.false_eq_true, if_false]
      rw [longer] at first ⊢
      exact ih first (List.forall_mem_append.mpr
        ⟨unbeaten, List.forall_mem_singleton.mpr better⟩)

section Plain

variable [Scalar α]

/-- A reading of elements as numbers that the operations of reductions leave alone. -/
structure Element.Reads {ε : Type} [Element α ε] (read : ε → α) : Prop where
  lower : ∀ x y, read (Element.lower x y) = Element.lower (read x) (read y)
  upper : ∀ x y, read (Element.upper x y) = Element.upper (read x) (read y)
  add : ∀ x y, read (Element.add x y) = Element.add (read x) (read y)
  scale : ∀ x a, read (Element.scale x a) = Element.scale (read x) a

namespace Reduction

def extremum (largest : Bool) : Reduction := if largest then .max else .min

theorem map_apply (reduction : Reduction) {ε : Type} [Element α ε] {read : ε → α}
    (reads : Element.Reads read) (xs : List ε) :
    (reduction.apply xs).map read = reduction.apply (xs.map read) := by
  cases xs with
  | nil => rfl
  | cons first rest =>
    have sums := List.foldl_map_hom (a := first) (l := rest) fun x y => (reads.add x y).symm
    refine congrArg (fun x => [x]) ?_
    cases reduction with
    | min => exact (List.foldl_map_hom fun x y => (reads.lower x y).symm).symm
    | max => exact (List.foldl_map_hom fun x y => (reads.upper x y).symm).symm
    | sum => exact sums.symm
    | average =>
      simp only [combine, reads.scale, List.length_map]
      rw [sums]

end Reduction

namespace Value

theorem reduce_eq (reduction : Reduction) {v : Value α} (filled : v.isEmpty = false) :
    v.reduce reduction = .ok ⟨v.kind, none, v.data.lift reduction.apply, v.dimensions⟩ := by
  rw [reduce, filled]
  rfl

theorem stores_lift (reduction : Reduction) (kind : Kind) (data : Data α) :
    (data.lift reduction.apply).stores kind = data.stores kind := by
  cases data <;> cases kind <;> rfl

theorem reduce_scalars {v : Value α} {xs : List α} (held : v.data = .scalar xs)
    (filled : v.isEmpty = false) : ∃ first rest, xs = first :: rest ∧ ∀ reduction : Reduction,
      v.reduce reduction =
        .ok ⟨v.kind, none, .scalar [reduction.combine first rest], v.dimensions⟩ := by
  cases xs with
  | nil =>
    rw [isEmpty, held] at filled
    cases filled
  | cons first rest =>
    refine ⟨first, rest, rfl, fun reduction => ?_⟩
    rw [reduce_eq reduction filled, held]
    rfl

end Value

end Plain

section Orders

variable [ExactScalar α]

theorem Reduction.combine_sum {ε : Type} [Element α ε] [AddCommGroup ε] [Module α ε]
    [LawfulElement α ε] (first : ε) (rest : List ε) :
    Reduction.sum.combine first rest = (first :: rest).sum := by
  have add : (Element.add : ε → ε → ε) = (· + ·) := by
    ext x y
    exact LawfulElement.add_eq x y
  rw [combine, add, List.sum_eq_foldl, List.foldl_cons, zero_add]

variable [LinearOrder α] [OrderedScalar α]

namespace Scalar

variable (x y : α)

theorem lowerEntry_eq : lowerEntry x y = Scalar.min x y := by
  rw [lowerEntry, min_eq, min_def]
  exact if_congr (OrderedScalar.le_iff x y) rfl rfl

theorem upperEntry_eq : upperEntry x y = Scalar.max x y := by
  rw [upperEntry, max_eq, max_def']
  exact if_congr (OrderedScalar.le_iff y x) rfl rfl

end Scalar

theorem Vec3.reads_entry (axis : Axis) : Element.Reads fun v : Vec3 α => v.entry axis where
  lower v w := by cases axis <;> exact Scalar.lowerEntry_eq _ _
  upper v w := by cases axis <;> exact Scalar.upperEntry_eq _ _
  add v w := by cases axis <;> rfl
  scale v a := by cases axis <;> rfl

theorem Mat3.reads_entry (row column : Axis) :
    Element.Reads fun m : Mat3 α => m.entry row column where
  lower m n := by cases row <;> cases column <;> exact Scalar.lowerEntry_eq _ _
  upper m n := by cases row <;> cases column <;> exact Scalar.upperEntry_eq _ _
  add m n := by cases row <;> cases column <;> rfl
  scale m a := by cases row <;> cases column <;> rfl

namespace Reduction

variable {ε : Type} [Element α ε] (reduction : Reduction)

theorem entries_lift {data : Data α} {component : Component} (has : data.HasPart component) :
    (data.lift reduction.apply).entries component = reduction.apply (data.entries component) := by
  cases has with
  | vector _ axis => exact map_apply reduction (Vec3.reads_entry axis) _
  | cell _ row column => exact map_apply reduction (Mat3.reads_entry row column) _
  | isotropic => exact map_apply reduction (Mat3.reads_entry .x .x) _

theorem scale_average [AddCommGroup ε] [Module α ε] [LawfulElement α ε] (first : ε)
    (rest : List ε) : Element.scale (Reduction.average.combine first rest)
      (Scalar.ofNat (rest.length + 1)) = Reduction.sum.combine first rest := by
  have count : ((rest.length + 1 : Nat) : α) ≠ 0 := Nat.cast_ne_zero.mpr (Nat.succ_ne_zero _)
  simp only [combine]
  rw [LawfulElement.scale_eq, LawfulElement.scale_eq, smul_smul, ExactScalar.ofNat_eq,
    ExactScalar.one_eq, mul_one_div_cancel count, one_smul]

theorem zipSpread_average [AddCommGroup ε] [Module α ε] [LawfulElement α ε] (xs : List ε) :
    zipSpread 1 (fun x factor => Element.scale x factor) (Reduction.average.apply xs)
      [Scalar.ofNat xs.length] = Reduction.sum.apply xs := by
  cases xs with
  | nil => rfl
  | cons first rest => exact congrArg (fun x => [x]) (scale_average first rest)

theorem combine_min_isLeast (first : α) (rest : List α) :
    IsLeast {x | x ∈ first :: rest} (Reduction.min.combine first rest) := by
  have least : (first :: rest).min? = some (Reduction.min.combine first rest) := by
    have same : (Element.lower : α → α → α) = Min.min := by
      ext x y
      exact Scalar.min_eq x y
    rw [List.min?_cons', combine, same]
  exact List.min?_eq_some_iff.mp least

theorem combine_max_isGreatest (first : α) (rest : List α) :
    IsGreatest {x | x ∈ first :: rest} (Reduction.max.combine first rest) := by
  have greatest : (first :: rest).max? = some (Reduction.max.combine first rest) := by
    have same : (Element.upper : α → α → α) = Max.max := by
      ext x y
      exact Scalar.max_eq x y
    rw [List.max?_cons', combine, same]
  exact List.max?_eq_some_iff.mp greatest

theorem extremumIndex?_first (largest : Bool) (first : α) (rest : List α) :
    ∃ index, Value.extremumIndex? largest (first :: rest) = some index ∧
      FirstAt (first :: rest) ((extremum largest).combine first rest) index := by
  have start : FirstAt ([first] ++ rest) first 0 := ⟨rfl, fun earlier below => by omega⟩
  have itself (x : α) : Scalar.lt x x = false := by
    rw [Bool.eq_false_iff]
    exact fun less => lt_irrefl x ((OrderedScalar.lt_iff x x).mp less)
  have further (x y z : α) (left : Scalar.lt x y = true) (right : Scalar.lt y z = true) :
      Scalar.lt x z = true := by
    rw [OrderedScalar.lt_iff] at left right ⊢
    exact left.trans right
  have alone : ∀ y ∈ [first], Scalar.lt y first = false ∧ Scalar.lt first y = false := by
    intro y member
    rw [List.mem_singleton.mp member]
    exact ⟨itself first, itself first⟩
  refine ⟨_, rfl, ?_⟩
  cases largest with
  | false =>
    exact Value.extremumFrom_first Scalar.min_eq_ite itself further rest start fun y member =>
      (alone y member).1
  | true =>
    exact Value.extremumFrom_first Scalar.max_eq_ite itself
      (fun x y z left right => further z y x right left) rest start fun y member =>
        (alone y member).2

end Reduction

namespace Value

/-- What is expected of the reductions of a value and of the places of its extrema. -/
structure ReductionLaws (v : Value α) : Prop where
  least : ∀ xs, v.data = .scalar xs → ∃ m,
    v.reduce .min = .ok ⟨v.kind, none, .scalar [m], v.dimensions⟩ ∧ IsLeast {x | x ∈ xs} m
  greatest : ∀ xs, v.data = .scalar xs → ∃ m,
    v.reduce .max = .ok ⟨v.kind, none, .scalar [m], v.dimensions⟩ ∧ IsGreatest {x | x ∈ xs} m
  total : ∀ xs, v.data = .scalar xs →
    v.reduce .sum = .ok ⟨v.kind, none, .scalar [xs.sum], v.dimensions⟩
  average : ∃ average sum, v.reduce .average = .ok average ∧ v.reduce .sum = .ok sum ∧
    average.mul (constantScalar (Scalar.ofNat v.size)) = .ok sum
  component : ∀ (reduction : Reduction), ∀ component ∈ v.kind.components, ∃ whole x reduced,
    v.reduce reduction = .ok whole ∧ v.component? component.text = some x ∧
      x.reduce reduction = .ok reduced ∧ whole.component? component.text = some reduced
  position : ∀ (largest : Bool) (xs : List α) (positions : List (Vec3 α)), v.data = .scalar xs →
    positions.length = xs.length → ∃ m index p,
      v.reduce (.extremum largest) = .ok ⟨v.kind, none, .scalar [m], v.dimensions⟩ ∧
        FirstAt xs m index ∧ positions[index]? = some p ∧
          v.extremumPosition largest positions = .ok (constantVector p)

theorem average_mul_count {v : Value α} (stored : v.data.stores v.kind = true)
    (numeric : v.kind.isNumeric = true) :
    mul ⟨v.kind, none, v.data.lift Reduction.average.apply, v.dimensions⟩
        (constantScalar (Scalar.ofNat v.size)) =
      .ok ⟨v.kind, none, v.data.lift Reduction.sum.apply, v.dimensions⟩ := by
  obtain ⟨kind, location, data, tag⟩ := v
  have tags : productTag tag none = tag := by cases tag <;> rfl
  have elements (made : Data α) (same : made = data.lift Reduction.sum.apply) :
      Except.ok (Value.mk kind none made (productTag tag none)) =
        (.ok ⟨kind, none, data.lift Reduction.sum.apply, tag⟩ : Except (FieldError α) (Value α)) := by
    rw [tags, same]
  cases data with
  | scalar xs =>
    -- Of two scalars the second one's kind is kept, which is that of a numeric scalar.
    obtain rfl : kind = .scalar := by
      cases kind <;> first | rfl | (cases numeric; done) | cases stored
    refine elements _ (congrArg Data.scalar (Eq.trans ?_ (Reduction.zipSpread_average xs)))
    exact List.zipWith_comm_of_comm mul_comm
  | vector vs => exact elements _ (congrArg Data.vector (Reduction.zipSpread_average vs))
  | tensor ms => exact elements _ (congrArg Data.tensor (Reduction.zipSpread_average ms))

theorem reduction_laws {v : Value α} (stored : v.data.stores v.kind = true)
    (numeric : v.kind.isNumeric = true) (filled : v.isEmpty = false) : v.ReductionLaws where
  least xs held := by
    obtain ⟨first, rest, rfl, reduced⟩ := reduce_scalars held filled
    exact ⟨_, reduced .min, Reduction.combine_min_isLeast first rest⟩
  greatest xs held := by
    obtain ⟨first, rest, rfl, reduced⟩ := reduce_scalars held filled
    exact ⟨_, reduced .max, Reduction.combine_max_isGreatest first rest⟩
  total xs held := by
    obtain ⟨first, rest, rfl, reduced⟩ := reduce_scalars held filled
    rw [← Reduction.combine_sum]
    exact reduced .sum
  average := ⟨_, _, reduce_eq .average filled, reduce_eq .sum filled,
    average_mul_count stored numeric⟩
  component reduction component named := by
    have has := Data.hasPart stored named
    have part_filled : (v.part component).isEmpty = false := by
      rw [isEmpty] at filled ⊢
      exact (congrArg (· == 0) has.entries_length).trans filled
    refine ⟨_, _, _, reduce_eq reduction filled, component?_eq stored named,
      reduce_eq reduction part_filled, ?_⟩
    let whole : Value α := ⟨v.kind, none, v.data.lift reduction.apply, v.dimensions⟩
    have read : whole.component? component.text = some (whole.part component) :=
      component?_eq ((stores_lift reduction v.kind v.data).trans stored) named
    rw [read, part, Reduction.entries_lift reduction has]
    rfl
  position largest xs positions held sized := by
    obtain ⟨first, rest, rfl, reduced⟩ := reduce_scalars held filled
    obtain ⟨index, found, place⟩ := Reduction.extremumIndex?_first largest first rest
    obtain ⟨below, -⟩ := List.getElem?_eq_some_iff.mp place.here
    rw [← sized] at below
    refine ⟨_, index, positions[index], reduced _, place, List.getElem?_eq_getElem below, ?_⟩
    have scalars : v.scalars? = some (first :: rest) := by rw [scalars?, held]
    unfold extremumPosition
    rw [scalars]
    dsimp only
    rw [if_neg (not_not.mpr sized.symm), found]
    dsimp only
    rw [List.getD_eq_getElem?_getD, List.getElem?_eq_getElem below, Option.getD_some]

/-- Tagged numbers of which the least and the greatest one stand at two places each. -/
theorem reduction_laws_tied : ReductionLaws
    (⟨.scalar, some .volume, .scalar [2, 1, 3, 1, 3], some ⟨0, 1, 0, 0, 0, 0, 0⟩⟩ : Value Rat) :=
  reduction_laws rfl rfl rfl

end Value

end Orders

end MeshLang
