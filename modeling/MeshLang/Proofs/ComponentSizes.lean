import Mathlib.Data.List.TakeWhile
import MeshLang.Proofs.Scalar.Exact
import MeshLang.Proofs.Value.Components

namespace MeshLang.Value

variable {α : Type}

def Clash (components : List (Value α)) : Prop :=
  ∃ v ∈ components, ∃ w ∈ components,
    v.isConstant = false ∧ w.isConstant = false ∧ v.size ≠ w.size

variable [Scalar α]

def TagsCombine (components : List (Value α)) : Prop := ∃ tag, addTags none components = .ok tag

/-- A value lies where its components do and has as many elements, each with the elements of the
components as its entries. A constant is the same for all elements. -/
structure AssembledFrom (kind : Kind) (components : List (Value α)) (v : Value α) : Prop where
  ofKind : v.kind = kind
  tagged : addTags none components = .ok v.dimensions
  constant : (∀ c ∈ components, c.isConstant = true) → v.location = none ∧ v.size = 1
  located : ∀ c ∈ components, c.isConstant = false → v.location = c.location ∧ v.size = c.size
  entries : ∀ (k : Nat) (part : Component) (c : Value α), kind.components[k]? = some part →
    components[k]? = some c →
    ∃ u, v.component? part.text = some u ∧ u.size = v.size ∧
      ∀ i < v.size, u.element? i = if c.isConstant then c.element? 0 else c.element? i

/-- A constructor refuses components whose sizes differ, saying so unless it finds fault with their
tags, and accepts all others whose tags can be combined. Sizes are compared with that of the first
component only, which compares nothing where that is a constant. -/
structure ChecksSizes (kind : Kind) (components : List (Value α)) : Prop where
  refused : Clash components → ∃ error, build kind components = .error error
  blamed : Clash components → TagsCombine components →
    ∃ left right, build kind components = .error (.sizeMismatch left right)
  assembled : ¬Clash components → TagsCombine components →
    ∃ v, build kind components = .ok v ∧ v.AssembledFrom kind components

section Components

variable {location : Location} {first : Value α} {rest : List (Value α)} {kind : Kind}

omit [Scalar α] in
theorem IsPart.location_eq {v : Value α} (part : v.IsPart location) (placed : v.isConstant = false) :
    v.location = some location := by
  cases part with
  | constant => cases placed
  | located => rfl

omit [Scalar α] in
theorem IsPart.size_eq_one {v : Value α} (part : v.IsPart location) (constant : v.isConstant = true) :
    v.size = 1 := by
  cases part with
  | constant => rfl
  | located => cases constant

omit [Scalar α] in
/-- Behind a located component, sizes differ just where one differs from the first. -/
theorem clash_iff (placed : first.isConstant = false) :
    Clash (first :: rest) ↔ ∃ v ∈ rest, first.joins v = false := by
  constructor
  · rintro ⟨v, here, w, there, left, right, apart⟩
    by_contra none
    have same (u : Value α) (member : u ∈ first :: rest) (located : u.isConstant = false) :
        u.size = first.size := by
      rcases List.mem_cons.mp member with rfl | later
      · rfl
      · by_contra other
        exact none ⟨u, later, by simp [joins, located, other]⟩
    exact apart ((same v here left).trans (same w there right).symm)
  · rintro ⟨v, member, apart⟩
    obtain ⟨located, other⟩ : v.isConstant = false ∧ v.size ≠ first.size := by
      simpa [joins] using apart
    exact ⟨v, List.mem_cons_of_mem first member, first, List.mem_cons_self, located, placed, other⟩

omit [Scalar α] in
theorem find?_of_clash (placed : first.isConstant = false) (clash : Clash (first :: rest)) :
    ∃ v, rest.find? (!first.joins ·) = some v := by
  obtain ⟨v, member, apart⟩ := (clash_iff placed).mp clash
  exact Option.isSome_iff_exists.mp (List.find?_isSome.mpr ⟨v, member, by simp [apart]⟩)

theorem TagsCombine.left {before after : List (Value α)} (combine : TagsCombine (before ++ after)) :
    TagsCombine before := by
  obtain ⟨tag, tags⟩ := combine
  unfold addTags at tags
  rw [List.foldlM_append] at tags
  cases found : addTags none before with
  | ok tag => exact ⟨tag, found⟩
  | error error =>
    unfold addTags at found
    rw [found] at tags
    cases tags

theorem build_of_gather (parts : ∀ v ∈ first :: rest, v.IsPart location)
    (count : (first :: rest).length = kind.components.length) {gathered : Gathered α}
    (common : gather first rest = .ok gathered) :
    ∃ data, kind.assemble? (rows gathered.size (first :: rest)) = some data ∧
      build kind (first :: rest) = .ok ⟨kind, gathered.location, data, gathered.tag⟩ := by
  obtain ⟨data, assembled⟩ : ∃ data,
      kind.assemble? (rows gathered.size (first :: rest)) = some data := by
    cases kind with
    | logical | scalar => cases count
    | vector | tensor | symmTensor | sphericalTensor => exact ⟨_, rfl⟩
  refine ⟨data, assembled, ?_⟩
  rw [build_eq parts count, common]
  dsimp only [Except.bind]
  rw [assembled]

theorem build_of_error (parts : ∀ v ∈ first :: rest, v.IsPart location)
    (count : (first :: rest).length = kind.components.length) {error : FieldError α}
    (failed : gather first rest = .error error) : build kind (first :: rest) = .error error := by
  rw [build_eq parts count, failed]
  rfl

omit [Scalar α] in
theorem IsPart.spread_element {v : Value α} (part : v.IsPart location) {n : Nat}
    (whole : v.isConstant = false → n = v.size) :
    (spread n (v.scalars?.getD [])).length = n ∧ ∀ i < n,
      (spread n (v.scalars?.getD []))[i]? = if v.isConstant then v.element? 0 else v.element? i := by
  cases part with
  | constant x tag =>
    refine ⟨spread_length (.inr rfl), fun i below => ?_⟩
    simp [spread, scalars?, element?, isConstant, below]
  | located xs tag =>
    have all : xs.length = n := (whole rfl).symm
    refine ⟨spread_length (.inl all), fun i below => ?_⟩
    simp [spread_of_length all, scalars?, element?, isConstant]

theorem assembledFrom {components : List (Value α)} (unit : ∀ x : α, Scalar.one * x = x)
    (parts : ∀ v ∈ components, v.IsPart location)
    (count : components.length = kind.components.length) {gathered : Gathered α} {data : Data α}
    (assembled : kind.assemble? (rows gathered.size components) = some data)
    (tagged : addTags none components = .ok gathered.tag)
    (constant : (∀ c ∈ components, c.isConstant = true) →
      gathered.location = none ∧ gathered.size = 1)
    (located : ∀ c ∈ components, c.isConstant = false →
      gathered.location = c.location ∧ gathered.size = c.size) :
    AssembledFrom kind components ⟨kind, gathered.location, data, gathered.tag⟩ := by
  have size : data.size = gathered.size := by
    rw [(Kind.assemble?_made assembled).2, rows, List.length_map, List.length_range]
  have counted : ∀ e ∈ rows gathered.size components, e.length = kind.components.length := by
    intro e member
    obtain ⟨i, -, rfl⟩ := List.mem_map.mp member
    rw [List.length_map, count]
  refine ⟨rfl, tagged, fun all => ?_, fun c member placed => ?_, fun k part c named there => ?_⟩
  · exact ⟨(constant all).1, size.trans (constant all).2⟩
  · exact ⟨(located c member placed).1, size.trans (located c member placed).2⟩
  · have member := List.mem_of_getElem? there
    obtain ⟨length, elements⟩ :=
      (parts c member).spread_element fun placed => (located c member placed).2
    have column : (rows gathered.size components).map (·.getD k Scalar.zero) =
        spread gathered.size (c.scalars?.getD []) := by
      rw [rows, List.map_map, ← map_getD_range length Scalar.zero]
      exact List.map_congr_left fun i _ => by simp [there]
    have read := component?_assembled unit assembled counted named gathered.location gathered.tag
    rw [column] at read
    refine ⟨_, read, length.trans size.symm, fun i below => ?_⟩
    exact elements i (size ▸ below)

section Constant

variable {c : Value α}

omit [Scalar α] in
theorem mem_rest (constant : first.isConstant = true) (member : c ∈ first :: rest)
    (placed : c.isConstant = false) : c ∈ rest := by
  rcases List.mem_cons.mp member with rfl | later
  · rw [constant] at placed
    cases placed
  · exact later

omit [Scalar α] in
theorem findSome?_location (parts : ∀ v ∈ rest, v.IsPart location) (member : c ∈ rest)
    (placed : c.isConstant = false) : rest.findSome? (·.location) = c.location := by
  have here := (parts c member).location_eq placed
  cases found : rest.findSome? (·.location) with
  | none => exact (List.findSome?_eq_none_iff.mp found c member).symm
  | some other =>
    obtain ⟨v, later, there⟩ := List.exists_of_findSome?_eq_some found
    have located : v.isConstant = false := by simp [isConstant, there]
    rw [here, ← there, (parts v later).location_eq located]

omit [Scalar α] in
theorem foldl_size (parts : ∀ v ∈ first :: rest, v.IsPart location)
    (even : ¬Clash (first :: rest)) (member : c ∈ first :: rest) (placed : c.isConstant = false)
    (filled : 0 < c.size) : (rest.map size).foldl max first.size = c.size := by
  have bounded : ∀ v ∈ first :: rest, v.size ≤ c.size := by
    intro v beside
    cases located : v.isConstant with
    | true =>
      rw [(parts v beside).size_eq_one located]
      exact filled
    | false =>
      by_contra larger
      exact even ⟨v, beside, c, member, located, placed, by omega⟩
  have reached := foldl_max_le_iff.mp (Nat.le_refl ((rest.map size).foldl max first.size))
  apply Nat.le_antisymm
  · refine foldl_max_le_iff.mpr ⟨bounded first List.mem_cons_self, fun n there => ?_⟩
    obtain ⟨v, later, rfl⟩ := List.mem_map.mp there
    exact bounded v (List.mem_cons_of_mem first later)
  · rcases List.mem_cons.mp member with rfl | later
    · exact reached.1
    · exact reached.2 c.size (List.mem_map_of_mem later)

omit [Scalar α] in
theorem constants_alone (parts : ∀ v ∈ first :: rest, v.IsPart location)
    (all : ∀ v ∈ first :: rest, v.isConstant = true) :
    first.location.or (rest.findSome? (·.location)) = none ∧
      (rest.map size).foldl max first.size = 1 := by
  have nowhere (v : Value α) (member : v ∈ first :: rest) : v.location = none :=
    Option.isNone_iff_eq_none.mp (all v member)
  have single (v : Value α) (member : v ∈ first :: rest) : v.size = 1 :=
    (parts v member).size_eq_one (all v member)
  have least := (foldl_max_le_iff.mp (Nat.le_refl ((rest.map size).foldl max first.size))).1
  rw [single first List.mem_cons_self] at least ⊢
  refine ⟨?_, Nat.le_antisymm (foldl_max_le_iff.mpr ⟨Nat.le_refl 1, fun n there => ?_⟩) least⟩
  · refine Option.or_eq_none_iff.mpr ⟨nowhere first List.mem_cons_self, ?_⟩
    exact List.findSome?_eq_none_iff.mpr fun v later => nowhere v (List.mem_cons_of_mem first later)
  · obtain ⟨v, later, rfl⟩ := List.mem_map.mp there
    exact Nat.le_of_eq (single v (List.mem_cons_of_mem first later))

end Constant

theorem checksSizes_of_located (unit : ∀ x : α, Scalar.one * x = x)
    (parts : ∀ v ∈ first :: rest, v.IsPart location)
    (count : (first :: rest).length = kind.components.length) (placed : first.isConstant = false) :
    ChecksSizes kind (first :: rest) := by
  have common := gather_located parts placed
  refine ⟨fun clash => ?_, fun clash combine => ?_, fun even combine => ?_⟩
  · obtain ⟨v, other⟩ := find?_of_clash placed clash
    rw [other] at common
    cases tags : addTags none (first :: rest.takeWhile first.joins) with
    | ok tag => exact ⟨_, build_of_error parts count (common.trans (by rw [tags]; rfl))⟩
    | error error => exact ⟨_, build_of_error parts count (common.trans (by rw [tags]; rfl))⟩
  · obtain ⟨v, other⟩ := find?_of_clash placed clash
    have split : TagsCombine
        ((first :: rest.takeWhile first.joins) ++ rest.dropWhile first.joins) := by
      rw [List.cons_append, List.takeWhile_append_dropWhile]
      exact combine
    obtain ⟨tag, tags⟩ := split.left
    rw [other, tags] at common
    exact ⟨_, _, build_of_error parts count common⟩
  · have joined : ∀ v ∈ rest, first.joins v = true := fun v member =>
      Bool.of_not_eq_false fun apart => even ((clash_iff placed).mpr ⟨v, member, apart⟩)
    have found : rest.find? (!first.joins ·) = none :=
      List.find?_eq_none.mpr fun v member => by simp [joined v member]
    obtain ⟨tag, tags⟩ := combine
    rw [found, List.takeWhile_eq_self_iff.mpr joined, tags] at common
    obtain ⟨data, assembled, built⟩ := build_of_gather parts count common
    refine ⟨_, built, assembledFrom unit parts count assembled tags (fun all => ?_) ?_⟩
    · have constant := all first List.mem_cons_self
      rw [placed] at constant
      cases constant
    · intro c member located
      have here := (parts first List.mem_cons_self).location_eq placed
      refine ⟨here.trans ((parts c member).location_eq located).symm, ?_⟩
      by_contra apart
      exact even ⟨first, List.mem_cons_self, c, member, placed, located, apart⟩

theorem checksSizes_constant_iff (unit : ∀ x : α, Scalar.one * x = x)
    (parts : ∀ v ∈ first :: rest, v.IsPart location)
    (count : (first :: rest).length = kind.components.length) (constant : first.isConstant = true) :
    ChecksSizes kind (first :: rest) ↔ (TagsCombine (first :: rest) →
      ¬Clash (first :: rest) ∧ ∀ v ∈ rest, v.isConstant = false → 0 < v.size) := by
  have common := gather_constant parts constant
  constructor
  · intro checks combine
    obtain ⟨tag, tags⟩ := combine
    rw [tags] at common
    obtain ⟨data, assembled, built⟩ := build_of_gather parts count common
    have even : ¬Clash (first :: rest) := by
      intro clash
      obtain ⟨error, failed⟩ := checks.refused clash
      rw [built] at failed
      cases failed
    refine ⟨even, fun v later placed => ?_⟩
    obtain ⟨w, again, made⟩ := checks.assembled even ⟨tag, tags⟩
    rw [built] at again
    cases again
    have size : data.size = v.size := (made.located v (List.mem_cons_of_mem first later) placed).2
    rw [(Kind.assemble?_made assembled).2, rows, List.length_map, List.length_range] at size
    have single := (parts first List.mem_cons_self).size_eq_one constant
    have least := (foldl_max_le_iff.mp (Nat.le_of_eq size)).1
    omega
  · intro duty
    refine ⟨fun clash => ?_, fun clash combine => absurd clash (duty combine).1, ?_⟩
    · cases tags : addTags none (first :: rest) with
      | ok tag => exact absurd clash (duty ⟨tag, tags⟩).1
      | error error => exact ⟨error, build_of_error parts count (common.trans (by rw [tags]; rfl))⟩
    · intro even combine
      have filled := (duty combine).2
      obtain ⟨tag, tags⟩ := combine
      rw [tags] at common
      obtain ⟨data, assembled, built⟩ := build_of_gather parts count common
      refine ⟨_, built, assembledFrom unit parts count assembled tags (constants_alone parts) ?_⟩
      intro c member placed
      have later := mem_rest constant member placed
      have others := fun v member => parts v (List.mem_cons_of_mem first member)
      refine ⟨?_, foldl_size parts even member placed (filled c later placed)⟩
      show first.location.or (rest.findSome? (·.location)) = c.location
      rw [findSome?_location others later placed, Option.isNone_iff_eq_none.mp constant]
      rfl

/-- A constructor does its duty exactly if the first component is located or if, by chance, there is
nothing to refuse. -/
theorem checksSizes_iff (unit : ∀ x : α, Scalar.one * x = x)
    (parts : ∀ v ∈ first :: rest, v.IsPart location)
    (count : (first :: rest).length = kind.components.length) :
    ChecksSizes kind (first :: rest) ↔
      (first.isConstant = true → TagsCombine (first :: rest) →
        ¬Clash (first :: rest) ∧ ∀ v ∈ rest, v.isConstant = false → 0 < v.size) := by
  cases constant : first.isConstant with
  | true => simp [checksSizes_constant_iff unit parts count constant]
  | false => simp [checksSizes_of_located unit parts count constant]

end Components

def uneven (first : Value Rat) : List (Value Rat) :=
  [first, .scalar .volume [5], .scalar .volume [1, 2, 3]]

theorem uneven_parts {first : Value Rat} (part : first.IsPart .volume) :
    ∀ v ∈ uneven first, v.IsPart .volume := by
  simp only [uneven, List.mem_cons, List.not_mem_nil, or_false, forall_eq_or_imp, forall_eq]
  exact ⟨part, .located [5] none, .located [1, 2, 3] none⟩

theorem uneven_clash (first : Value Rat) : Clash (uneven first) :=
  ⟨.scalar .volume [5], by simp [uneven], .scalar .volume [1, 2, 3], by simp [uneven], rfl, rfl,
    by decide⟩

theorem checksSizes_uneven :
    let first : Value Rat := .scalar .volume [0]
    (∀ x : Rat, Scalar.one * x = x) ∧ (∀ v ∈ uneven first, v.IsPart .volume) ∧
      (uneven first).length = Kind.vector.components.length ∧ ChecksSizes .vector (uneven first) := by
  intro first
  have unit : ∀ x : Rat, Scalar.one * x = x := fun x => one_mul x
  have parts := uneven_parts (.located [0] none)
  exact ⟨unit, parts, rfl, (checksSizes_iff unit parts rfl).mpr nofun⟩

/-- Behind a constant, one element is repeated beside three others. -/
theorem not_checksSizes_uneven :
    let first : Value Rat := .constantScalar 0
    (∀ v ∈ uneven first, v.IsPart .volume) ∧
      (uneven first).length = Kind.vector.components.length ∧
      build .vector (uneven first) = .ok (.vector .volume [⟨0, 5, 1⟩, ⟨0, 5, 2⟩, ⟨0, 5, 3⟩]) ∧
      ¬ChecksSizes .vector (uneven first) := by
  intro first
  have built : build .vector (uneven first) =
      .ok (.vector .volume [⟨0, 5, 1⟩, ⟨0, 5, 2⟩, ⟨0, 5, 3⟩]) := rfl
  refine ⟨uneven_parts (.constant 0 none), rfl, built, fun checks => ?_⟩
  obtain ⟨error, failed⟩ := checks.refused (uneven_clash first)
  rw [built] at failed
  cases failed

end MeshLang.Value
