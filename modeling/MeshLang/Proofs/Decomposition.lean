import MeshLang.Proofs.ComponentSizes
import MeshLang.Proofs.Tensor.Functions
import MeshLang.Proofs.Tensor.Space

namespace MeshLang

variable {α : Type}

theorem eq_of_readings {ε ι β : Type} (read : ε → ι → β) {parts : List ι} {xs ys : List ε}
    (some : parts ≠ []) (same : ∀ part ∈ parts, xs.map (read · part) = ys.map (read · part))
    (apart : ∀ x ∈ xs, ∀ y ∈ ys, (∀ part ∈ parts, read x part = read y part) → x = y) : xs = ys := by
  obtain ⟨part, member⟩ := List.exists_mem_of_ne_nil parts some
  have length : xs.length = ys.length := by simpa using congrArg List.length (same part member)
  refine List.ext_getElem length fun i left right => ?_
  refine apart _ (List.getElem_mem left) _ (List.getElem_mem right) fun part member => ?_
  have here : (xs.map (read · part))[i]? = (ys.map (read · part))[i]? := by rw [same part member]
  simpa [left, right] using here

section Separation

variable [ExactScalar α] {kind : Kind}

theorem Mat3.eq_of_parts (matrix : kind.shape = .matrix) {m n : Mat3 α} (left : kind.Admits m)
    (right : kind.Admits n) (same : ∀ part ∈ kind.components, m.part part = n.part part) : m = n := by
  have cell (row column : Axis) (named : .cell row column ∈ kind.components) :
      m.entry row column = n.entry row column := same (.cell row column) named
  cases kind with
  | logical | scalar | vector => cases matrix
  | tensor =>
    ext
    · exact cell .x .x (by decide)
    · exact cell .x .y (by decide)
    · exact cell .x .z (by decide)
    · exact cell .y .x (by decide)
    · exact cell .y .y (by decide)
    · exact cell .y .z (by decide)
    · exact cell .z .x (by decide)
    · exact cell .z .y (by decide)
    · exact cell .z .z (by decide)
  | symmTensor =>
    -- below the diagonal stand the entries from above it
    obtain ⟨yx, zx, zy⟩ := Mat3.isSymmetric_iff.mp left
    obtain ⟨yx', zx', zy'⟩ := Mat3.isSymmetric_iff.mp right
    have xy : m.xy = n.xy := cell .x .y (by decide)
    have xz : m.xz = n.xz := cell .x .z (by decide)
    have yz : m.yz = n.yz := cell .y .z (by decide)
    ext
    · exact cell .x .x (by decide)
    · exact xy
    · exact xz
    · rw [yx, yx', xy]
    · exact cell .y .y (by decide)
    · exact yz
    · rw [zx, zx', xz]
    · rw [zy, zy', yz]
    · exact cell .z .z (by decide)
  | sphericalTensor =>
    obtain ⟨a, rfl⟩ := left
    obtain ⟨b, rfl⟩ := right
    have factor := same .isotropic (by decide)
    simp only [Mat3.part, Mat3.isotropic_eq] at factor
    rw [factor]

theorem Data.eq_of_entries (constructible : kind.components ≠ []) {left right : Data α}
    (stored : left.stores kind = true) (stored' : right.stores kind = true)
    (admitted : left.Matrices kind.Admits) (admitted' : right.Matrices kind.Admits)
    (same : ∀ part ∈ kind.components, left.entries part = right.entries part) : left = right := by
  have shape := (stores_iff left kind).mp stored
  have shape' := (stores_iff right kind).mp stored'
  cases form : kind.shape with
  | number => cases kind <;> first | exact absurd rfl constructible | cases form
  | vector =>
    obtain ⟨xs, rfl⟩ := of_vector (shape.trans form)
    obtain ⟨ys, rfl⟩ := of_vector (shape'.trans form)
    cases kind <;> cases form
    refine congrArg Data.vector (eq_of_readings Vec3.entry (List.cons_ne_nil .x [.y, .z])
      (fun axis _ => same (.entry axis) (by cases axis <;> decide)) ?_)
    intro x _ y _ entries
    ext
    · exact entries .x (by decide)
    · exact entries .y (by decide)
    · exact entries .z (by decide)
  | matrix =>
    obtain ⟨ms, rfl⟩ := of_matrix (shape.trans form)
    obtain ⟨ns, rfl⟩ := of_matrix (shape'.trans form)
    refine congrArg Data.tensor (eq_of_readings Mat3.part constructible same ?_)
    exact fun m here n there parts => Mat3.eq_of_parts form (admitted m here) (admitted' n there) parts

end Separation

namespace Value

section Assembling

variable [Scalar α] {v w : Value α} {location : Location} {kind : Kind} {components : List (Value α)}

/-- A value that has certain components: it lies where they do, with as many elements, and each of them
is read back at that place, as it was or, if it is a constant, repeated. -/
structure HasComponents (kind : Kind) (components : List (Value α)) (v : Value α) : Prop
    extends AssembledFrom kind components v where
  placed : ∀ part u, v.component? part = some u → u.location = v.location

theorem build_of_even (unit : ∀ x : α, Scalar.one * x = x) (constructible : kind.components ≠ [])
    (parts : ∀ c ∈ components, c.IsPart location)
    (count : components.length = kind.components.length) (combine : TagsCombine components) {n : Nat}
    (even : ∀ c ∈ components, c.isConstant = false → c.size = n)
    (filled : ∀ c ∈ components, c.isConstant = true → n ≠ 0) :
    ∃ v, build kind components = .ok v ∧ v.AssembledFrom kind components := by
  cases components with
  | nil => exact absurd (List.length_eq_zero_iff.mp count.symm) constructible
  | cons first rest =>
    have joined : ¬Clash (first :: rest) := by
      rintro ⟨c, here, d, there, placed, placed', apart⟩
      exact apart ((even c here placed).trans (even d there placed').symm)
    refine ChecksSizes.assembled ?_ joined combine
    cases constant : first.isConstant with
    | false => exact checksSizes_of_located unit parts count constant
    | true =>
      refine (checksSizes_constant_iff unit parts count constant).mpr fun _ => ⟨joined, ?_⟩
      intro c member placed
      rw [even c (List.mem_cons_of_mem first member) placed]
      exact Nat.pos_of_ne_zero (filled first List.mem_cons_self constant)

end Assembling

section Tags

variable [ExactScalar α] [LinearOrder α] [OrderedScalar α]

theorem addTags_same {tag : Option (Dimensions α)} {components : List (Value α)}
    (same : ∀ c ∈ components, c.dimensions = tag) (some : components ≠ []) :
    addTags none components = .ok tag := by
  have further (rest : List (Value α)) (all : ∀ c ∈ rest, c.dimensions = tag) :
      addTags tag rest = .ok tag := by
    induction rest with
    | nil => rfl
    | cons c rest ih =>
      rw [addTags, List.foldlM_cons, all c List.mem_cons_self, sumTag_self]
      exact ih fun d member => all d (List.mem_cons_of_mem c member)
  cases components with
  | nil => exact absurd rfl some
  | cons first rest =>
    rw [addTags, List.foldlM_cons, same first List.mem_cons_self]
    exact further rest fun c member => same c (List.mem_cons_of_mem first member)

end Tags

section Disassembling

variable {v : Value α}

def parts (v : Value α) : List (Value α) := v.kind.components.map v.part

theorem component?_parts (stored : v.data.stores v.kind = true) :
    v.kind.components.map (v.component? ·.text) = v.parts.map some := by
  rw [parts, List.map_map]
  exact List.map_congr_left fun _ named => component?_eq stored named

theorem location_of_mem_parts {c : Value α} (member : c ∈ v.parts) : c.location = v.location := by
  obtain ⟨component, -, rfl⟩ := List.mem_map.mp member
  rfl

theorem isConstant_of_mem_parts {c : Value α} (member : c ∈ v.parts) : c.isConstant = v.isConstant :=
  congrArg Option.isNone (location_of_mem_parts member)

theorem dimensions_of_mem_parts {c : Value α} (member : c ∈ v.parts) :
    c.dimensions = v.dimensions := by
  obtain ⟨component, -, rfl⟩ := List.mem_map.mp member
  rfl

theorem parts_filled (constructible : v.kind.components ≠ []) : v.parts ≠ [] := by
  simpa [parts] using constructible

variable [ExactScalar α] {location : Location}

/-- A value whose elements are as its kind says, a single one if it is a constant. -/
structure Whole (v : Value α) : Prop where
  regular : v.Regular
  single : v.isConstant = true → v.size = 1

namespace Whole

variable {c : Value α}

theorem part_size (whole : v.Whole) (member : c ∈ v.parts) : c.size = v.size := by
  obtain ⟨component, named, rfl⟩ := List.mem_map.mp member
  exact (Data.hasPart whole.regular.stored named).entries_length

theorem part_isPart (whole : v.Whole) (placed : v.location.all (· == location)) (member : c ∈ v.parts) :
    c.IsPart location := by
  have size := whole.part_size member
  obtain ⟨component, named, rfl⟩ := List.mem_map.mp member
  unfold part
  cases place : v.location with
  | some other =>
    rw [place] at placed
    obtain rfl : other = location := by simpa using placed
    exact .located _ _
  | none =>
    have constant : v.isConstant = true := by rw [isConstant, place]; rfl
    obtain ⟨x, single⟩ := List.length_eq_one_iff.mp (size.trans (whole.single constant))
    rw [single]
    exact .constant x _

end Whole

section Reassembled

variable {w : Value α} (constructible : v.kind.components ≠ []) (whole : v.Whole)
  (made : w.AssembledFrom v.kind v.parts)

include constructible whole made

theorem place_of_assembledFrom : w.location = v.location ∧ w.size = v.size := by
  cases constant : v.isConstant with
  | true =>
    obtain ⟨place, one⟩ := made.constant fun c member =>
      (isConstant_of_mem_parts member).trans constant
    exact ⟨place.trans (Option.isNone_iff_eq_none.mp constant).symm,
      one.trans (whole.single constant).symm⟩
  | false =>
    obtain ⟨c, member⟩ := List.exists_mem_of_ne_nil _ (parts_filled constructible)
    obtain ⟨place, size⟩ := made.located c member ((isConstant_of_mem_parts member).trans constant)
    exact ⟨place.trans (location_of_mem_parts member), size.trans (whole.part_size member)⟩

theorem entries_of_assembledFrom (regular : w.Regular) {component : Component}
    (named : component ∈ v.kind.components) :
    w.data.entries component = v.data.entries component := by
  obtain ⟨-, size⟩ := place_of_assembledFrom constructible whole made
  obtain ⟨k, at_k⟩ := List.mem_iff_getElem?.mp named
  have there : v.parts[k]? = some (v.part component) := by simp [parts, at_k]
  obtain ⟨u, read, length, elements⟩ := made.entries k component _ at_k there
  rw [component?_eq regular.stored (made.ofKind.symm ▸ named), Option.some.injEq] at read
  subst read
  have held : (w.data.entries component).length = w.size := length
  have kept : (v.data.entries component).length = v.size :=
    whole.part_size (List.mem_of_getElem? there)
  refine List.ext_getElem? fun i => ?_
  by_cases inside : i < w.size
  · cases constant : v.isConstant with
    | false => exact (elements i inside).trans (if_neg (Bool.eq_false_iff.mp constant))
    | true =>
      have one := whole.single constant
      obtain rfl : i = 0 := by omega
      exact (elements 0 inside).trans (if_pos constant)
  · rw [List.getElem?_eq_none (by omega), List.getElem?_eq_none (by omega)]

variable [LinearOrder α] [OrderedScalar α]

theorem eq_of_assembledFrom (regular : w.Regular) : w = v := by
  obtain ⟨place, -⟩ := place_of_assembledFrom constructible whole made
  have tag : w.dimensions = v.dimensions := by
    have tagged := made.tagged
    rw [addTags_same (fun c => dimensions_of_mem_parts) (parts_filled constructible),
      Except.ok.injEq] at tagged
    exact tagged.symm
  have data : w.data = v.data :=
    Data.eq_of_entries constructible (made.ofKind ▸ regular.stored) whole.regular.stored
      (made.ofKind ▸ regular.matrices) whole.regular.matrices fun component named =>
        entries_of_assembledFrom constructible whole made regular named
  obtain ⟨kind, location, held, dimensions⟩ := w
  obtain rfl : kind = v.kind := made.ofKind
  dsimp only at place tag data
  rw [place, tag, data]

end Reassembled

variable [LinearOrder α] [OrderedScalar α]

theorem build_parts (constructible : v.kind.components ≠ []) (whole : v.Whole) :
    build v.kind v.parts = .ok v := by
  have combine : TagsCombine v.parts :=
    ⟨v.dimensions, addTags_same (fun c => dimensions_of_mem_parts) (parts_filled constructible)⟩
  have placed : ∀ c ∈ v.parts, c.IsPart (v.location.getD .volume) := fun c =>
    whole.part_isPart (by cases v.location <;> simp)
  have even : ∀ c ∈ v.parts, c.isConstant = false → c.size = v.size := fun c member _ =>
    whole.part_size member
  have solid : ∀ c ∈ v.parts, c.isConstant = true → v.size ≠ 0 := by
    intro c member constant
    rw [whole.single ((isConstant_of_mem_parts member).symm.trans constant)]
    exact Nat.one_ne_zero
  have unit (x : α) : Scalar.one * x = x := by rw [ExactScalar.one_eq, one_mul]
  obtain ⟨w, built, made⟩ :=
    build_of_even unit constructible placed (List.length_map _) combine even solid
  have regular : w.Regular := (build_keeps v.kind v.parts).of_ok built
  rwa [eq_of_assembledFrom constructible whole made regular] at built

/-- Constructors and components undo one another: a value is made again of its components, and
components of one size that is not zero are read back from what is made of them. -/
theorem constructor_inverse {kind : Kind} (constructible : kind.components ≠ []) :
    (∀ v : Value α, v.kind = kind → v.Whole → ∃ components,
      kind.components.map (v.component? ·.text) = components.map some ∧
        build kind components = .ok v) ∧
    ∀ (location : Location) (components : List (Value α)) (n : Nat),
      (∀ c ∈ components, c.IsPart location) → components.length = kind.components.length →
      n ≠ 0 → (∀ c ∈ components, c.isConstant = false → c.size = n) → TagsCombine components →
      ∃ v, build kind components = .ok v ∧ v.HasComponents kind components := by
  refine ⟨?_, fun location components n parts count solid even combine => ?_⟩
  · rintro v rfl whole
    exact ⟨v.parts, component?_parts whole.regular.stored, build_parts constructible whole⟩
  · have unit (x : α) : Scalar.one * x = x := by rw [ExactScalar.one_eq, one_mul]
    obtain ⟨v, built, made⟩ :=
      build_of_even unit constructible parts count combine even fun _ _ _ => solid
    exact ⟨v, built, made, fun part u => component?_location⟩

/-- Two stresses with the tag of a pressure, and a vector of which one component is constant. -/
theorem constructor_inverse_stress :
    let stress : Value Rat :=
      ⟨.symmTensor, some .volume, .tensor [⟨1, 2, 3, 2, 4, 5, 3, 5, 6⟩, ⟨7, 0, -1, 0, 7, 0, -1, 0, 7⟩],
        some ⟨1, -1, -2, 0, 0, 0, 0⟩⟩
    let entries : List (Value Rat) :=
      [.scalar .volume [1, 2], .constantScalar 3, .scalar .volume [4, 5]]
    (∃ components, Kind.symmTensor.components.map (stress.component? ·.text) = components.map some ∧
      build .symmTensor components = .ok stress) ∧
    ∃ v, build .vector entries = .ok v ∧ v.HasComponents .vector entries := by
  intro stress entries
  have whole : stress.Whole := by
    refine ⟨⟨rfl, ?_⟩, fun constant => by cases constant⟩
    simp [stress, Data.Matrices, Kind.Admits, Mat3.isSymmetric_iff]
  have parts : ∀ c ∈ entries, c.IsPart .volume := by
    intro c member
    simp only [entries, List.mem_cons, List.not_mem_nil, or_false] at member
    rcases member with rfl | rfl | rfl
    · exact .located _ _
    · exact .constant _ _
    · exact .located _ _
  have even : ∀ c ∈ entries, c.isConstant = false → c.size = 2 := by decide
  exact ⟨(constructor_inverse (by decide)).1 stress rfl whole,
    (constructor_inverse (by decide)).2 .volume entries 2 parts rfl (by decide) even ⟨none, rfl⟩⟩

end Disassembling

end Value

end MeshLang
