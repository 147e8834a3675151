import Mathlib.Data.List.GetD
import MeshLang.Proofs.Derivatives
import MeshLang.Proofs.MaximumPrinciple
import MeshLang.Proofs.Tensor.Vectors
import MeshLang.Repository.Mapping

namespace MeshLang

variable {α : Type} [ExactScalar α] [LinearOrder α]

/-- The first one of the centres that are nearest to a place. -/
structure IsNearest (place : Vec3 α) (centres : List (Vec3 α)) (index : Nat) (centre : Vec3 α) :
    Prop where
  listed : centres[index]? = some centre
  least : ∀ other ∈ centres, (centre - place).normSquared ≤ (other - place).normSquared
  first : ∀ before < index, ∀ other, centres[before]? = some other →
    (centre - place).normSquared < (other - place).normSquared

namespace IsNearest

variable {place centre next : Vec3 α} {centres : List (Vec3 α)} {index : Nat}

theorem single (place centre : Vec3 α) : IsNearest place [centre] 0 centre where
  listed := rfl
  least other member := by rw [List.mem_singleton.mp member]
  first before below := absurd below (Nat.not_lt_zero before)

theorem append (nearest : IsNearest place centres index centre)
    (farther : (centre - place).normSquared ≤ (next - place).normSquared) :
    IsNearest place (centres ++ [next]) index centre := by
  have inside : index < centres.length := (List.getElem?_eq_some_iff.mp nearest.listed).1
  refine ⟨?_, fun other member => ?_, fun before below other found => ?_⟩
  · rw [List.getElem?_append_left inside]
    exact nearest.listed
  · rcases List.mem_append.mp member with old | new
    · exact nearest.least other old
    · rwa [List.mem_singleton.mp new]
  · rw [List.getElem?_append_left (below.trans inside)] at found
    exact nearest.first before below other found

theorem replace (nearest : IsNearest place centres index centre)
    (nearer : (next - place).normSquared < (centre - place).normSquared) :
    IsNearest place (centres ++ [next]) centres.length next := by
  refine ⟨by simp, fun other member => ?_, fun before below other found => ?_⟩
  · rcases List.mem_append.mp member with old | new
    · exact nearer.le.trans (nearest.least other old)
    · rw [List.mem_singleton.mp new]
  · rw [List.getElem?_append_left below] at found
    exact nearer.trans_le (nearest.least other (List.mem_of_getElem? found))

theorem unique {other : Nat} {last : Vec3 α} (nearest : IsNearest place centres index centre)
    (also : IsNearest place centres other last) : index = other := by
  rcases lt_trichotomy index other with before | same | behind
  · have less := also.first index before centre nearest.listed
    exact absurd (nearest.least last (List.mem_of_getElem? also.listed)) less.not_ge
  · exact same
  · have less := nearest.first other behind last also.listed
    exact absurd (also.least centre (List.mem_of_getElem? nearest.listed)) less.not_ge

variable [OrderedScalar α]

theorem self (apart : centres.Nodup) (listed : centres[index]? = some centre) :
    IsNearest centre centres index centre := by
  have here : (centre - centre).normSquared = 0 := Vec3.normSquared_eq_zero.mpr (sub_self centre)
  refine ⟨listed, fun other _ => ?_, fun before below other found => ?_⟩
  · rw [here]
    exact Vec3.normSquared_nonneg _
  · rw [here]
    refine lt_of_le_of_ne (Vec3.normSquared_nonneg _) fun touching => ?_
    have same : other = centre := sub_eq_zero.mp (Vec3.normSquared_eq_zero.mp touching.symm)
    subst same
    have inside := (List.getElem?_eq_some_iff.mp found).1
    exact below.ne ((List.getElem?_inj inside apart).mp (found.trans listed.symm))

end IsNearest

namespace Mesh

variable [SortedScalar α]

/-- The search goes on from the best of the centres seen so far. -/
theorem nearestFrom_isNearest {place centre : Vec3 α} {index : Nat} :
    ∀ {seen : List (Vec3 α)} (rest : List (Vec3 α)), IsNearest place seen index centre →
      ∃ nearest, IsNearest place (seen ++ rest)
        (nearestFrom place index (centre - place).normSquared seen.length rest) nearest := by
  intro seen rest
  induction rest generalizing seen index centre with
  | nil =>
    intro nearest
    rw [List.append_nil]
    exact ⟨centre, nearest⟩
  | cons next rest ih =>
    intro nearest
    have split : seen ++ next :: rest = (seen ++ [next]) ++ rest := by simp
    have count : seen.length + 1 = (seen ++ [next]).length := by simp
    rw [split]
    unfold nearestFrom
    dsimp only
    split
    · rename_i farther
      rw [count]
      exact ih (nearest.append ((SortedScalar.totalLe_iff _ _).mp farther))
    · rename_i nearer
      rw [count]
      have closer := lt_of_not_ge fun farther => nearer ((SortedScalar.totalLe_iff _ _).mpr farther)
      exact ih (nearest.replace closer)

theorem nearestCell_isNearest {mesh : Mesh α} (cells : 0 < mesh.cells.length) (place : Vec3 α) :
    ∃ centre, IsNearest place mesh.cellCentres (mesh.nearestCell place) centre := by
  unfold nearestCell
  cases centres : mesh.cellCentres with
  | nil =>
    have none := congrArg List.length centres
    rw [cellCentres, List.length_map, List.length_nil] at none
    omega
  | cons first rest => exact nearestFrom_isNearest rest (.single place first)

end Mesh

end MeshLang

namespace MeshLang

variable {α : Type} [ExactScalar α]

theorem Data.gather_range {data : Data α} {n : Nat} (all : data.size = n) :
    data.gather (List.range n) = data := by
  cases data with
  | scalar xs => exact congrArg Data.scalar (map_getD_range all _)
  | vector xs => exact congrArg Data.vector (map_getD_range all _)
  | tensor xs => exact congrArg Data.tensor (map_getD_range all _)

namespace Mesh

section Ways

variable {source target : Mesh α} {kind : Kind} {tag : Option (Dimensions α)}

theorem mapCells_gather {order : MappingOrder} {v : Value α} (all : v.size = source.cells.length)
    (copied : order = .nearest ∨ v.data.shape = .matrix) :
    source.mapCells target order v =
      .ok ⟨v.kind, some .volume, v.data.gather (target.cellCentres.map source.nearestCell),
        v.dimensions⟩ := by
  unfold mapCells
  rw [if_neg (not_not.mpr all)]
  rcases copied with rfl | matrices
  · rfl
  · obtain ⟨values, held⟩ := Data.of_matrix matrices
    rw [held]
    cases order <;> rfl

theorem mapCells_scalars {xs : List α} (all : xs.length = source.cells.length) :
    source.mapCells target .linear ⟨kind, some .volume, .scalar xs, tag⟩ =
      .ok ⟨kind, some .volume,
        .scalar (source.extend Vec3.dot xs (source.scalarGradients xs) target.cellCentres), tag⟩ :=
  if_neg (not_not.mpr all)

theorem mapCells_vectors {xs : List (Vec3 α)} (all : xs.length = source.cells.length) :
    source.mapCells target .linear ⟨kind, some .volume, .vector xs, tag⟩ =
      .ok ⟨kind, some .volume,
        .vector (source.extend (fun m => m.transpose.apply) xs (source.vectorGradients xs)
          target.cellCentres), tag⟩ :=
  if_neg (not_not.mpr all)

theorem centreOf_listed {mesh : Mesh α} {cell : Nat} {centre : Vec3 α}
    (listed : mesh.cellCentres[cell]? = some centre) : mesh.centreOf cell = centre := by
  rw [cellCentres, List.getElem?_map] at listed
  rw [centreOf, listed, Option.getD_some]

theorem gradients_column (mesh : Mesh α) (values : List (Vec3 α)) (cell : Nat) (axis : Axis) :
    ((mesh.vectorGradients values).getD cell Element.zero).column axis =
      (mesh.scalarGradients (values.map (·.entry axis))).getD cell Element.zero := by
  have entries (row : Axis) :
      ((mesh.vectorGradients values).getD cell Element.zero).entry row axis =
        ((mesh.scalarGradients (values.map (·.entry axis))).getD cell Element.zero).entry row :=
    calc ((mesh.vectorGradients values).getD cell Element.zero).entry row axis
        = ((mesh.vectorGradients values).map (·.entry row axis)).getD cell Element.zero :=
          map_getD (Mat3.entryMap row axis) (mesh.vectorGradients values) cell
      _ = ((mesh.scalarGradients (values.map (·.entry axis))).map (·.entry row)).getD cell
            Element.zero := by rw [gradients_entry]
      _ = _ :=
          (map_getD (Vec3.entryMap row) (mesh.scalarGradients (values.map (·.entry axis))) cell).symm
  have x := entries .x
  have y := entries .y
  have z := entries .z
  cases axis <;> exact Vec3.ext x y z

theorem extend_entry (mesh : Mesh α) (values : List (Vec3 α)) (places : List (Vec3 α)) (axis : Axis) :
    (mesh.extend (fun m => m.transpose.apply) values (mesh.vectorGradients values) places).map
        (·.entry axis) =
      mesh.extend Vec3.dot (values.map (·.entry axis))
        (mesh.scalarGradients (values.map (·.entry axis))) places := by
  unfold extend
  rw [List.map_map]
  refine List.map_congr_left fun place _ => ?_
  have value := map_getD (Vec3.entryMap axis) values (mesh.nearestCell place)
  have slope := gradients_column mesh values (mesh.nearestCell place) axis
  dsimp only [Function.comp_apply]
  rw [← slope]
  refine Eq.trans ?_ (congrArg (· + _) value)
  cases axis <;> rfl

end Ways

variable [LinearOrder α]

/-- A rule holds for the source cell that is nearest to a cell of the target, and the way from its
centre. -/
def DonatesTo (source target : Mesh α) (cell : Nat) (rule : Nat → Vec3 α → Prop) : Prop :=
  ∃ place donor centre, target.cellCentres[cell]? = some place ∧
    IsNearest place source.cellCentres donor centre ∧ rule donor (place - centre)

def Copies (source target : Mesh α) {ε : Type} (cell : Nat) (xs : List ε) (y : ε) : Prop :=
  source.DonatesTo target cell fun donor _ => xs[donor]? = some y

/-- What a field in the cells of one mesh becomes on another one. -/
structure CarriesOver (source target : Mesh α) (v : Value α) : Prop where
  copies : 0 < source.cells.length → ∀ order, order = .nearest ∨ v.kind.isTensorLike = true →
    ∃ w, source.mapCells target order v = .ok w ∧ w.Fits target ∧
      w.isAt .volume [v.kind] = true ∧ w.dimensions = v.dimensions ∧
      v.data.Placewise (source.Copies target) w.data
  scalars : 0 < source.cells.length → v.kind = .scalar → ∃ xs slopes ys,
    v.data = .scalar xs ∧ source.grad v = .ok (.vector .volume slopes) ∧
    source.mapCells target .linear v = .ok ⟨.scalar, some .volume, .scalar ys, v.dimensions⟩ ∧
    ys.length = target.cells.length ∧
    ∀ cell y, ys[cell]? = some y → source.DonatesTo target cell fun donor offset =>
      ∃ x slope, xs[donor]? = some x ∧ slopes[donor]? = some slope ∧ y = x + slope.dot offset
  vectors : 0 < source.cells.length → v.kind = .vector → ∃ xs slopes ys,
    v.data = .vector xs ∧ source.grad v = .ok (.tensor .volume slopes) ∧
    source.mapCells target .linear v = .ok ⟨.vector, some .volume, .vector ys, v.dimensions⟩ ∧
    ys.length = target.cells.length ∧
    ∀ cell y, ys[cell]? = some y → source.DonatesTo target cell fun donor offset =>
      ∃ x slope, xs[donor]? = some x ∧ slopes[donor]? = some slope ∧
        ∀ axis, y.entry axis = x.entry axis + (slope.column axis).dot offset
  components : v.kind = .vector → ∀ w, source.mapCells target .linear v = .ok w →
    ∀ axis : Axis, ∃ part image, v.component? axis.text = some part ∧
      w.component? axis.text = some image ∧ source.mapCells target .linear part = .ok image
  unchanged : source.cellCentres.Nodup → ∀ order, source.mapCells source order v = .ok v

section Copying

variable [SortedScalar α] {source target : Mesh α}

theorem gather_copies (cells : 0 < source.cells.length) {data : Data α}
    (all : data.size = source.cells.length) :
    data.Placewise (source.Copies target)
      (data.gather (target.cellCentres.map source.nearestCell)) := by
  have copied {ε : Type} {xs : List ε} (all : xs.length = source.cells.length) (fallback : ε)
      (cell : Nat) (y : ε)
      (found : ((target.cellCentres.map source.nearestCell).map (xs.getD · fallback))[cell]? =
        some y) : source.Copies target cell xs y := by
    rw [List.map_map, List.getElem?_map] at found
    obtain ⟨place, listed, rfl⟩ := Option.map_eq_some_iff.mp found
    obtain ⟨centre, nearest⟩ := nearestCell_isNearest cells place
    refine ⟨place, _, centre, listed, nearest, ?_⟩
    have inside := (List.getElem?_eq_some_iff.mp nearest.listed).1
    rw [cellCentres, List.length_map, ← all] at inside
    rw [Function.comp_apply, List.getD_eq_getElem xs fallback inside]
    exact List.getElem?_eq_getElem inside
  cases data with
  | scalar xs => exact copied all _
  | vector xs => exact copied all _
  | tensor xs => exact copied all _

theorem extend_donates {ε δ : Type} [Element α ε] [Element α δ] {slope : δ → Vec3 α → ε}
    {values : List ε} {slopes : List δ} (cells : 0 < source.cells.length)
    (all : values.length = source.cells.length) (each : slopes.length = source.cells.length)
    {cell : Nat} {y : ε}
    (found : (source.extend slope values slopes target.cellCentres)[cell]? = some y) :
    source.DonatesTo target cell fun donor offset => ∃ x s, values[donor]? = some x ∧
      slopes[donor]? = some s ∧ y = Element.add x (slope s offset) := by
  rw [extend, List.getElem?_map] at found
  obtain ⟨place, listed, rfl⟩ := Option.map_eq_some_iff.mp found
  obtain ⟨centre, nearest⟩ := nearestCell_isNearest cells place
  refine ⟨place, _, centre, listed, nearest, ?_⟩
  have inside := (List.getElem?_eq_some_iff.mp nearest.listed).1
  rw [cellCentres, List.length_map] at inside
  refine ⟨_, _, List.getElem?_eq_getElem (all ▸ inside), List.getElem?_eq_getElem (each ▸ inside), ?_⟩
  dsimp only
  rw [List.getD_eq_getElem values _ (all ▸ inside), List.getD_eq_getElem slopes _ (each ▸ inside),
    centreOf_listed nearest.listed]

end Copying

section Identity

variable [SortedScalar α] {mesh : Mesh α}

theorem nearestCell_self (apart : mesh.cellCentres.Nodup) {cell : Nat} {centre : Vec3 α}
    (listed : mesh.cellCentres[cell]? = some centre) : mesh.nearestCell centre = cell := by
  have inside := (List.getElem?_eq_some_iff.mp listed).1
  rw [cellCentres, List.length_map] at inside
  obtain ⟨found, nearest⟩ := nearestCell_isNearest (Nat.zero_lt_of_lt inside) centre
  exact nearest.unique (.self apart listed)

theorem map_nearestCell (apart : mesh.cellCentres.Nodup) :
    mesh.cellCentres.map mesh.nearestCell = List.range mesh.cells.length := by
  apply List.ext_getElem (by simp [cellCentres])
  intro cell inside below
  rw [List.getElem_map, List.getElem_range]
  exact nearestCell_self apart (List.getElem?_eq_getElem (by simpa using inside))

theorem extend_self {ε δ : Type} [Element α ε] [AddCommGroup ε] [Module α ε] [LawfulElement α ε]
    [Element α δ] {slope : δ → Vec3 α → ε} (rests : ∀ s, slope s 0 = 0) {values : List ε}
    (slopes : List δ) (all : values.length = mesh.cells.length) (apart : mesh.cellCentres.Nodup) :
    mesh.extend slope values slopes mesh.cellCentres = values := by
  apply List.ext_getElem (by simp [extend, cellCentres, all])
  intro cell inside below
  have present : cell < mesh.cellCentres.length := by simpa [extend] using inside
  have listed := List.getElem?_eq_getElem present
  simp only [extend, List.getElem_map, nearestCell_self apart listed, centreOf_listed listed, sub_self,
    rests, LawfulElement.add_eq, add_zero, List.getD_eq_getElem?_getD, List.getElem?_eq_getElem below,
    Option.getD_some]

theorem mapCells_self {v : Value α} (fits : v.Fits mesh) (placed : v.location = some .volume)
    (apart : mesh.cellCentres.Nodup) (order : MappingOrder) : mesh.mapCells mesh order v = .ok v := by
  obtain ⟨kind, location, data, tag⟩ := v
  cases placed
  have all : data.size = mesh.cells.length := fits.sized
  have gathered : data.gather (mesh.cellCentres.map mesh.nearestCell) = data := by
    rw [map_nearestCell apart, Data.gather_range all]
  cases order with
  | nearest =>
    rw [mapCells_gather (v := ⟨kind, _, data, tag⟩) all (.inl rfl)]
    dsimp only
    rw [gathered]
  | linear =>
    cases data with
    | scalar xs =>
      have rests (s : Vec3 α) : s.dot 0 = 0 := by simp [Vec3.dot, Vec3.zero_def]
      rw [mapCells_scalars all, extend_self rests _ all apart]
    | vector xs =>
      have rests (m : Mat3 α) : m.transpose.apply 0 = 0 := by
        simp [Mat3.apply, Vec3.dot, Vec3.zero_def]
      rw [mapCells_vectors all, extend_self rests _ all apart]
    | tensor ms =>
      rw [mapCells_gather (v := ⟨kind, _, .tensor ms, tag⟩) all (.inr rfl)]
      dsimp only
      rw [gathered]

end Identity

variable [SortedScalar α]

/-- Every field in the cells of a mesh, on every other mesh. -/
theorem mapCells_carriesOver (source target : Mesh α) {v : Value α} (fits : v.Fits source)
    (placed : v.location = some .volume) : source.CarriesOver target v where
  copies cells order copied := by
    have all : v.data.size = source.cells.length := by
      have sized := fits.sized
      rwa [placed] at sized
    have matrices : order = .nearest ∨ v.data.shape = .matrix := by
      refine copied.imp_right fun like => fits.shape.trans ?_
      cases kind : v.kind <;> rw [kind] at like <;> first | rfl | cases like
    have mapped : source.mapCells target order v = _ := mapCells_gather all matrices
    refine ⟨_, mapped, (mapCells_fits fits.shape).of_ok mapped, by simp [Value.isAt], rfl, ?_⟩
    exact gather_copies cells all
  scalars cells scalar := by
    obtain ⟨kind, location, data, tag⟩ := v
    cases placed
    cases scalar
    obtain ⟨xs, rfl⟩ := Data.of_number fits.shape
    have all : xs.length = source.cells.length := fits.sized
    refine ⟨xs, _, _, rfl, grad_scalars all _ _, mapCells_scalars all, by simp [extend, cellCentres], ?_⟩
    intro cell y found
    exact extend_donates cells all (source.gauss_length _ _) found
  vectors cells vector := by
    obtain ⟨xs, tag, rfl, all⟩ := vectors_of fits (Value.isAt_iff.mpr ⟨placed, by simp [vector]⟩)
    refine ⟨xs, _, _, rfl, grad_vectors all _ _, mapCells_vectors all, by simp [extend, cellCentres], ?_⟩
    intro cell y found
    obtain ⟨place, donor, centre, listed, nearest, x, slope, here, there, rfl⟩ :=
      extend_donates cells all (source.gauss_length _ _) found
    refine ⟨place, donor, centre, listed, nearest, x, slope, here, there, fun axis => ?_⟩
    cases axis <;> rfl
  components vector w mapped axis := by
    obtain ⟨xs, tag, rfl, all⟩ := vectors_of fits (Value.isAt_iff.mpr ⟨placed, by simp [vector]⟩)
    rw [mapCells_vectors all] at mapped
    cases mapped
    refine ⟨_, _, component?_axis _ xs tag axis, component?_axis _ _ tag axis, ?_⟩
    rw [mapCells_scalars ((List.length_map _).trans all), extend_entry]
  unchanged apart order := mapCells_self fits placed apart order

def cubeRow (cells : Nat) : Mesh Rat := Mesh.assemble (Block.unit ⟨cells, 1, 1⟩).addressing

/-- The middle of the cube is as near to one half as to the other and takes the value of the first. -/
theorem mapCells_carriesOver_halves :
    let v : Value Rat := .vector .volume [⟨1, 0, 2⟩, ⟨0, 3, 1⟩]
    v.Fits (cubeRow 2) ∧ v.location = some .volume ∧ 0 < (cubeRow 2).cells.length ∧
      (cubeRow 2).cellCentres.Nodup ∧ (cubeRow 2).CarriesOver (cubeRow 1) v ∧
      (cubeRow 2).mapCells (cubeRow 1) .nearest v = .ok (.vector .volume [⟨1, 0, 2⟩]) := by
  intro v
  have fits : v.Fits (cubeRow 2) := ⟨rfl, by decide +kernel⟩
  exact ⟨fits, rfl, by decide +kernel, by decide +kernel,
    mapCells_carriesOver (cubeRow 2) (cubeRow 1) fits rfl, by decide +kernel⟩

end Mesh

end MeshLang
