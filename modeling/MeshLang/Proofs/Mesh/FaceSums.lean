import Mathlib.Algebra.BigOperators.Group.Finset.Basic
import Mathlib.Algebra.BigOperators.Group.Finset.Piecewise
import Mathlib.Algebra.BigOperators.GroupWithZero.Action
import Mathlib.Tactic.Abel
import MeshLang.Proofs.Mesh.Shapes
import MeshLang.Proofs.Repository.Built
import MeshLang.Proofs.Tensor.Space

namespace MeshLang

variable {α : Type}

def Side.part [ExactScalar α] (sign : α) : Side → α
  | .owner => 1
  | .neighbour => sign

theorem Side.part_one [ExactScalar α] (side : Side) : side.part (Scalar.one : α) = 1 := by
  cases side with
  | owner => rfl
  | neighbour => exact ExactScalar.one_eq

namespace Mesh

section Sums

variable [ExactScalar α] {ε : Type} [Element α ε]

def interior (mesh : Mesh α) (values : List ε) : List ε :=
  ((mesh.faces.zip values).filter fun pair => pair.1.isInternal).map (·.2)

def boundary (mesh : Mesh α) (values : List ε) : List ε :=
  ((mesh.faces.zip values).filter fun pair => !pair.1.isInternal).map (·.2)

variable [AddCommGroup ε] [Module α ε]

/-- What a face adds to the sum of a cell. -/
def share (sign : α) (cell : Nat) (pair : Face α × ε) : ε :=
  (if pair.1.owner = cell then pair.2 else 0) +
    (if pair.1.neighbour? = some cell then sign • pair.2 else 0)

variable {mesh : Mesh α} {sign : α} {values : List ε}

omit [Element α ε] in
/-- A face hands out its value once for each of its sides, in whatever cells these lie. -/
theorem sum_share {count : Nat} {pair : Face α × ε} (beside : pair.1.Beside count) :
    ∑ cell ∈ Finset.range count, share sign cell pair =
      pair.2 + if pair.1.isInternal then sign • pair.2 else 0 := by
  obtain ⟨face, x⟩ := pair
  obtain ⟨owner, neighbour⟩ := beside
  simp only [share, Finset.sum_add_distrib, Finset.sum_ite_eq, Finset.mem_range, owner, if_true]
  unfold Face.isInternal
  cases found : face.neighbour? with
  | none => simp
  | some cell => simp [neighbour cell found]

variable [LawfulElement α ε]

theorem cellSum_eq (mesh : Mesh α) (sign : α) (values : List ε) (cell : Nat) :
    mesh.cellSum sign values cell = ((mesh.faces.zip values).map (share sign cell)).sum := by
  have sides (sum : ε) (pair : Face α × ε) :
      (pair.1.sides cell).foldl (addSide sign pair.2) sum = sum + share sign cell pair := by
    unfold Face.sides share
    by_cases owner : pair.1.owner = cell <;> by_cases neighbour : pair.1.neighbour? = some cell <;>
      simp [owner, neighbour, addSide, add_assoc]
  unfold cellSum
  simp only [sides, LawfulElement.zero_eq]
  rw [List.sum_eq_foldl, List.foldl_map]

theorem cellSum_around (mesh : Mesh α) (sign : α) (f : Face α → ε) (cell : Nat) :
    mesh.cellSum sign (mesh.faces.map f) cell =
      ((facesAround mesh.faces cell).map fun side => side.2.part sign • f side.1).sum := by
  have pairs : mesh.faces.zip (mesh.faces.map f) = mesh.faces.map fun face => (face, f face) := by
    rw [List.zip_eq_zipWith, List.zipWith_map_right, List.zipWith_self]
  have shares (face : Face α) : share sign cell (face, f face) =
      ((face.sides cell).map fun side => side.part sign • f face).sum := by
    unfold share Face.sides
    by_cases owner : face.owner = cell <;> by_cases neighbour : face.neighbour? = some cell <;>
      simp [owner, neighbour, Side.part]
  rw [cellSum_eq, pairs, List.map_map, facesAround, List.map_flatMap, List.flatMap, List.sum_flatten,
    List.map_map]
  congr 1
  apply List.map_congr_left
  intro face _
  rw [Function.comp_apply, Function.comp_apply, shares, List.map_map]
  rfl

theorem cellSum_faces (mesh : Mesh α) (f : Face α → ε) (cell : Nat) :
    mesh.cellSum (-Scalar.one) (mesh.faces.map f) cell =
      ((facesAround mesh.faces cell).map fun side => (side.2.sign : α) • f side.1).sum := by
  have parts (side : Side) : side.part (-Scalar.one : α) = side.sign := by
    cases side with
    | owner => rfl
    | neighbour => exact congrArg Neg.neg ExactScalar.one_eq
  simp only [cellSum_around, parts]

theorem total_faces (mesh : Mesh α) (f : Face α → ε) :
    mesh.total (mesh.faces.map f) = (List.range mesh.cells.length).map fun cell =>
      ((facesAround mesh.faces cell).map fun side => f side.1).sum := by
  apply List.map_congr_left
  intro cell _
  simp only [cellSum_around, Side.part_one, one_smul]

theorem getElem?_outflow (mesh : Mesh α) (values : List ε) {index : Nat} {cell : Cell α}
    (found : mesh.cells[index]? = some cell) :
    (mesh.perVolume (mesh.netOutflow values))[index]? =
      some (cell.volume⁻¹ • mesh.cellSum (-Scalar.one) values index) := by
  have below := (List.getElem?_eq_some_iff.mp found).1
  have volume : mesh.volumes[index]? = some cell.volume := by
    rw [volumes, List.getElem?_map, found]
    rfl
  have sum : (mesh.netOutflow values)[index]? =
      some (mesh.cellSum (-Scalar.one) values index) := by
    simp [netOutflow, accumulate, below]
  unfold perVolume
  rw [List.getElem?_zipWith, sum, volume]
  simp

omit [Module α ε] [LawfulElement α ε] in
theorem sum_exchange {δ : Type} (pairs : List δ) (count : Nat) (f : Nat → δ → ε) :
    ∑ cell ∈ Finset.range count, (pairs.map (f cell)).sum =
      (pairs.map fun pair => ∑ cell ∈ Finset.range count, f cell pair).sum := by
  induction pairs with
  | nil => simp
  | cons pair rest ih => simp only [List.map_cons, List.sum_cons, Finset.sum_add_distrib, ih]

omit [Element α ε] [LawfulElement α ε] in
theorem sum_both (mesh : Mesh α) (sign : α) (values : List ε) :
    ((mesh.faces.zip values).map fun pair =>
      pair.2 + if pair.1.isInternal then sign • pair.2 else 0).sum =
    (mesh.interior values).sum + sign • (mesh.interior values).sum + (mesh.boundary values).sum := by
  unfold interior boundary
  induction mesh.faces.zip values with
  | nil => simp
  | cons pair rest ih =>
    by_cases internal : pair.1.isInternal = true
    · simp only [List.map_cons, List.sum_cons, List.filter_cons, internal, if_true, ih, Bool.not_true,
        Bool.false_eq_true, if_false, smul_add]
      abel
    · simp only [List.map_cons, List.sum_cons, List.filter_cons, internal, ih, Bool.not_false,
        Bool.false_eq_true, if_false, if_true, add_zero]
      abel

theorem sum_accumulate (beside : ∀ face ∈ mesh.faces, face.Beside mesh.cells.length) :
    (mesh.accumulate sign values).sum =
      (mesh.interior values).sum + sign • (mesh.interior values).sum +
        (mesh.boundary values).sum := by
  have reach : ∀ pair ∈ mesh.faces.zip values, pair.1.Beside mesh.cells.length :=
    fun pair member => beside pair.1 (List.of_mem_zip member).1
  calc (mesh.accumulate sign values).sum
      = ∑ cell ∈ Finset.range mesh.cells.length, mesh.cellSum sign values cell := rfl
    _ = ∑ cell ∈ Finset.range mesh.cells.length,
          ((mesh.faces.zip values).map (share sign cell)).sum := by simp only [cellSum_eq]
    _ = ((mesh.faces.zip values).map fun pair =>
          ∑ cell ∈ Finset.range mesh.cells.length, share sign cell pair).sum := sum_exchange _ _ _
    _ = ((mesh.faces.zip values).map fun pair =>
          pair.2 + if pair.1.isInternal then sign • pair.2 else 0).sum := by
      congr 1
      exact List.map_congr_left fun pair member => sum_share (reach pair member)
    _ = _ := sum_both mesh sign values

theorem sum_netOutflow (beside : ∀ face ∈ mesh.faces, face.Beside mesh.cells.length) :
    (mesh.netOutflow values).sum = (mesh.boundary values).sum := by
  unfold netOutflow
  rw [sum_accumulate beside, ExactScalar.one_eq, neg_smul, one_smul, add_neg_cancel, zero_add]

theorem sum_total (beside : ∀ face ∈ mesh.faces, face.Beside mesh.cells.length) :
    (mesh.total values).sum =
      (2 : α) • (mesh.interior values).sum + (mesh.boundary values).sum := by
  unfold total
  rw [sum_accumulate beside, ExactScalar.one_eq, one_smul, two_smul]

theorem scale_back {values : List ε} {factors : List α} (same : values.length = factors.length)
    (solid : ∀ factor ∈ factors, factor ≠ 0) :
    List.zipWith Element.scale
      (List.zipWith (fun x factor => Element.scale x (Scalar.one / factor)) values factors) factors =
      values := by
  induction values generalizing factors with
  | nil => simp
  | cons x rest ih =>
    cases factors with
    | nil => cases same
    | cons factor others =>
      have here : factor ≠ 0 := solid factor List.mem_cons_self
      have later := ih (Nat.succ.inj same) fun other member =>
        solid other (List.mem_cons_of_mem factor member)
      have back : Element.scale (Element.scale x (Scalar.one / factor)) factor = x := by
        rw [LawfulElement.scale_eq, LawfulElement.scale_eq, ExactScalar.one_eq, smul_smul,
          mul_one_div_cancel here, one_smul]
      simp only [List.zipWith_cons_cons, later, back]

/-- The net outflow of all cells, each weighed with its volume, is what crosses the boundary. -/
theorem sum_outflow (beside : ∀ face ∈ mesh.faces, face.Beside mesh.cells.length)
    (solid : ∀ volume ∈ mesh.volumes, volume ≠ 0) :
    (List.zipWith Element.scale (mesh.perVolume (mesh.netOutflow values)) mesh.volumes).sum =
      (mesh.boundary values).sum := by
  have same : (mesh.netOutflow values).length = mesh.volumes.length :=
    (mesh.accumulate_length _ values).trans mesh.volumes_length.symm
  unfold perVolume
  rw [scale_back same solid, sum_netOutflow beside]

theorem boundary_slopes (mesh : Mesh α) (values : List ε) (factors : List α) :
    (mesh.boundary (List.zipWith (fun x k => Element.scale x k) (mesh.normalGradients values)
      factors)).sum = 0 := by
  apply List.sum_eq_zero
  intro y member
  obtain ⟨⟨face, x⟩, kept, rfl⟩ := List.mem_map.mp member
  obtain ⟨both, outer⟩ := List.mem_filter.mp kept
  have alone : face.neighbour? = none := by
    simpa only [Face.isInternal, Bool.not_eq_true', Option.isSome_eq_false_iff,
      Option.isNone_iff_eq_none] using outer
  have still : mesh.normalGradient values face = 0 := by
    unfold normalGradient
    rw [alone]
    exact LawfulElement.zero_eq
  obtain ⟨index, below, here⟩ := List.mem_iff_getElem.mp both
  rw [List.getElem_zip, Prod.mk.injEq] at here
  show x = 0
  rw [← here.2]
  simp only [List.getElem_zipWith, normalGradients, List.getElem_map, here.1, still,
    LawfulElement.scale_eq, smul_zero]

end Sums

end Mesh

end MeshLang
