import Mathlib.Algebra.BigOperators.Fin
import Mathlib.Analysis.Convex.Combination
import MeshLang.Proofs.Mesh.Assembled
import MeshLang.Proofs.Mesh.FaceSums
import MeshLang.Proofs.Scalar.Ordered
import MeshLang.Proofs.Tensor.Vectors

namespace MeshLang

variable {α : Type} [ExactScalar α]

section Blends

variable [LinearOrder α] {ε : Type} [AddCommGroup ε] [Module α ε]

/-- A mean of the entries that a list has at some indices. -/
structure Blend (weight : Nat → α) (around : Finset Nat) (xs : List ε) (y : ε) : Prop where
  inside : ∀ index ∈ around, index < xs.length
  nonneg : ∀ index ∈ around, 0 ≤ weight index
  total : ∑ index ∈ around, weight index = 1
  value : y = ∑ index ∈ around, weight index • xs.getD index 0

variable (α) in
/-- Whatever linear function is read off, such as an entry of a vector, two entries of the list have
what is there between them. -/
def Bracketed (xs : List ε) (y : ε) : Prop :=
  ∀ part : ε →ₗ[α] α, ∃ low ∈ xs, ∃ high ∈ xs, part low ≤ part y ∧ part y ≤ part high

variable {weight share : Nat → α} {around : Finset Nat} {xs : List ε} {x y : ε}

theorem eq_of_mem_convexHull_replicate {n : Nat}
    (inside : y ∈ convexHull α {z | z ∈ List.replicate n x}) : y = x := by
  have single : {z | z ∈ List.replicate n x} ⊆ {x} := fun z member => List.eq_of_mem_replicate member
  exact convexHull_min single (convex_singleton x) inside

theorem eq_replicate_of_mem_convexHull {n : Nat} {ys : List ε}
    (inside : ∀ y ∈ ys, y ∈ convexHull α {z | z ∈ List.replicate n x}) :
    ys = List.replicate ys.length x :=
  List.eq_replicate_iff.mpr ⟨rfl, fun y member => eq_of_mem_convexHull_replicate (inside y member)⟩

variable [OrderedScalar α]

theorem Blend.mem_convexHull (blend : Blend weight around xs y) : y ∈ convexHull α {x | x ∈ xs} := by
  rw [blend.value]
  refine (convex_convexHull α _).sum_mem blend.nonneg blend.total fun index member => ?_
  apply subset_convexHull
  show xs.getD index 0 ∈ xs
  rw [List.getD_eq_getElem?_getD, List.getElem?_eq_getElem (blend.inside index member)]
  exact List.getElem_mem _

theorem Blend.ofShares (inside : ∀ index ∈ around, index < xs.length)
    (nonneg : ∀ index ∈ around, 0 ≤ share index) (positive : 0 < ∑ index ∈ around, share index) :
    Blend (fun index => (∑ index ∈ around, share index)⁻¹ * share index) around xs
      ((∑ index ∈ around, share index)⁻¹ • ∑ index ∈ around, share index • xs.getD index 0) where
  inside := inside
  nonneg index member := mul_nonneg (inv_nonneg.mpr positive.le) (nonneg index member)
  total := by rw [← Finset.mul_sum, inv_mul_cancel₀ positive.ne']
  value := by simp only [Finset.smul_sum, smul_smul]

theorem Blend.ofMean (inside : ∀ index ∈ around, index < xs.length) (nonempty : around.Nonempty) :
    Blend (fun _ => (around.card : α)⁻¹) around xs
      ((around.card : α)⁻¹ • ∑ index ∈ around, xs.getD index 0) where
  inside := inside
  nonneg _ _ := inv_nonneg.mpr (Nat.cast_nonneg _)
  total := by
    have count : (around.card : α) ≠ 0 := Nat.cast_ne_zero.mpr nonempty.card_pos.ne'
    rw [Finset.sum_const, nsmul_eq_mul, mul_inv_cancel₀ count]
  value := Finset.smul_sum

theorem bracketed_of_mem_convexHull (inside : y ∈ convexHull α {x | x ∈ xs}) :
    Bracketed α xs y := by
  intro part
  have finite : {x | x ∈ xs}.Finite := List.finite_toSet xs
  have nonempty : {x | x ∈ xs}.Nonempty := convexHull_nonempty_iff.mp ⟨y, inside⟩
  obtain ⟨low, lowest, below⟩ := Set.exists_min_image _ part finite nonempty
  obtain ⟨high, highest, above⟩ := Set.exists_max_image _ part finite nonempty
  refine ⟨low, lowest, high, highest, ?_, ?_⟩
  · exact convexHull_min below (convex_halfSpace_ge part.isLinear (part low)) inside
  · exact convexHull_min above (convex_halfSpace_le part.isLinear (part high)) inside

end Blends

def Face.Borders (face : Face α) (cell : Nat) : Prop :=
  face.owner = cell ∨ face.neighbour? = some cell

instance (face : Face α) (cell : Nat) : Decidable (face.Borders cell) :=
  inferInstanceAs (Decidable (_ ∨ _))

namespace Mesh

section Rules

variable [LinearOrder α] {ε : Type} [AddCommGroup ε] [Module α ε] (mesh : Mesh α)

def BetweenCells (index : Nat) (xs : List ε) (y : ε) : Prop :=
  ∃ face, mesh.faces[index]? = some face ∧ ∃ own, xs[face.owner]? = some own ∧
    match face.neighbour? with
    | none => y = own
    | some neighbour => ∃ other, xs[neighbour]? = some other ∧ y ∈ segment α own other

def BlendOfCells (point : Nat) (xs : List ε) (y : ε) : Prop :=
  ∃ (weight : Nat → α) (around : Finset Nat), Blend weight around xs y ∧
    (∀ cell, cell ∈ around ↔ Face.Incident mesh.faces cell point) ∧ ∀ cell ∈ around, 0 < weight cell

def BlendOfPoints (cell : Nat) (xs : List ε) (y : ε) : Prop :=
  ∃ around : Finset Nat, Blend (fun _ => (around.card : α)⁻¹) around xs y ∧
    ∀ point, point ∈ around ↔ Face.Incident mesh.faces cell point

def BlendOfFaces (cell : Nat) (xs : List ε) (y : ε) : Prop :=
  ∃ (weight : Nat → α) (around : Finset Nat), Blend weight around xs y ∧
    (∀ index, index ∈ around ↔ ∃ face, mesh.faces[index]? = some face ∧ face.Borders cell) ∧
    ∀ index ∈ around, ∀ face, mesh.faces[index]? = some face → face.area ≠ 0 → 0 < weight index

variable {mesh : Mesh α} {index : Nat} {xs : List ε} {y : ε}

theorem BetweenCells.mem_convexHull (between : mesh.BetweenCells index xs y) :
    y ∈ convexHull α {x | x ∈ xs} := by
  obtain ⟨face, -, own, here, rule⟩ := between
  have first : own ∈ convexHull α {x | x ∈ xs} := subset_convexHull α _ (List.mem_of_getElem? here)
  split at rule
  · exact rule ▸ first
  · obtain ⟨other, there, inside⟩ := rule
    have second : other ∈ convexHull α {x | x ∈ xs} :=
      subset_convexHull α _ (List.mem_of_getElem? there)
    exact (convex_convexHull α _).segment_subset first second inside

variable [OrderedScalar α]

theorem BlendOfCells.mem_convexHull (blend : mesh.BlendOfCells index xs y) :
    y ∈ convexHull α {x | x ∈ xs} := by
  obtain ⟨_, _, blend, -⟩ := blend
  exact blend.mem_convexHull

theorem BlendOfPoints.mem_convexHull (blend : mesh.BlendOfPoints index xs y) :
    y ∈ convexHull α {x | x ∈ xs} := by
  obtain ⟨_, blend, -⟩ := blend
  exact blend.mem_convexHull

theorem BlendOfFaces.mem_convexHull (blend : mesh.BlendOfFaces index xs y) :
    y ∈ convexHull α {x | x ∈ xs} := by
  obtain ⟨_, _, blend, -⟩ := blend
  exact blend.mem_convexHull

end Rules

variable {mesh : Mesh α}

section Elements

variable {ε : Type} [Element α ε] [AddCommGroup ε] [Module α ε] [LawfulElement α ε]

theorem faceValue_eq (mesh : Mesh α) (values : List ε) {face : Face α} {neighbour : Nat}
    (found : face.neighbour? = some neighbour) : mesh.faceValue values face =
      mesh.weight face neighbour • values.getD face.owner 0 +
        (1 - mesh.weight face neighbour) • values.getD neighbour 0 := by
  unfold faceValue
  rw [found]
  simp only [LawfulElement.add_eq, LawfulElement.scale_eq, LawfulElement.zero_eq, ExactScalar.one_eq]

theorem faceValue_boundary (mesh : Mesh α) (values : List ε) {face : Face α}
    (outer : face.neighbour? = none) : mesh.faceValue values face = values.getD face.owner 0 := by
  unfold faceValue
  rw [outer]
  dsimp only
  rw [LawfulElement.zero_eq]

omit [Element α ε] [Module α ε] [LawfulElement α ε] in
theorem getElem?_getD {values : List ε} {index : Nat} (below : index < values.length) :
    values[index]? = some (values.getD index 0) := by
  rw [List.getD_eq_getElem?_getD, List.getElem?_eq_getElem below]
  rfl

omit [Element α ε] [Module α ε] [LawfulElement α ε] in
theorem getD_replicate {n index : Nat} (below : index < n) (x : ε) :
    (List.replicate n x).getD index 0 = x := by
  rw [List.getD_eq_getElem?_getD, List.getElem?_replicate, if_pos below]
  rfl

end Elements

section Faces

variable [LinearOrder α] [RootedScalar α]

theorem weight_unit (mesh : Mesh α) (face : Face α) (neighbour : Nat) :
    0 ≤ mesh.weight face neighbour ∧ mesh.weight face neighbour ≤ 1 := by
  have own := Vec3.norm_nonneg (face.centre - mesh.centreOf face.owner)
  have other := Vec3.norm_nonneg (face.centre - mesh.centreOf neighbour)
  unfold weight
  dsimp only
  split
  · exact ⟨div_nonneg other (add_nonneg own other),
      div_le_one_of_le₀ (le_add_of_nonneg_left own) (add_nonneg own other)⟩
  · rw [ExactScalar.half_eq]
    exact ⟨inv_nonneg.mpr zero_le_two, inv_le_one_of_one_le₀ one_le_two⟩

variable {ε : Type} [Element α ε] [AddCommGroup ε] [Module α ε] [LawfulElement α ε]

theorem faceValues_between (beside : ∀ face ∈ mesh.faces, face.Beside mesh.cells.length)
    {xs : List ε} (all : xs.length = mesh.cells.length) {index : Nat} {y : ε}
    (found : (mesh.faceValues xs)[index]? = some y) : mesh.BetweenCells index xs y := by
  rw [faceValues, List.getElem?_map, Option.map_eq_some_iff] at found
  obtain ⟨face, here, rfl⟩ := found
  obtain ⟨owner, neighbour⟩ := beside face (List.mem_of_getElem? here)
  rw [← all] at owner neighbour
  refine ⟨face, here, _, getElem?_getD owner, ?_⟩
  cases behind : face.neighbour? with
  | none => exact faceValue_boundary mesh xs behind
  | some cell =>
    obtain ⟨low, high⟩ := mesh.weight_unit face cell
    refine ⟨_, getElem?_getD (neighbour cell behind), ?_⟩
    exact ⟨_, _, low, sub_nonneg.mpr high, add_sub_cancel _ _, (faceValue_eq mesh xs behind).symm⟩

theorem faceValues_uniform (beside : ∀ face ∈ mesh.faces, face.Beside mesh.cells.length) (x : ε) :
    mesh.faceValues (List.replicate mesh.cells.length x) =
      List.replicate mesh.faces.length x := by
  have all : (List.replicate mesh.cells.length x).length = mesh.cells.length := List.length_replicate
  have between := eq_replicate_of_mem_convexHull fun y member =>
    (faceValues_between beside all (List.getElem?_of_mem member).choose_spec).mem_convexHull
  rwa [faceValues_length] at between

end Faces

section Points

variable [LinearOrder α] [RootedScalar α]

/-- The share of a cell in the value at a place, larger the nearer it is. -/
def nearness (mesh : Mesh α) (place : Vec3 α) (cell : Nat) : α :=
  Scalar.one / Scalar.max (mesh.centreOf cell - place).norm Scalar.epsilon

theorem nearness_pos (guarded : 0 < (Scalar.epsilon : α)) (place : Vec3 α) (cell : Nat) :
    0 < mesh.nearness place cell := by
  have clamped (distance : α) : 0 < Scalar.max distance Scalar.epsilon := by
    rw [Scalar.max_eq]
    exact guarded.trans_le (le_max_right _ _)
  rw [nearness, ExactScalar.one_eq]
  exact div_pos one_pos (clamped _)

variable {ε : Type} [Element α ε] [AddCommGroup ε] [Module α ε] [LawfulElement α ε]

theorem pointValue_eq (xs : List ε) (place : Vec3 α) {around : List Nat}
    (positive : 0 < (around.map (mesh.nearness place)).sum) : mesh.pointValue xs place around =
      (around.map (mesh.nearness place)).sum⁻¹ •
        (around.map fun cell => mesh.nearness place cell • xs.getD cell 0).sum := by
  let weighted := around.map fun cell => (xs.getD cell Element.zero, mesh.nearness place cell)
  let sum := weighted.foldl (fun sum entry => Element.add sum (Element.scale entry.1 entry.2))
    Element.zero
  let total := weighted.foldl (fun sum entry => sum + entry.2) Scalar.zero
  have sum_eq : sum = (around.map fun cell => mesh.nearness place cell • xs.getD cell 0).sum := by
    simp only [sum, weighted]
    rw [List.foldl_map, List.sum_eq_foldl, List.foldl_map]
    simp only [LawfulElement.zero_eq, LawfulElement.add_eq, LawfulElement.scale_eq]
  have total_eq : total = (around.map (mesh.nearness place)).sum := by
    simp only [total, weighted]
    rw [List.foldl_map, List.sum_eq_foldl, List.foldl_map, ExactScalar.zero_eq]
  have test : Scalar.lt Scalar.zero (around.map (mesh.nearness place)).sum = true := by
    rwa [OrderedScalar.lt_iff, ExactScalar.zero_eq]
  have unfolded : mesh.pointValue xs place around =
      if Scalar.lt Scalar.zero total then Element.scale sum (Scalar.one / total) else sum := rfl
  rw [unfolded, sum_eq, total_eq, if_pos test, LawfulElement.scale_eq, ExactScalar.one_eq, one_div]

theorem pointValues_blend (built : mesh.Built) (guarded : 0 < (Scalar.epsilon : α))
    (covered : ∀ point < mesh.points.length, ∃ face ∈ mesh.faces, point ∈ face.corners)
    {xs : List ε} (all : xs.length = mesh.cells.length) {point : Nat} {y : ε}
    (found : (mesh.pointValues xs)[point]? = some y) : mesh.BlendOfCells point xs y := by
  obtain ⟨below, rfl⟩ := List.getElem?_eq_some_iff.mp found
  rw [pointValues, List.length_zipWith, Nat.lt_min] at below
  obtain ⟨inside, listed⟩ := below
  let place := mesh.points[point]
  let around := mesh.pointCells[point]
  have here : mesh.pointCells[point]? = some around := List.getElem?_eq_getElem listed
  have distinct : around.Nodup := built.nodup_pointCells here
  have members (cell : Nat) : cell ∈ around.toFinset ↔ Face.Incident mesh.faces cell point :=
    List.mem_toFinset.trans (built.mem_pointCells here)
  have sum {δ : Type} [AddCommMonoid δ] (f : Nat → δ) :
      (around.map f).sum = ∑ cell ∈ around.toFinset, f cell := (List.sum_toFinset f distinct).symm
  have near (cell : Nat) : 0 < mesh.nearness place cell := nearness_pos guarded place cell
  have positive : 0 < ∑ cell ∈ around.toFinset, mesh.nearness place cell := by
    obtain ⟨face, member, corner⟩ := covered point inside
    have beside : face.owner ∈ around.toFinset := (members _).mpr ⟨face, member, .inl rfl, corner⟩
    exact Finset.sum_pos (fun cell _ => near cell) ⟨_, beside⟩
  have value : (mesh.pointValues xs)[point] =
      (∑ cell ∈ around.toFinset, mesh.nearness place cell)⁻¹ •
        ∑ cell ∈ around.toFinset, mesh.nearness place cell • xs.getD cell 0 := by
    rw [← sum, ← sum]
    rw [← sum] at positive
    rw [← pointValue_eq xs place positive]
    exact List.getElem_zipWith
  rw [value]
  refine ⟨_, _, Blend.ofShares ?_ (fun cell _ => (near cell).le) positive, members, ?_⟩
  · intro cell member
    rw [all]
    exact (built.incident_lt ((members cell).mp member)).1
  · intro cell _
    exact mul_pos (inv_pos.mpr positive) (near cell)

end Points

def areaAround (mesh : Mesh α) (cell : Nat) : α :=
  ((facesAround mesh.faces cell).map fun side => side.1.area.norm).sum

theorem exists_borders [LinearOrder α] {cell : Nat} (positive : 0 < mesh.areaAround cell) :
    ∃ face ∈ mesh.faces, face.Borders cell := by
  have around : facesAround mesh.faces cell ≠ [] := by
    intro none
    rw [areaAround, none] at positive
    exact lt_irrefl 0 positive
  obtain ⟨⟨face, side⟩, member⟩ := List.exists_mem_of_ne_nil _ around
  obtain ⟨listed, lies⟩ := mem_facesAround.mp member
  exact ⟨face, listed, (Face.mem_sides.mp lies).imp And.right And.right⟩

section Cells

variable {ε : Type} [Element α ε] [AddCommGroup ε] [Module α ε] [LawfulElement α ε]

theorem cellValue_eq (xs : List ε) {points : List Nat} (filled : points ≠ []) :
    Element.scale (points.foldl
        (fun sum point => Element.add sum (xs.getD point Element.zero)) Element.zero)
        (Scalar.one / Scalar.ofNat (max points.length 1)) =
      (points.length : α)⁻¹ • (points.map fun point => xs.getD point 0).sum := by
  have count : max points.length 1 = points.length :=
    max_eq_left (List.length_pos_iff.mpr filled)
  rw [count, LawfulElement.scale_eq, ExactScalar.one_eq, ExactScalar.ofNat_eq, one_div,
    List.sum_eq_foldl, List.foldl_map]
  simp only [LawfulElement.zero_eq, LawfulElement.add_eq]

theorem Built.exists_incident (built : mesh.Built) {cell : Nat}
    (bordered : ∃ face ∈ mesh.faces, face.Borders cell) :
    ∃ point, Face.Incident mesh.faces cell point := by
  obtain ⟨face, member, lies⟩ := bordered
  obtain ⟨point, corner⟩ := List.exists_mem_of_length_pos (Nat.zero_lt_of_lt (built.corners member))
  exact ⟨point, face, member, lies, corner⟩

variable [LinearOrder α] [OrderedScalar α]

theorem cellValues_blend (built : mesh.Built)
    (bordered : ∀ cell < mesh.cells.length, ∃ face ∈ mesh.faces, face.Borders cell)
    {xs : List ε} (all : xs.length = mesh.points.length) {cell : Nat} {y : ε}
    (found : (mesh.cellValues xs)[cell]? = some y) : mesh.BlendOfPoints cell xs y := by
  rw [cellValues, List.getElem?_map, Option.map_eq_some_iff] at found
  obtain ⟨c, here, rfl⟩ := found
  have distinct : c.points.Nodup := built.nodup_points here
  have members (point : Nat) : point ∈ c.points.toFinset ↔ Face.Incident mesh.faces cell point :=
    List.mem_toFinset.trans (built.mem_points here)
  obtain ⟨point, incident⟩ :=
    built.exists_incident (bordered cell (List.getElem?_eq_some_iff.mp here).1)
  have listed : point ∈ c.points.toFinset := (members point).mpr incident
  have filled : c.points ≠ [] := List.ne_nil_of_mem (List.mem_toFinset.mp listed)
  dsimp only
  rw [cellValue_eq xs filled, ← List.toFinset_card_of_nodup distinct, ← List.sum_toFinset _ distinct]
  refine ⟨_, Blend.ofMean (fun point member => ?_) ⟨point, listed⟩, members⟩
  rw [all]
  exact (built.incident_lt ((members point).mp member)).2

end Cells

section Areas

def sharedArea (mesh : Mesh α) (cell index : Nat) : α :=
  (mesh.faces[index]?.map fun face => ((face.sides cell).length : α) * face.area.norm).getD 0

theorem sum_map_range {δ ε : Type} [AddCommMonoid ε] (xs : List δ) (f : δ → ε) :
    (xs.map f).sum = ∑ index ∈ Finset.range xs.length, (xs[index]?.map f).getD 0 := by
  rw [Finset.sum_range, ← Fin.sum_univ_fun_getElem]
  simp

variable {ε : Type} [Element α ε] [AddCommGroup ε] [Module α ε] [LawfulElement α ε]

omit [Element α ε] [LawfulElement α ε] in
theorem share_one (cell : Nat) (face : Face α) (x : ε) :
    share (1 : α) cell (face, x) = ((face.sides cell).length : α) • x := by
  unfold share Face.sides
  by_cases owner : face.owner = cell <;> by_cases neighbour : face.neighbour? = some cell <;>
    simp [owner, neighbour, ← two_smul α x, one_add_one_eq_two]

theorem cellSum_total (xs : List ε) (all : xs.length = mesh.faces.length) (cell : Nat) :
    mesh.cellSum Scalar.one (List.zipWith (fun x area => Element.scale x area) xs mesh.areaSizes) cell =
      ∑ index ∈ Finset.range mesh.faces.length, mesh.sharedArea cell index • xs.getD index 0 := by
  let weighted := List.zipWith (fun x area => Element.scale x area) xs mesh.areaSizes
  have count : (mesh.faces.zip weighted).length = mesh.faces.length := by
    simp [weighted, all, areaSizes, faceAreas]
  rw [cellSum_eq, sum_map_range, count]
  apply Finset.sum_congr rfl
  intro index member
  have below := Finset.mem_range.mp member
  have face : mesh.faces[index]? = some mesh.faces[index] := List.getElem?_eq_getElem below
  have size : mesh.areaSizes[index]? = some mesh.faces[index].area.norm := by
    simp [areaSizes, faceAreas, face]
  have scaled : weighted[index]? = some (mesh.faces[index].area.norm • xs.getD index 0) := by
    rw [List.getElem?_zipWith, getElem?_getD (all ▸ below), size, ← LawfulElement.scale_eq]
  have pair : (mesh.faces.zip weighted)[index]? =
      some (mesh.faces[index], mesh.faces[index].area.norm • xs.getD index 0) :=
    List.getElem?_zip_eq_some.mpr ⟨face, scaled⟩
  rw [pair, sharedArea, face, ExactScalar.one_eq]
  simp only [Option.map_some, Option.getD_some, share_one, mul_smul]

theorem cellSum_areas (mesh : Mesh α) (cell : Nat) : mesh.cellSum Scalar.one mesh.areaSizes cell =
    ∑ index ∈ Finset.range mesh.faces.length, mesh.sharedArea cell index := by
  have sizes : List.zipWith (fun x area => Element.scale x area)
      (List.replicate mesh.faces.length (1 : α)) mesh.areaSizes = mesh.areaSizes := by
    rw [← List.map_const', areaSizes, faceAreas, List.map_map, List.zipWith_map, List.zipWith_self]
    exact List.map_congr_left fun face _ => one_mul _
  have sum := cellSum_total (List.replicate mesh.faces.length (1 : α)) List.length_replicate cell
  rw [sizes] at sum
  rw [sum]
  apply Finset.sum_congr rfl
  intro index member
  rw [getD_replicate (Finset.mem_range.mp member), smul_eq_mul, mul_one]

theorem cellSum_areaAround (mesh : Mesh α) (cell : Nat) :
    mesh.cellSum Scalar.one mesh.areaSizes cell = mesh.areaAround cell := by
  have sizes : mesh.areaSizes = mesh.faces.map fun face => face.area.norm := List.map_map
  rw [sizes, cellSum_around]
  simp only [Side.part_one, one_smul]
  rfl

def bordering (mesh : Mesh α) (cell : Nat) : Finset Nat :=
  (Finset.range mesh.faces.length).filter fun index =>
    mesh.faces[index]?.any fun face => decide (face.Borders cell)

omit [ExactScalar α] in
theorem mem_bordering {cell index : Nat} : index ∈ mesh.bordering cell ↔
    ∃ face, mesh.faces[index]? = some face ∧ face.Borders cell := by
  rw [bordering, Finset.mem_filter, Finset.mem_range]
  simp only [Option.any_eq_true, decide_eq_true_eq, and_iff_right_iff_imp]
  rintro ⟨face, here, -⟩
  exact (List.getElem?_eq_some_iff.mp here).1

theorem sum_bordering {δ : Type} [AddCommMonoid δ] {cell : Nat} {f : Nat → δ}
    (zero : ∀ index, mesh.sharedArea cell index = 0 → f index = 0) :
    ∑ index ∈ mesh.bordering cell, f index = ∑ index ∈ Finset.range mesh.faces.length, f index := by
  refine Finset.sum_subset (Finset.filter_subset _ _) fun index _ elsewhere => zero index ?_
  unfold sharedArea
  cases here : mesh.faces[index]? with
  | none => rfl
  | some face =>
    have apart : ¬ face.Borders cell := fun lies => elsewhere (mem_bordering.mpr ⟨face, here, lies⟩)
    obtain ⟨owner, neighbour⟩ := not_or.mp apart
    simp [Face.sides, owner, neighbour]

theorem sum_sharedArea (mesh : Mesh α) (cell : Nat) :
    ∑ index ∈ mesh.bordering cell, mesh.sharedArea cell index = mesh.areaAround cell := by
  rw [sum_bordering fun _ zero => zero, ← cellSum_areas, cellSum_areaAround]

variable [LinearOrder α] [RootedScalar α]

omit [Element α ε] [AddCommGroup ε] [Module α ε] [LawfulElement α ε] in
theorem sharedArea_nonneg (mesh : Mesh α) (cell index : Nat) : 0 ≤ mesh.sharedArea cell index := by
  unfold sharedArea
  cases mesh.faces[index]? with
  | none => exact le_rfl
  | some face => exact mul_nonneg (Nat.cast_nonneg _) (Vec3.norm_nonneg _)

theorem sharedArea_pos {cell index : Nat} {face : Face α} (here : mesh.faces[index]? = some face)
    (lies : face.Borders cell) (solid : face.area ≠ 0) : 0 < mesh.sharedArea cell index := by
  have sides : 0 < (face.sides cell).length := by
    refine List.length_pos_iff_exists_mem.mpr ?_
    rcases lies with owner | neighbour
    · exact ⟨.owner, Face.mem_sides.mpr (.inl ⟨rfl, owner⟩)⟩
    · exact ⟨.neighbour, Face.mem_sides.mpr (.inr ⟨rfl, neighbour⟩)⟩
  rw [sharedArea, here]
  exact mul_pos (Nat.cast_pos.mpr sides) (Vec3.norm_pos solid)

theorem areaAround_pos {cell index : Nat} {face : Face α} (here : mesh.faces[index]? = some face)
    (lies : face.Borders cell) (solid : face.area ≠ 0) : 0 < mesh.areaAround cell := by
  rw [← sum_sharedArea]
  exact Finset.sum_pos' (fun index _ => mesh.sharedArea_nonneg cell index)
    ⟨index, mem_bordering.mpr ⟨face, here, lies⟩, sharedArea_pos here lies solid⟩

theorem areaAverages_blend (solid : ∀ cell < mesh.cells.length, 0 < mesh.areaAround cell)
    {xs : List ε} (all : xs.length = mesh.faces.length) {cell : Nat} {y : ε}
    (found : (mesh.areaAverages xs)[cell]? = some y) : mesh.BlendOfFaces cell xs y := by
  obtain ⟨below, rfl⟩ := List.getElem?_eq_some_iff.mp found
  have inside : cell < mesh.cells.length := by rwa [areaAverages_length] at below
  have total := mesh.sum_sharedArea cell
  have weighted : ∑ index ∈ mesh.bordering cell, mesh.sharedArea cell index • xs.getD index 0 =
      mesh.cellSum Scalar.one
        (List.zipWith (fun x area => Element.scale x area) xs mesh.areaSizes) cell := by
    rw [sum_bordering fun _ zero => by rw [zero, zero_smul], cellSum_total xs all]
  have value : (mesh.areaAverages xs)[cell] =
      (∑ index ∈ mesh.bordering cell, mesh.sharedArea cell index)⁻¹ •
        ∑ index ∈ mesh.bordering cell, mesh.sharedArea cell index • xs.getD index 0 := by
    rw [weighted, total, ← cellSum_areaAround]
    simp [areaAverages, Mesh.total, accumulate]
  have positive : 0 < ∑ index ∈ mesh.bordering cell, mesh.sharedArea cell index :=
    total ▸ solid cell inside
  rw [value]
  refine ⟨_, _, Blend.ofShares ?_ (fun index _ => mesh.sharedArea_nonneg cell index) positive,
    fun _ => mem_bordering, ?_⟩
  · intro index member
    rw [all]
    exact Finset.mem_range.mp (Finset.mem_filter.mp member).1
  · intro index member face here areas
    obtain ⟨face', here', lies⟩ := mem_bordering.mp member
    cases Option.some.inj (here.symm.trans here')
    exact mul_pos (inv_pos.mpr positive) (sharedArea_pos here lies areas)

end Areas

end Mesh

end MeshLang
