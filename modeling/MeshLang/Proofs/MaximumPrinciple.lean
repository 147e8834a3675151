import MeshLang.Proofs.Conservation
import MeshLang.Proofs.Mesh.BlockGeometry
import MeshLang.Proofs.Mesh.Means
import MeshLang.Proofs.Value.Expansion

namespace MeshLang

variable {α : Type} [ExactScalar α]

section Rules

variable (rule : {ε : Type} → [AddCommGroup ε] → [Module α ε] → Nat → List ε → ε → Prop)

def Data.Placewise : Data α → Data α → Prop
  | .scalar xs, .scalar ys => ∀ index y, ys[index]? = some y → rule index xs y
  | .vector xs, .vector ys => ∀ index y, ys[index]? = some y → rule index xs y
  | .tensor xs, .tensor ys => ∀ index y, ys[index]? = some y → rule index xs y
  | _, _ => False

theorem Data.placewise_lift {rule} {f : {ε : Type} → [Element α ε] → List ε → List ε} (data : Data α)
    (made : ∀ {ε : Type} [Element α ε] [AddCommGroup ε] [Module α ε] [LawfulElement α ε]
      (xs : List ε), xs.length = data.size → ∀ index y, (f xs)[index]? = some y → rule index xs y) :
    data.Placewise rule (data.lift f) := by
  cases data with
  | scalar xs => exact made xs rfl
  | vector xs => exact made xs rfl
  | tensor xs => exact made xs rfl

theorem Data.lift_replicate {f : {ε : Type} → [Element α ε] → List ε → List ε} {data : Data α}
    {n count : Nat} (single : data.size = 1)
    (same : ∀ {ε : Type} [Element α ε] [AddCommGroup ε] [Module α ε] [LawfulElement α ε] (x : ε),
      f (List.replicate n x) = List.replicate count x) :
    (data.replicate n).lift f = data.replicate count := by
  rw [Data.replicate_eq single, Data.replicate_eq single, Data.lift_lift]
  apply Data.lift_lawful
  intro ε _ _ _ _ xs all
  obtain ⟨x, rfl⟩ := List.length_eq_one_iff.mp (all.trans single)
  exact same x

variable [LinearOrder α]

/-- An operator that carries numeric fields from one location to another and keeps kind and tag. -/
structure Mesh.Carries (mesh : Mesh α) (carry : Value α → Except (FieldError α) (Value α))
    (source target : Location) : Prop where
  values : ∀ v : Value α, v.Fits mesh → v.isAt source Kind.numeric = true →
    ∃ w, carry v = .ok w ∧ w.Fits mesh ∧ w.isAt target [v.kind] = true ∧
      w.dimensions = v.dimensions ∧ v.data.Placewise rule w.data ∧
      v.data.Placewise (fun _ xs y => Bracketed α xs y) w.data
  uniform : ∀ constant : Value α, constant.Fits mesh → constant.location = none →
    constant.kind ∈ Kind.numeric →
    carry (constant.uniform source (mesh.size source)) =
      .ok (constant.uniform target (mesh.size target))

structure Mesh.MaximumPrinciple (mesh : Mesh α) : Prop where
  toFaces : mesh.Carries mesh.BetweenCells mesh.interpolate .volume .surface
  toPoints : mesh.Carries mesh.BlendOfCells mesh.interpolateToPoint .volume .point
  toCells : mesh.Carries mesh.BlendOfPoints mesh.interpolateToCell .point .volume
  ofFaces : mesh.Carries mesh.BlendOfFaces mesh.faceAverage .surface .volume

end Rules

namespace Mesh

section Hull

variable [LinearOrder α] [OrderedScalar α] {mesh : Mesh α}

theorem carries_of_hull {source target : Location}
    {rule : {ε : Type} → [AddCommGroup ε] → [Module α ε] → Nat → List ε → ε → Prop}
    {carry : Value α → Except (FieldError α) (Value α)}
    {f : {ε : Type} → [Element α ε] → List ε → List ε}
    (made : ∀ v, mesh.expect source v = .ok () →
      carry v = .ok ⟨v.kind, some target, v.data.lift f, v.dimensions⟩)
    (length : ∀ {ε : Type} [Element α ε] (xs : List ε), (f xs).length = mesh.size target)
    (rules : ∀ {ε : Type} [Element α ε] [AddCommGroup ε] [Module α ε] [LawfulElement α ε]
      (xs : List ε), xs.length = mesh.size source → ∀ index y, (f xs)[index]? = some y →
        rule index xs y)
    (hull : ∀ {ε : Type} [AddCommGroup ε] [Module α ε] {index : Nat} {xs : List ε} {y : ε},
      rule index xs y → y ∈ convexHull α {x | x ∈ xs}) :
    mesh.Carries rule carry source target where
  values v fits placed := by
    have size : v.data.size = mesh.size source := by
      have sized := fits.sized
      rwa [(Value.isAt_iff.mp placed).1] at sized
    refine ⟨_, made v (expect_ok fits placed), placed_fits fits.shape length, by simp [Value.isAt], rfl,
      ?_, ?_⟩
    · exact Data.placewise_lift v.data fun xs all => rules xs (all.trans size)
    · refine Data.placewise_lift v.data fun xs all index y found => ?_
      exact bracketed_of_mem_convexHull (hull (rules xs (all.trans size) index y found))
  uniform constant fits nowhere _ := by
    have single : constant.data.size = 1 := by
      have sized := fits.sized
      rwa [nowhere] at sized
    have same {ε : Type} [Element α ε] [AddCommGroup ε] [Module α ε] [LawfulElement α ε] (x : ε) :
        f (List.replicate (mesh.size source) x) = List.replicate (mesh.size target) x := by
      have inside : ∀ y ∈ f (List.replicate (mesh.size source) x),
          y ∈ convexHull α {z | z ∈ List.replicate (mesh.size source) x} := by
        intro y member
        obtain ⟨index, found⟩ := List.getElem?_of_mem member
        exact hull (rules _ List.length_replicate index y found)
      rw [eq_replicate_of_mem_convexHull inside, length]
    have sized : (constant.uniform source (mesh.size source)).size = mesh.size source :=
      Data.replicate_size _ single
    rw [made _ (expect_of_size sized)]
    unfold Value.uniform
    rw [Data.lift_replicate single same]

end Hull

section Operators

variable [LinearOrder α] [RootedScalar α] {mesh : Mesh α}

theorem interpolate_carries (built : mesh.Built) :
    mesh.Carries mesh.BetweenCells mesh.interpolate .volume .surface := by
  refine carries_of_hull (f := mesh.faceValues) (fun v accepted => ?_) mesh.faceValues_length
    (fun _ all _ _ found => faceValues_between built.beside all found) (·.mem_convexHull)
  unfold interpolate
  rw [accepted]
  rfl

theorem interpolateToPoint_carries (built : mesh.Built) (guarded : 0 < (Scalar.epsilon : α))
    (covered : ∀ point < mesh.points.length, ∃ face ∈ mesh.faces, point ∈ face.corners) :
    mesh.Carries mesh.BlendOfCells mesh.interpolateToPoint .volume .point := by
  refine carries_of_hull (f := mesh.pointValues) (fun v accepted => ?_) (fun xs => ?_)
    (fun _ all _ _ found => pointValues_blend built guarded covered all found) (·.mem_convexHull)
  · unfold interpolateToPoint
    rw [accepted]
    rfl
  · rw [pointValues, List.length_zipWith, built.pointCells_length, Nat.min_self]
    rfl

theorem interpolateToCell_carries (built : mesh.Built)
    (solid : ∀ cell < mesh.cells.length, 0 < mesh.areaAround cell) :
    mesh.Carries mesh.BlendOfPoints mesh.interpolateToCell .point .volume := by
  have bordered (cell : Nat) (below : cell < mesh.cells.length) := exists_borders (solid cell below)
  refine carries_of_hull (f := mesh.cellValues) (fun v accepted => ?_) mesh.cellValues_length
    (fun _ all _ _ found => cellValues_blend built bordered all found) (·.mem_convexHull)
  unfold interpolateToCell
  rw [accepted]
  rfl

theorem faceAverage_carries (solid : ∀ cell < mesh.cells.length, 0 < mesh.areaAround cell) :
    mesh.Carries mesh.BlendOfFaces mesh.faceAverage .surface .volume := by
  refine carries_of_hull (f := mesh.areaAverages) (fun v accepted => ?_) mesh.areaAverages_length
    (fun _ all _ _ found => areaAverages_blend solid all found) (·.mem_convexHull)
  unfold faceAverage
  rw [accepted]
  rfl

/-- On every mesh that a checked description gives, if all points are corners of faces and all cells
have an area around them. Distances are clamped to a positive length. -/
theorem maximum_principle (built : mesh.Built) (guarded : 0 < (Scalar.epsilon : α))
    (covered : ∀ point < mesh.points.length, ∃ face ∈ mesh.faces, point ∈ face.corners)
    (solid : ∀ cell < mesh.cells.length, 0 < mesh.areaAround cell) : mesh.MaximumPrinciple where
  toFaces := interpolate_carries built
  toPoints := interpolateToPoint_carries built guarded covered
  toCells := interpolateToCell_carries built solid
  ofFaces := faceAverage_carries solid

end Operators

noncomputable def cubes : Block GuardedReal := ⟨⟨2, 1, 1⟩, ⟨0, 0, 0⟩, ⟨Scalar.ofNat 2, 1, 1⟩⟩

theorem maximum_principle_cubes : cubes.mesh.Built ∧ 0 < (Scalar.epsilon : GuardedReal) ∧
    (∀ point < cubes.mesh.points.length, ∃ face ∈ cubes.mesh.faces, point ∈ face.corners) ∧
    (∀ cell < cubes.mesh.cells.length, 0 < cubes.mesh.areaAround cell) ∧
    cubes.mesh.MaximumPrinciple := by
  have solid : ∀ axis, 1 ≤ cubes.cells.entry axis := by
    intro axis
    cases axis <;> decide
  have apart : ∀ axis, cubes.low.entry axis < cubes.high.entry axis := by
    intro axis
    cases axis <;> norm_num [cubes, Vec3.entry, ExactScalar.ofNat_eq]
  have built : cubes.mesh.Built := Block.mesh_built solid
  have owners : cubes.addressing.owners.length = cubes.addressing.faces.length := by decide +kernel
  have covered : ∀ point < cubes.mesh.points.length,
      ∃ face ∈ cubes.mesh.faces, point ∈ face.corners := by
    have corners : ∀ point < cubes.addressing.points.length,
        ∃ corners ∈ cubes.addressing.faces, point ∈ corners := by decide +kernel
    intro point below
    obtain ⟨listed, member, corner⟩ := corners point below
    rw [← assemble_corners owners] at member
    obtain ⟨face, here, rfl⟩ := List.mem_map.mp member
    exact ⟨face, here, corner⟩
  have areas : ∀ cell < cubes.mesh.cells.length, 0 < cubes.mesh.areaAround cell := by
    have owned : ∀ cell < cubes.addressing.cellCount, cell ∈ cubes.addressing.owners := by
      decide +kernel
    intro cell below
    rw [assemble_cellCount] at below
    have member := owned cell below
    rw [← assemble_owners owners] at member
    obtain ⟨face, listed, owner⟩ := List.mem_map.mp member
    obtain ⟨index, here⟩ := List.getElem?_of_mem listed
    have solid := Block.areas_ne_zero (Block.spacing_pos solid apart) solid face listed
    exact areaAround_pos here (.inl owner) solid
  exact ⟨built, GuardedReal.epsilon_pos, covered, areas,
    maximum_principle built GuardedReal.epsilon_pos covered areas⟩

end Mesh

end MeshLang
