import MeshLang.Evaluation.Call
import MeshLang.Proofs.Mesh.Assembled

namespace MeshLang

variable {α : Type} [Scalar α]

namespace Mesh

/-- What a mesh keeps of the description that it is made from. -/
structure Keeps (mesh : Mesh α) (a : Addressing α) : Prop where
  points : mesh.points = a.points
  corners : mesh.faces.map (·.corners) = a.faces
  owners : mesh.faces.map (·.owner) = a.owners
  neighbours : mesh.faces.filterMap (·.neighbour?) = a.neighbours
  patches : mesh.patches = a.patches

/-- Lists with one entry for each entity of their location, and indices that stay below their
lengths. -/
structure Indexed (mesh : Mesh α) : Prop where
  beside : ∀ face ∈ mesh.faces, face.Beside (mesh.size .volume)
  corners : ∀ face ∈ mesh.faces, ∀ point ∈ face.corners, point < mesh.size .point
  positions : ∀ location, (mesh.positions location).length = mesh.size location
  areas : mesh.faceAreas.length = mesh.size .surface
  volumes : mesh.volumes.length = mesh.size .volume
  cellPoints : (mesh.cells.map (·.points)).length = mesh.size .volume
  pointCells : mesh.pointCells.length = mesh.size .point
  weights : mesh.weights.length = mesh.internalCount
  weighted : ∀ (index : Nat) (face : Face α) (neighbour : Nat), mesh.faces[index]? = some face →
    face.neighbour? = some neighbour → mesh.weights[index]? = some (mesh.weight face neighbour)
  pointsOf : ∀ cell point, (∃ c, mesh.cells[cell]? = some c ∧ point ∈ c.points) ↔
    Face.Incident mesh.faces cell point
  cellsOf : ∀ cell point, (∃ around, mesh.pointCells[point]? = some around ∧ cell ∈ around) ↔
    Face.Incident mesh.faces cell point

def innerMask (mesh : Mesh α) : List Bool := mesh.faces.map Face.isInternal

def patchMask (mesh : Mesh α) (patch : Patch) : List Bool :=
  (List.range (mesh.size .surface)).map patch.contains

/-- The patches follow one another from behind the last face between two cells up to the last face of
all, so that the masks of the inner faces and of the patches share out the faces. -/
structure Partitioned (mesh : Mesh α) : Prop where
  innerFirst : ∀ (index : Nat) (face : Face α), mesh.faces[index]? = some face →
    face.isInternal = decide (index < mesh.internalCount)
  tiled : Patch.Tile mesh.internalCount (mesh.size .surface) mesh.patches
  apart : mesh.patches.Pairwise fun patch later => patch.stop ≤ later.start
  boundary : ∀ face, (∃ patch ∈ mesh.patches, patch.contains face = true) ↔
    mesh.internalCount ≤ face ∧ face < mesh.size .surface
  internalFace : ∀ (env : Environment α) (function : Token), env.mesh = mesh →
    env.applyNone .internalFace function = .ok (.logical .surface mesh.innerMask)
  onPatch : (mesh.patches.map (·.name)).Nodup →
    ∀ (env : Environment α) (name : Token), env.mesh = mesh → ∀ patch ∈ mesh.patches,
      name.word = patch.name →
        env.applyNamed .onPatch name = .ok (.logical .surface (mesh.patchMask patch))
  sized : ∀ mask ∈ mesh.innerMask :: mesh.patches.map mesh.patchMask,
    mask.length = mesh.size .surface
  single : ∀ face < mesh.size .surface,
    (mesh.innerMask :: mesh.patches.map mesh.patchMask).countP (·[face]? == some true) = 1

section Patches

variable {mesh : Mesh α}

theorem find?_of_distinct {patches : List Patch} (distinct : (patches.map (·.name)).Nodup)
    {patch : Patch} (member : patch ∈ patches) :
    patches.find? (·.name == patch.name) = some patch := by
  induction patches with
  | nil => cases member
  | cons first rest ih =>
    obtain ⟨apart, later⟩ := List.nodup_cons.mp distinct
    rcases List.mem_cons.mp member with rfl | behind
    · simp
    · have other : first.name ≠ patch.name := fun same =>
        apart (List.mem_map.mpr ⟨patch, behind, same.symm⟩)
      rw [List.find?_cons_of_neg (by simpa using other)]
      exact ih later behind

theorem onPatch_mask (distinct : (mesh.patches.map (·.name)).Nodup) {env : Environment α}
    {name : Token} (same : env.mesh = mesh) {patch : Patch} (member : patch ∈ mesh.patches)
    (named : name.word = patch.name) :
    env.applyNamed .onPatch name = .ok (.logical .surface (mesh.patchMask patch)) := by
  unfold Environment.applyNamed Mesh.patch
  rw [same, named, find?_of_distinct distinct member]
  rfl

omit [Scalar α] in
theorem patchMask_getElem? (mesh : Mesh α) (patch : Patch) {face : Nat}
    (below : face < mesh.size .surface) :
    (mesh.patchMask patch)[face]? = some (patch.contains face) := by
  simp [patchMask, below]

omit [Scalar α] in
theorem countP_masks (innerFirst : ∀ (index : Nat) (face : Face α), mesh.faces[index]? = some face →
      face.isInternal = decide (index < mesh.internalCount))
    (covered : Addressing.covers mesh.internalCount (mesh.size .surface) mesh.patches = true)
    {face : Nat} (below : face < mesh.size .surface) :
    (mesh.innerMask :: mesh.patches.map mesh.patchMask).countP (·[face]? == some true) = 1 := by
  have patches : (mesh.patches.map mesh.patchMask).countP (·[face]? == some true) =
      if mesh.internalCount ≤ face then 1 else 0 := by
    have marked (patch : Patch) : ((mesh.patchMask patch)[face]? == some true) = patch.contains face := by
      rw [patchMask_getElem? mesh patch below]
      cases patch.contains face <;> rfl
    rw [List.countP_map]
    simp only [Function.comp_def, marked]
    rw [Addressing.countP_contains covered]
    simp only [below, and_true]
  have inner : mesh.innerMask[face]? = some (decide (face < mesh.internalCount)) := by
    have found : mesh.faces[face]? = some mesh.faces[face] := List.getElem?_eq_getElem below
    rw [innerMask, List.getElem?_map, found, Option.map_some, innerFirst face _ found]
  rw [List.countP_cons, patches, inner]
  by_cases before : face < mesh.internalCount
  · simp [before]
  · simp [before, Nat.not_lt.mp before]

end Patches

variable {a : Addressing α}

theorem assemble_keeps (wellFormed : a.WellFormed) : (assemble a).Keeps a where
  points := rfl
  corners := assemble_corners wellFormed.owners
  owners := assemble_owners wellFormed.owners
  neighbours := by
    have split : (assemble a).faces.filterMap (·.neighbour?) =
        ((assemble a).faces.map (·.neighbour?)).filterMap id := by
      rw [List.filterMap_map]
      rfl
    rw [split, assemble_neighbours wellFormed.owners wellFormed.neighbours]
    simp
  patches := rfl

theorem assemble_indexed (wellFormed : a.WellFormed) : (assemble a).Indexed where
  beside face member := by
    show face.Beside (assemble a).cells.length
    rw [assemble_cellCount]
    exact assemble_beside member
  corners _ member := assemble_inside wellFormed member
  positions := positions_length _
  areas := List.length_map _
  volumes := List.length_map _
  cellPoints := List.length_map _
  pointCells := by simp [assemble, size]
  weights := weights_length _
  weighted index face neighbour found inner := by
    have first {other : Nat} {face : Face α} (here : (assemble a).faces[other]? = some face) :=
      assemble_isInternal wellFormed.owners wellFormed.neighbours here
    have below : index < (assemble a).internalCount := by
      have internal := first found
      rw [Face.isInternal, inner] at internal
      exact of_decide_eq_true internal.symm
    unfold weights
    rw [getElem?_filterMap, found]
    · simp only [Option.bind_some, inner, Option.map_some]
    · intro other before face here
      rw [Option.isSome_map]
      exact (first here).trans (decide_eq_true (Nat.lt_of_le_of_lt before below))
  pointsOf _ _ := mem_assemble_points wellFormed
  cellsOf _ _ := mem_assemble_cells wellFormed

theorem assemble_partitioned (wellFormed : a.WellFormed) : (assemble a).Partitioned := by
  have innerFirst : ∀ (index : Nat) (face : Face α), (assemble a).faces[index]? = some face →
      face.isInternal = decide (index < (assemble a).internalCount) := fun _ _ found =>
    assemble_isInternal wellFormed.owners wellFormed.neighbours found
  have tiled : Patch.Tile (assemble a).internalCount ((assemble a).size .surface)
      (assemble a).patches := by
    show Patch.Tile _ (assemble a).faces.length _
    rw [assemble_internalCount wellFormed.owners wellFormed.neighbours,
      assemble_length wellFormed.owners]
    exact wellFormed.tiled
  have covered := Addressing.covers_iff.mpr tiled
  exact {
    innerFirst
    tiled
    apart := Addressing.patches_apart covered
    boundary face := by
      have counted := Addressing.countP_contains covered face
      rw [← List.countP_pos_iff, counted]
      split <;> simp_all
    internalFace env function same := by
      unfold Environment.applyNone
      rw [same]
      rfl
    onPatch distinct env name same patch member named := onPatch_mask distinct same member named
    sized mask member := by
      rcases List.mem_cons.mp member with rfl | named
      · exact List.length_map _
      · obtain ⟨patch, -, rfl⟩ := List.mem_map.mp named
        simp [patchMask]
    single face below := countP_masks innerFirst covered below }

/-- A description is accepted if it satisfies the conditions on counts, faces and patches, and only
then; the mesh that it gives keeps it, and all its lists and patches fit together. -/
theorem accepts_wellFormed (a : Addressing α) :
    ((∃ mesh, ofAddressing a = .ok mesh) ↔ a.WellFormed) ∧
      ∀ mesh, ofAddressing a = .ok mesh → mesh.Keeps a ∧ mesh.Indexed ∧ mesh.Partitioned := by
  have accepted (mesh : Mesh α) : ofAddressing a = .ok mesh ↔ a.WellFormed ∧ mesh = assemble a := by
    unfold ofAddressing
    rw [← Addressing.check_iff_wellFormed]
    cases a.check with
    | error error => simp
    | ok _ => simp [eq_comm]
  refine ⟨⟨fun ⟨mesh, made⟩ => ((accepted mesh).mp made).1, fun wellFormed => ?_⟩, fun mesh made => ?_⟩
  · exact ⟨assemble a, (accepted _).mpr ⟨wellFormed, rfl⟩⟩
  · obtain ⟨wellFormed, rfl⟩ := (accepted mesh).mp made
    exact ⟨assemble_keeps wellFormed, assemble_indexed wellFormed, assemble_partitioned wellFormed⟩

end Mesh

end MeshLang
