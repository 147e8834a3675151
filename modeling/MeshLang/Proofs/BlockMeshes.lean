import MeshLang.Proofs.Mesh.BlockFaces
import MeshLang.Proofs.Scalar.Exact

namespace MeshLang.Block

variable {α : Type}

/-- A mesh that is made of the cells of a block. Places stand for cells, of which there is one for
each of them: each lies between six faces that close it, cells next to each other share exactly one
face, and the six patches follow one another over the boundary. -/
structure Sound (block : Block α) (mesh : Mesh α) : Prop where
  points : mesh.points.length =
    (block.cells.x + 1) * (block.cells.y + 1) * (block.cells.z + 1)
  cells : mesh.cells.length = block.cells.x * block.cells.y * block.cells.z
  placed : ∀ place : Vec3 Nat, place.Below block.cells → block.cellIndex place < mesh.cells.length
  places : ∀ cell < mesh.cells.length,
    ∃! place : Vec3 Nat, place.Below block.cells ∧ block.cellIndex place = cell
  six : ∀ cell < mesh.cells.length, mesh.faces.countP (Face.touches cell) = 6
  ordered : ∀ face ∈ mesh.faces, ∀ neighbour, face.neighbour? = some neighbour →
    face.owner < neighbour
  joined : ∀ p q : Vec3 Nat, p.Below block.cells → q.Below block.cells → Adjacent p q →
    mesh.faces.countP (Face.joins (block.cellIndex p) (block.cellIndex q)) = 1
  apart : ∀ p q : Vec3 Nat, p.Below block.cells → q.Below block.cells → ¬ Adjacent p q →
    mesh.faces.countP (Face.joins (block.cellIndex p) (block.cellIndex q)) = 0
  innerFirst : ∀ (index : Nat) (below : index < mesh.faces.length),
    mesh.faces[index].isInternal = decide (index < mesh.internalCount)
  named : mesh.patches.map (·.name) = ["xmin", "xmax", "ymin", "ymax", "zmin", "zmax"]
  tiled : Addressing.covers mesh.internalCount mesh.faces.length mesh.patches = true
  sided : List.Forall₂ (fun patch side => patch.name = sideName side ∧
    ∀ face ∈ (mesh.faces.drop patch.start).take patch.size, block.OnSide side face)
    mesh.patches sides
  /-- Every edge around a cell belongs to two of its faces, which run along it both ways. -/
  closed : ∀ cell < mesh.cells.length, (mesh.outwardEdges cell).Nodup ∧
    ∀ p q, (p, q) ∈ mesh.outwardEdges cell → (q, p) ∈ mesh.outwardEdges cell

variable {block : Block α}

variable [Scalar α]

theorem sound_assemble (solid : ∀ axis, 1 ≤ block.cells.entry axis) :
    block.Sound (Mesh.assemble block.addressing) := by
  have faces := assemble_faces solid
  have cells : (Mesh.assemble block.addressing).cells.length =
      block.cells.x * block.cells.y * block.cells.z := by
    rw [← cellCount_eq solid]
    simp [Mesh.assemble]
  have placed {cell : Nat} (below : cell < (Mesh.assemble block.addressing).cells.length) :
      ∃ place : Vec3 Nat, place.Below block.cells ∧ block.cellIndex place = cell := by
    rw [cells] at below
    exact Vec3.exists_number below
  have wellFormed := Addressing.check_iff_wellFormed.mp (check_ok solid)
  have inner : (Mesh.assemble block.addressing).internalCount = block.innerSites.length := by
    rw [Mesh.assemble_internalCount wellFormed.owners wellFormed.neighbours, addressing_neighbours,
      List.length_map]
  exact {
    points := points_length block
    cells
    placed place below := by rw [cells]; exact Vec3.number_lt below
    places cell below := by
      obtain ⟨place, inside, found⟩ := placed below
      refine ⟨place, ⟨inside, found⟩, fun other both => ?_⟩
      exact Vec3.number_inj both.1 inside (both.2.trans found.symm)
    six cell below := by
      obtain ⟨place, inside, rfl⟩ := placed below
      rw [faces]
      exact countP_touches solid inside
    ordered face member neighbour found := by
      rw [faces] at member
      obtain ⟨site, here, rfl⟩ := List.mem_map.mp member
      exact owner_lt_neighbour solid found
    joined p q first second adjacent := by
      rw [faces]
      exact countP_joins solid first second adjacent
    apart p q first second apart := by
      rw [faces]
      exact countP_joins_apart solid first second apart
    innerFirst index below :=
      Mesh.assemble_isInternal wellFormed.owners wellFormed.neighbours
        (List.getElem?_eq_getElem below)
    named := by
      show block.addressing.patches.map (·.name) = _
      rw [addressing_patches solid, patchesFrom_names, List.map_map]
      rfl
    tiled := by
      rw [inner, faces, List.length_map]
      exact patches_cover solid
    sided := by
      rw [faces]
      exact patches_sided solid
    closed cell below := by
      obtain ⟨place, inside, rfl⟩ := placed below
      exact outwardEdges_closed solid faces inside }

/-- A box with cells along each axis and a positive extent gives a sound mesh. -/
theorem ofBlock_sound (block : Block α) (solid : ∀ axis, 1 ≤ block.cells.entry axis)
    (extent : ∀ axis, Scalar.le (block.extent.entry axis) Scalar.zero = false) :
    ∃ mesh, Mesh.ofBlock block = .ok mesh ∧ block.Sound mesh := by
  refine ⟨Mesh.assemble block.addressing, ?_, sound_assemble solid⟩
  unfold Mesh.ofBlock Mesh.ofAddressing
  rw [isEmpty_eq_false solid extent, check_ok solid]
  rfl

def layer : Block Exact := unit ⟨3, 2, 1⟩

theorem ofBlock_sound_layer : (∀ axis, 1 ≤ layer.cells.entry axis) ∧
    (∀ axis, Scalar.le (layer.extent.entry axis) Scalar.zero = false) ∧
    ∃ mesh, Mesh.ofBlock layer = .ok mesh ∧ layer.Sound mesh := by
  have solid : ∀ axis, 1 ≤ layer.cells.entry axis := by
    intro axis
    cases axis <;> decide
  have extent : ∀ axis, Scalar.le (layer.extent.entry axis) Scalar.zero = false := by
    intro axis
    cases axis <;> decide +kernel
  exact ⟨solid, extent, ofBlock_sound layer solid extent⟩

end MeshLang.Block
