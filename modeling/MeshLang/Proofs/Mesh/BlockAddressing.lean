import Mathlib.Tactic.Ring
import MeshLang.Proofs.Mesh.Grid

namespace MeshLang

section Checks

theorem Block.patchesFrom_covers (start : Nat) (groups : List (String × Nat)) :
    Addressing.covers start (start + (groups.map (·.2)).sum) (patchesFrom start groups) = true := by
  induction groups generalizing start with
  | nil => simp [patchesFrom, Addressing.covers]
  | cons group rest ih =>
    have later := ih (start + group.2)
    rw [Nat.add_assoc] at later
    simp [patchesFrom, Addressing.covers, later]

theorem Block.patchesFrom_names (start : Nat) (groups : List (String × Nat)) :
    (patchesFrom start groups).map (·.name) = groups.map (·.1) := by
  induction groups generalizing start with
  | nil => rfl
  | cons group rest ih => simp [patchesFrom, ih]

theorem Block.patchesFrom_cuts {γ : Type} (before : List γ) (groups : List (String × List γ)) :
    List.Forall₂ (fun patch group => patch.name = group.1 ∧
        ((before ++ groups.flatMap (·.2)).drop patch.start).take patch.size = group.2)
      (patchesFrom before.length (groups.map fun group => (group.1, group.2.length))) groups := by
  induction groups generalizing before with
  | nil => exact .nil
  | cons group rest ih =>
    refine .cons ⟨rfl, ?_⟩ ?_
    · show ((before ++ (group.2 ++ rest.flatMap (·.2))).drop before.length).take _ = _
      rw [List.drop_left, List.take_left]
    · have later := ih (before ++ group.2)
      rw [List.length_append] at later
      simpa only [List.flatMap_cons, List.append_assoc] using later

end Checks

namespace Block

variable {α : Type} {block : Block α} {site : Site}

section Places

theorem Site.owner_below (solid : ∀ axis, 1 ≤ block.cells.entry axis)
    (member : site ∈ block.sites) : site.owner.Below block.cells := by
  obtain ⟨level, a, b⟩ := mem_sites.mp member
  have some := solid site.axis
  refine (Axis.forall_entries site.axis).mpr ?_
  simp only [Site.owner, Axis.place_entry, Axis.place_next, Axis.place_last]
  omega

theorem Site.behind_below (member : site ∈ block.sites) (inner : site.isInner block = true) :
    site.behind.Below block.cells := by
  obtain ⟨-, a, b⟩ := mem_sites.mp member
  simp only [Site.isInner, Bool.and_eq_true, decide_eq_true_eq] at inner
  refine (Axis.forall_entries site.axis).mpr ?_
  simp only [Site.behind, Axis.place_entry, Axis.place_next, Axis.place_last]
  omega

theorem cellIndex_inj {p q : Vec3 Nat} (first : p.Below block.cells) (second : q.Below block.cells) :
    block.cellIndex p = block.cellIndex q ↔ p = q :=
  ⟨Vec3.number_inj first second, congrArg block.cellIndex⟩

def pointCounts (block : Block α) : Vec3 Nat := block.cells.map (· + 1)

theorem pointCounts_entry (axis : Axis) :
    block.pointCounts.entry axis = block.cells.entry axis + 1 := by
  cases axis <;> rfl

theorem mem_square {axis : Axis} {level a b point : Nat}
    (member : point ∈ block.square axis level a b) :
    ∃ place, block.pointIndex place = point ∧ place.entry axis = level ∧
      place.entry axis.next ≤ a + 1 ∧ place.entry axis.next.next ≤ b + 1 := by
  obtain ⟨place, corner, rfl⟩ := List.mem_map.mp member
  refine ⟨place, rfl, ?_⟩
  simp only [List.mem_cons, List.not_mem_nil, or_false] at corner
  rcases corner with rfl | rfl | rfl | rfl <;> simp

theorem Site.mem_corners {point : Nat} (member : site ∈ block.sites)
    (corner : point ∈ site.corners block) : ∃ place : Vec3 Nat, place.Below block.pointCounts ∧
      block.pointIndex place = point ∧ place.entry site.axis = site.level := by
  obtain ⟨level, a, b⟩ := mem_sites.mp member
  have square : point ∈ block.square site.axis site.level site.a site.b := by
    unfold Site.corners at corner
    dsimp only at corner
    split at corner
    · exact List.mem_reverse.mp corner
    · exact corner
  obtain ⟨place, rfl, here, next, last⟩ := mem_square square
  refine ⟨place, (Axis.forall_entries site.axis).mpr ?_, rfl, here⟩
  simp only [pointCounts_entry]
  omega

end Places

section Assembly

variable [Scalar α]

theorem points_length (block : Block α) : block.points.length =
    (block.cells.x + 1) * (block.cells.y + 1) * (block.cells.z + 1) := by
  simp only [points, List.length_flatMap, List.length_map, List.length_range, List.map_const',
    List.sum_replicate_nat]
  ring

theorem addressing_patches (solid : ∀ axis, 1 ≤ block.cells.entry axis) :
    block.addressing.patches = patchesFrom block.innerSites.length (sides.map fun side =>
      (sideName side, (block.sitesAcross side.1 (block.levelOf side)).length)) := by
  have walls : (Axis.all.flatMap block.walls).length = block.innerSites.length := by
    have counted := congrArg List.length (addressing_neighbours block)
    simpa only [addressing, List.length_map] using counted
  simp only [addressing, walls, List.map_map]
  congr 1
  apply List.map_congr_left
  intro side _
  simp [ends_eq solid]

theorem patches_cover (solid : ∀ axis, 1 ≤ block.cells.entry axis) :
    Addressing.covers block.innerSites.length block.sites.length block.addressing.patches = true := by
  have covered := patchesFrom_covers block.innerSites.length (sides.map fun side =>
    (sideName side, (block.sitesAcross side.1 (block.levelOf side)).length))
  rw [List.map_map] at covered
  rwa [addressing_patches solid, sites, List.length_append, outerSites, List.length_flatMap]

theorem check_ok (solid : ∀ axis, 1 ≤ block.cells.entry axis) :
    block.addressing.check = .ok () := by
  refine Addressing.check_iff.mpr ⟨?_, ?_, (Addressing.checkFaces_iff 0).mpr ?_, ?_⟩
  · rw [addressing_owners solid, addressing_faces solid, List.length_map, List.length_map]
  · rw [addressing_neighbours, addressing_faces solid, List.length_map, List.length_map, sites,
      List.length_append]
    exact Nat.le_add_right _ _
  · rw [addressing_faces solid]
    intro corners member
    obtain ⟨site, here, rfl⟩ := List.mem_map.mp member
    constructor
    · unfold Site.corners square
      dsimp only
      split <;> simp
    · intro point corner
      obtain ⟨place, below, rfl, -⟩ := site.mem_corners here corner
      show _ < block.points.length
      rw [points_length]
      exact Vec3.number_lt below
  · rw [addressing_neighbours, addressing_faces solid, List.length_map, List.length_map]
    exact patches_cover solid

omit [Scalar α] in
theorem exists_owner {place : Vec3 Nat} (below : place.Below block.cells) :
    ∃ site ∈ block.sites, site.owner = place := by
  refine ⟨⟨.x, place.x + 1, place.y, place.z⟩, mem_sites.mpr ?_, rfl⟩
  exact ⟨below .x, below .y, below .z⟩

theorem cellCount_eq (solid : ∀ axis, 1 ≤ block.cells.entry axis) :
    block.addressing.cellCount = block.cells.x * block.cells.y * block.cells.z := by
  apply Nat.le_antisymm
  · refine foldl_max_le_iff.mpr ⟨Nat.zero_le _, fun n member => ?_⟩
    obtain ⟨cell, beside, rfl⟩ := List.mem_map.mp member
    rw [addressing_owners solid, addressing_neighbours] at beside
    rcases List.mem_append.mp beside with owner | neighbour
    · obtain ⟨site, here, rfl⟩ := List.mem_map.mp owner
      exact Vec3.number_lt (Site.owner_below solid here)
    · obtain ⟨site, here, rfl⟩ := List.mem_map.mp neighbour
      have between := (mem_innerSites.mp here).1
      exact Vec3.number_lt (Site.behind_below (List.mem_append_left _ here) between)
  · by_contra fewer
    obtain ⟨place, below, last⟩ := Vec3.exists_number (Nat.lt_of_not_le fewer)
    obtain ⟨site, here, rfl⟩ := exists_owner below
    have counted : block.cellIndex site.owner < block.addressing.cellCount := by
      refine Addressing.lt_cellCount (.inl ?_)
      rw [addressing_owners solid]
      exact List.mem_map.mpr ⟨site, here, rfl⟩
    exact absurd last (Nat.ne_of_lt counted)

theorem isEmpty_eq_false (solid : ∀ axis, 1 ≤ block.cells.entry axis)
    (extent : ∀ axis, Scalar.le (block.extent.entry axis) Scalar.zero = false) :
    block.isEmpty = false := by
  have x : block.cells.x ≠ 0 := Nat.ne_of_gt (solid .x)
  have y : block.cells.y ≠ 0 := Nat.ne_of_gt (solid .y)
  have z : block.cells.z ≠ 0 := Nat.ne_of_gt (solid .z)
  have low := extent .x
  have middle := extent .y
  have high := extent .z
  simp only [Vec3.entry] at low middle high
  simp [isEmpty, Vec3.toList, x, y, z, low, middle, high]

end Assembly

end Block

end MeshLang
