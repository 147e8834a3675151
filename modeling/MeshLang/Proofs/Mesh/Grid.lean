import Mathlib.Data.List.Nodup
import MeshLang.Mesh.Block
import MeshLang.Proofs.Repository.Built

namespace MeshLang

namespace Axis

variable (axis : Axis) (level a b : Nat)

@[simp]
theorem place_entry : (axis.place level a b).entry axis = level := by cases axis <;> rfl

@[simp]
theorem place_next : (axis.place level a b).entry axis.next = a := by cases axis <;> rfl

@[simp]
theorem place_last : (axis.place level a b).entry axis.next.next = b := by cases axis <;> rfl

theorem place_entries (place : Vec3 Nat) :
    axis.place (place.entry axis) (place.entry axis.next) (place.entry axis.next.next) = place := by
  cases axis <;> rfl

theorem forall_entries {P : Axis → Prop} :
    (∀ other, P other) ↔ P axis ∧ P axis.next ∧ P axis.next.next := by
  constructor
  · intro all
    exact ⟨all _, all _, all _⟩
  · rintro ⟨first, second, third⟩ other
    cases axis <;> cases other <;> assumption

variable {axis level a b}

theorem place_eq_iff {place : Vec3 Nat} : axis.place level a b = place ↔
    level = place.entry axis ∧ a = place.entry axis.next ∧ b = place.entry axis.next.next := by
  constructor
  · rintro rfl
    simp
  · rintro ⟨rfl, rfl, rfl⟩
    exact axis.place_entries place

theorem mem_all : axis ∈ all := by cases axis <;> decide

end Axis

def Vec3.Below (place sizes : Vec3 Nat) : Prop := ∀ axis, place.entry axis < sizes.entry axis

/-- The number of a place when places are counted along the first axis first. -/
def Vec3.number (sizes place : Vec3 Nat) : Nat :=
  place.x + sizes.x * (place.y + sizes.y * place.z)

namespace Vec3

variable {sizes place other : Vec3 Nat}

theorem digit_lt {n m x r : Nat} (digit : x < n) (rest : r < m) : x + n * r < n * m := by
  have next : n * (r + 1) ≤ n * m := Nat.mul_le_mul_left n rest
  rw [Nat.mul_add_one] at next
  omega

theorem digit_inj {n x r x' r' : Nat} (digit : x < n) (digit' : x' < n)
    (same : x + n * r = x' + n * r') : x = x' ∧ r = r' := by
  have rests : (x + n * r) / n = (x' + n * r') / n := by rw [same]
  have positive : 0 < n := Nat.zero_lt_of_lt digit
  rw [Nat.add_mul_div_left _ _ positive, Nat.add_mul_div_left _ _ positive,
    Nat.div_eq_of_lt digit, Nat.div_eq_of_lt digit'] at rests
  have rest : r = r' := by omega
  subst rest
  exact ⟨by omega, rfl⟩

theorem number_lt (below : place.Below sizes) :
    number sizes place < sizes.x * sizes.y * sizes.z := by
  rw [Nat.mul_assoc]
  exact digit_lt (below .x) (digit_lt (below .y) (below .z))

theorem number_inj (below : place.Below sizes) (below' : other.Below sizes)
    (same : number sizes place = number sizes other) : place = other := by
  obtain ⟨x, rest⟩ := digit_inj (below .x) (below' .x) same
  obtain ⟨y, z⟩ := digit_inj (below .y) (below' .y) rest
  cases place
  cases other
  simp only [mk.injEq]
  exact ⟨x, y, z⟩

theorem exists_number {n : Nat} (small : n < sizes.x * sizes.y * sizes.z) :
    ∃ place : Vec3 Nat, place.Below sizes ∧ number sizes place = n := by
  have x : 0 < sizes.x := Nat.pos_of_ne_zero fun none => by simp [none] at small
  have y : 0 < sizes.y := Nat.pos_of_ne_zero fun none => by simp [none] at small
  have rest : n / sizes.x < sizes.y * sizes.z := by
    rw [Nat.mul_assoc] at small
    exact Nat.div_lt_of_lt_mul small
  refine ⟨⟨n % sizes.x, n / sizes.x % sizes.y, n / sizes.x / sizes.y⟩, fun axis => ?_, ?_⟩
  · cases axis with
    | x => exact Nat.mod_lt _ x
    | y => exact Nat.mod_lt _ y
    | z => exact Nat.div_lt_of_lt_mul rest
  · show n % sizes.x + sizes.x * (n / sizes.x % sizes.y + sizes.y * (n / sizes.x / sizes.y)) = n
    rw [Nat.mod_add_div, Nat.mod_add_div]

theorem number_step (axis : Axis) (level a b : Nat) (x : 0 < sizes.x) (y : 0 < sizes.y) :
    number sizes (axis.place level a b) < number sizes (axis.place (level + 1) a b) := by
  have xy : 0 < sizes.x * sizes.y := Nat.mul_pos x y
  cases axis <;> simp only [number, Axis.place, Nat.mul_add, Nat.mul_one, ← Nat.mul_assoc] <;> omega

end Vec3

theorem nodup_flatMap_of_key {γ δ : Type} {xs : List γ} {f : γ → List δ} (key : δ → γ)
    (distinct : xs.Nodup) (parts : ∀ x ∈ xs, (f x).Nodup) (keyed : ∀ x, ∀ y ∈ f x, key y = x) :
    (xs.flatMap f).Nodup := by
  rw [List.nodup_flatMap]
  refine ⟨parts, distinct.imp fun different y first second => different ?_⟩
  exact (keyed _ y first).symm.trans (keyed _ y second)

namespace Block

variable {α : Type}

/-- A square across an axis, after `level` cells along it. -/
structure Site where
  axis : Axis
  level : Nat
  a : Nat
  b : Nat
deriving DecidableEq, Repr

namespace Site

def owner (site : Site) : Vec3 Nat := site.axis.place (site.level - 1) site.a site.b

def behind (site : Site) : Vec3 Nat := site.axis.place site.level site.a site.b

def isInner (block : Block α) (site : Site) : Bool :=
  0 < site.level && site.level < block.cells.entry site.axis

def neighbour? (block : Block α) (site : Site) : Option (Vec3 Nat) :=
  if site.isInner block then some site.behind else none

def corners (block : Block α) (site : Site) : List Nat :=
  let square := block.square site.axis site.level site.a site.b
  if site.level = 0 then square.reverse else square

end Site

def sitesAcross (block : Block α) (axis : Axis) (level : Nat) : List Site :=
  (block.squares axis).map fun (a, b) => ⟨axis, level, a, b⟩

def innerSites (block : Block α) : List Site :=
  Axis.all.flatMap fun axis =>
    (List.range (block.cells.entry axis - 1)).flatMap fun before =>
      block.sitesAcross axis (before + 1)

def levelOf (block : Block α) (side : Axis × Bool) : Nat :=
  if side.2 then block.cells.entry side.1 else 0

def outerSites (block : Block α) : List Site :=
  sides.flatMap fun side => block.sitesAcross side.1 (block.levelOf side)

def sites (block : Block α) : List Site := block.innerSites ++ block.outerSites

variable {block : Block α} {site : Site}

theorem mem_sitesAcross {axis : Axis} {level : Nat} : site ∈ block.sitesAcross axis level ↔
    site.axis = axis ∧ site.level = level ∧ site.a < block.cells.entry axis.next ∧
      site.b < block.cells.entry axis.next.next := by
  obtain ⟨axis', level', a, b⟩ := site
  simp only [sitesAcross, squares, List.mem_map, List.mem_flatMap, List.mem_range, Prod.exists,
    Prod.mk.injEq, Site.mk.injEq]
  constructor
  · rintro ⟨a', b', ⟨b'', last, a'', next, rfl, rfl⟩, rfl, rfl, rfl, rfl⟩
    exact ⟨rfl, rfl, next, last⟩
  · rintro ⟨rfl, rfl, next, last⟩
    exact ⟨a, b, ⟨b, last, a, next, rfl, rfl⟩, rfl, rfl, rfl, rfl⟩

theorem sitesAcross_nodup (block : Block α) (axis : Axis) (level : Nat) :
    (block.sitesAcross axis level).Nodup := by
  have squares : (block.squares axis).Nodup := by
    refine nodup_flatMap_of_key Prod.snd List.nodup_range (fun b _ => ?_) ?_
    · exact List.nodup_range.map fun a a' same => (Prod.mk.inj same).1
    · intro b square member
      obtain ⟨a, -, rfl⟩ := List.mem_map.mp member
      rfl
  refine squares.map fun first second same => ?_
  simpa [Prod.ext_iff] using same

theorem mem_innerSites : site ∈ block.innerSites ↔ site.isInner block = true ∧
    site.a < block.cells.entry site.axis.next ∧ site.b < block.cells.entry site.axis.next.next := by
  simp only [innerSites, List.mem_flatMap, List.mem_range, mem_sitesAcross, Site.isInner,
    Bool.and_eq_true, decide_eq_true_eq]
  constructor
  · rintro ⟨axis, -, before, small, rfl, level, next, last⟩
    exact ⟨by omega, next, last⟩
  · rintro ⟨⟨positive, small⟩, next, last⟩
    exact ⟨site.axis, Axis.mem_all, site.level - 1, by omega, rfl, by omega, next, last⟩

theorem mem_outerSites : site ∈ block.outerSites ↔
    (site.level = 0 ∨ site.level = block.cells.entry site.axis) ∧
      site.a < block.cells.entry site.axis.next ∧ site.b < block.cells.entry site.axis.next.next := by
  simp only [outerSites, List.mem_flatMap, mem_sitesAcross]
  constructor
  · rintro ⟨⟨axis, upper⟩, -, rfl, level, next, last⟩
    cases upper with
    | false => exact ⟨.inl level, next, last⟩
    | true => exact ⟨.inr level, next, last⟩
  · rintro ⟨lower | upper, next, last⟩
    · exact ⟨(site.axis, false), by cases site.axis <;> decide, rfl, lower, next, last⟩
    · exact ⟨(site.axis, true), by cases site.axis <;> decide, rfl, upper, next, last⟩

theorem mem_sites : site ∈ block.sites ↔ site.level ≤ block.cells.entry site.axis ∧
    site.a < block.cells.entry site.axis.next ∧ site.b < block.cells.entry site.axis.next.next := by
  rw [sites, List.mem_append, mem_innerSites, mem_outerSites, ← or_and_right]
  refine and_congr_left fun _ => ?_
  simp only [Site.isInner, Bool.and_eq_true, decide_eq_true_eq]
  omega

theorem sites_nodup (solid : ∀ axis, 1 ≤ block.cells.entry axis) : block.sites.Nodup := by
  have inner : block.innerSites.Nodup := by
    refine nodup_flatMap_of_key Site.axis (by decide) (fun axis _ => ?_) ?_
    · refine nodup_flatMap_of_key (fun site => site.level - 1) List.nodup_range
        (fun before _ => block.sitesAcross_nodup axis _) ?_
      intro before site member
      have level := (mem_sitesAcross.mp member).2.1
      omega
    · intro axis site member
      obtain ⟨before, -, here⟩ := List.mem_flatMap.mp member
      exact (mem_sitesAcross.mp here).1
  have outer : block.outerSites.Nodup := by
    refine nodup_flatMap_of_key (fun site => (site.axis, decide (0 < site.level))) (by decide)
      (fun side _ => block.sitesAcross_nodup _ _) ?_
    rintro ⟨axis, upper⟩ site member
    obtain ⟨across, level, -⟩ := mem_sitesAcross.mp member
    have some := solid axis
    cases upper with
    | false =>
      have low : site.level = 0 := level
      simp [across, low]
    | true =>
      have high : site.level = block.cells.entry axis := level
      simp [across, high]
      omega
  refine inner.append outer fun site here there => ?_
  have between := (mem_innerSites.mp here).1
  have apart := (mem_outerSites.mp there).1
  simp only [Site.isInner, Bool.and_eq_true, decide_eq_true_eq] at between
  omega

theorem Site.neighbour?_eq_some {place : Vec3 Nat} : site.neighbour? block = some place ↔
    site.isInner block = true ∧ place = site.behind := by
  unfold neighbour?
  split <;> simp [*, eq_comm]

theorem isInner_of_mem_outerSites (member : site ∈ block.outerSites) : site.isInner block = false := by
  have apart := (mem_outerSites.mp member).1
  simp only [Site.isInner, Bool.and_eq_false_iff, decide_eq_false_iff_not]
  omega

theorem getElem_mem_outerSites {index : Nat} (below : index < block.sites.length)
    (outer : ¬ index < block.innerSites.length) : block.sites[index] ∈ block.outerSites := by
  have past : index - block.innerSites.length < block.outerSites.length := by
    rw [sites, List.length_append] at below
    omega
  have there : block.sites[index] = block.outerSites[index - block.innerSites.length] :=
    List.getElem_append_right (Nat.not_lt.mp outer)
  rw [there]
  exact List.getElem_mem past

theorem neighbours_getElem? {index : Nat} (below : index < block.sites.length) :
    (block.innerSites.map fun site => block.cellIndex site.behind)[index]? =
      (block.sites[index].neighbour? block).map block.cellIndex := by
  unfold Site.neighbour?
  by_cases inner : index < block.innerSites.length
  · have here : block.sites[index] = block.innerSites[index] := List.getElem_append_left inner
    have between := (mem_innerSites.mp (List.getElem_mem inner)).1
    rw [here, between, List.getElem?_map, List.getElem?_eq_getElem inner]
    rfl
  · have apart := isInner_of_mem_outerSites (getElem_mem_outerSites below inner)
    rw [apart, List.getElem?_eq_none (by simpa using inner)]
    rfl

theorem walls_eq (block : Block α) (axis : Axis) : block.walls axis =
    (List.range (block.cells.entry axis - 1)).flatMap fun before =>
      (block.sitesAcross axis (before + 1)).map fun site =>
        ⟨site.corners block, block.cellIndex site.owner, block.cellIndex site.behind⟩ := by
  simp only [walls, sitesAcross, List.map_map]
  rfl

theorem ends_eq (solid : ∀ axis, 1 ≤ block.cells.entry axis) (side : Axis × Bool) :
    block.ends side.1 side.2 = (block.sitesAcross side.1 (block.levelOf side)).map fun site =>
      (site.corners block, block.cellIndex site.owner) := by
  obtain ⟨axis, upper⟩ := side
  have some : block.cells.entry axis ≠ 0 := Nat.ne_of_gt (solid axis)
  simp only [ends, sitesAcross, List.map_map, levelOf]
  cases upper with
  | false => rfl
  | true =>
    apply List.map_congr_left
    intro ⟨a, b⟩ _
    simp [Site.corners, Site.owner, some]

section Faces

variable [Scalar α]

def face (block : Block α) (site : Site) : Face α :=
  .ofCorners block.points (site.corners block) (block.cellIndex site.owner)
    ((site.neighbour? block).map block.cellIndex)

theorem addressing_faces (solid : ∀ axis, 1 ≤ block.cells.entry axis) :
    block.addressing.faces = block.sites.map (Site.corners block) := by
  simp only [addressing, sites, innerSites, outerSites, walls_eq, ends_eq solid, List.map_append,
    List.map_flatMap, List.flatMap_map, List.map_map]
  rfl

theorem addressing_owners (solid : ∀ axis, 1 ≤ block.cells.entry axis) :
    block.addressing.owners = block.sites.map fun site => block.cellIndex site.owner := by
  simp only [addressing, sites, innerSites, outerSites, walls_eq, ends_eq solid, List.map_append,
    List.map_flatMap, List.flatMap_map, List.map_map]
  rfl

theorem addressing_neighbours (block : Block α) :
    block.addressing.neighbours = block.innerSites.map fun site => block.cellIndex site.behind := by
  simp only [addressing, innerSites, walls_eq, List.map_flatMap, List.map_map]
  rfl

theorem assemble_faces (solid : ∀ axis, 1 ≤ block.cells.entry axis) :
    (Mesh.assemble block.addressing).faces = block.sites.map block.face := by
  unfold Mesh.assemble
  dsimp only
  rw [addressing_faces solid, addressing_owners solid, addressing_neighbours]
  apply List.ext_getElem
  · simp
  · intro index here there
    simp only [List.getElem_mapIdx, List.getElem_zip, List.getElem_map, face]
    rw [neighbours_getElem? (by simpa using there)]
    rfl

end Faces

end Block

end MeshLang
