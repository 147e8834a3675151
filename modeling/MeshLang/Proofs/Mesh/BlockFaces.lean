import MeshLang.Proofs.Mesh.Assembled
import MeshLang.Proofs.Mesh.BlockAddressing

namespace MeshLang

variable {α : Type}

def Axis.step (axis : Axis) (place : Vec3 Nat) : Vec3 Nat :=
  axis.place (place.entry axis + 1) (place.entry axis.next) (place.entry axis.next.next)

def Vec3.total (place : Vec3 Nat) : Nat := place.x + place.y + place.z

namespace Axis

variable {axis other : Axis} {place : Vec3 Nat}

theorem total_step : (axis.step place).total = place.total + 1 := by
  cases axis <;> simp only [step, Axis.place, Axis.next, Vec3.total, Vec3.entry] <;> omega

theorem step_inj (same : axis.step place = other.step place) : axis = other := by
  cases axis <;> cases other <;> first
    | rfl
    | simp [step, Axis.place, Vec3.entry, Axis.next] at same

end Axis

def cycle {γ : Type} (loop : List γ) : List (γ × γ) := loop.zip (loop.drop 1 ++ loop.take 1)

theorem cycle_map {γ δ : Type} (f : γ → δ) (loop : List γ) :
    cycle (loop.map f) = (cycle loop).map (Prod.map f f) := by
  rw [cycle, ← List.map_drop, ← List.map_take, ← List.map_append, List.zip_map]
  rfl

namespace Face

def touches (cell : Nat) (face : Face α) : Bool :=
  face.owner == cell || face.neighbour? == some cell

def joins (cell other : Nat) (face : Face α) : Bool :=
  (face.owner == cell && face.neighbour? == some other) ||
    (face.owner == other && face.neighbour? == some cell)

/-- The corners of a face as seen from a cell with the normal pointing out of it. -/
def outward (face : Face α) : Side → List Nat
  | .owner => face.corners
  | .neighbour => face.corners.reverse

end Face

/-- The edges of the faces around a cell, each in the sense of its face as seen from the outside. -/
def Mesh.outwardEdges (mesh : Mesh α) (cell : Nat) : List (Nat × Nat) :=
  (facesAround mesh.faces cell).flatMap fun (face, side) => cycle (face.outward side)

namespace Block

def Adjacent (p q : Vec3 Nat) : Prop := ∃ axis : Axis, q = axis.step p ∨ p = axis.step q

def OnSide (block : Block α) (side : Axis × Bool) (face : Face α) : Prop :=
  ∀ point ∈ face.corners, ∃ place : Vec3 Nat, place.Below block.pointCounts ∧
    block.pointIndex place = point ∧ place.entry side.1 = block.levelOf side

variable {block : Block α} {site : Site} {p q : Vec3 Nat}

section Around

def Site.before (axis : Axis) (place : Vec3 Nat) : Site :=
  ⟨axis, place.entry axis, place.entry axis.next, place.entry axis.next.next⟩

def Site.after (axis : Axis) (place : Vec3 Nat) : Site :=
  ⟨axis, place.entry axis + 1, place.entry axis.next, place.entry axis.next.next⟩

/-- The side of the square before a place on which the place lies: only at the lower end is there
nothing else that could own the square. -/
def lowerSide (axis : Axis) (place : Vec3 Nat) : Side :=
  if place.entry axis = 0 then .owner else .neighbour

def around (place : Vec3 Nat) : List (Site × Side) :=
  Axis.all.flatMap fun axis =>
    [(Site.before axis place, lowerSide axis place), (Site.after axis place, .owner)]

theorem mem_around {side : Side} : (site, side) ∈ around p ↔
    (site = .before site.axis p ∧ side = lowerSide site.axis p) ∨
      (site = .after site.axis p ∧ side = .owner) := by
  simp only [around, List.mem_flatMap, List.mem_cons, List.not_mem_nil, or_false, Prod.mk.injEq]
  constructor
  · rintro ⟨axis, -, ⟨rfl, rfl⟩ | ⟨rfl, rfl⟩⟩
    · exact .inl ⟨rfl, rfl⟩
    · exact .inr ⟨rfl, rfl⟩
  · intro here
    exact ⟨site.axis, Axis.mem_all, here⟩

theorem around_nodup (place : Vec3 Nat) : ((around place).map Prod.fst).Nodup := by
  unfold around
  rw [List.map_flatMap]
  refine nodup_flatMap_of_key Site.axis (by decide) (fun axis _ => ?_) ?_
  · simp [Site.before, Site.after]
  · intro axis site member
    simp only [List.map_cons, List.map_nil, List.mem_cons, List.not_mem_nil, or_false] at member
    rcases member with rfl | rfl <;> rfl

theorem Site.before_mem (below : p.Below block.cells) (axis : Axis) :
    Site.before axis p ∈ block.sites :=
  mem_sites.mpr ⟨Nat.le_of_lt (below axis), below _, below _⟩

theorem Site.after_mem (below : p.Below block.cells) (axis : Axis) :
    Site.after axis p ∈ block.sites :=
  mem_sites.mpr ⟨below axis, below _, below _⟩

theorem mem_sites_of_around (below : p.Below block.cells) {side : Side}
    (lies : (site, side) ∈ around p) : site ∈ block.sites := by
  rcases mem_around.mp lies with ⟨same, -⟩ | ⟨same, -⟩ <;> rw [same]
  · exact Site.before_mem below _
  · exact Site.after_mem below _

theorem Site.owner_eq_iff : site.owner = p ↔
    site = .after site.axis p ∨ (site = .before site.axis p ∧ p.entry site.axis = 0) := by
  obtain ⟨axis, level, a, b⟩ := site
  simp only [owner, before, after, Axis.place_eq_iff, Site.mk.injEq, true_and]
  omega

theorem Site.behind_eq_iff : site.behind = p ↔ site = .before site.axis p := by
  obtain ⟨axis, level, a, b⟩ := site
  simp only [behind, before, Axis.place_eq_iff, Site.mk.injEq, true_and]

end Around

section Faces

variable [Scalar α]

theorem mem_sides_face (solid : ∀ axis, 1 ≤ block.cells.entry axis) (below : p.Below block.cells)
    (member : site ∈ block.sites) {side : Side} :
    side ∈ (block.face site).sides (block.cellIndex p) ↔ (site, side) ∈ around p := by
  have owner : (block.face site).owner = block.cellIndex p ↔ site.owner = p :=
    cellIndex_inj (site.owner_below solid member) below
  have neighbour : (block.face site).neighbour? = some (block.cellIndex p) ↔
      site.isInner block = true ∧ site.behind = p := by
    show ((site.neighbour? block).map block.cellIndex) = _ ↔ _
    unfold Site.neighbour?
    by_cases inner : site.isInner block = true
    · simp [inner, cellIndex_inj (site.behind_below member inner) below]
    · simp [inner]
  have inner : site = .before site.axis p →
      (site.isInner block = true ↔ p.entry site.axis ≠ 0) := by
    intro here
    have level : site.level = p.entry site.axis := congrArg Site.level here
    have small := below site.axis
    simp only [Site.isInner, level, small, decide_true, Bool.and_true, decide_eq_true_eq]
    exact Nat.pos_iff_ne_zero
  rw [Face.mem_sides, owner, neighbour, mem_around, Site.owner_eq_iff, Site.behind_eq_iff]
  by_cases low : p.entry site.axis = 0
  · have side' : lowerSide site.axis p = .owner := if_pos low
    rw [side']
    cases side <;> simp only [low, reduceCtorEq, true_and, false_and, and_true, and_false, or_false,
      false_or] <;> tauto
  · have side' : lowerSide site.axis p = .neighbour := if_neg low
    rw [side']
    cases side <;> simp only [low, reduceCtorEq, true_and, false_and, and_true, and_false, or_false,
      false_or]
    tauto

theorem facesAround_perm (solid : ∀ axis, 1 ≤ block.cells.entry axis)
    (below : p.Below block.cells) :
    (facesAround (block.sites.map block.face) (block.cellIndex p)).Perm
      ((around p).map fun (site, side) => (block.face site, side)) := by
  let sided := block.sites.flatMap fun site =>
    ((block.face site).sides (block.cellIndex p)).map (site, ·)
  have faces : facesAround (block.sites.map block.face) (block.cellIndex p) =
      sided.map fun (site, side) => (block.face site, side) := by
    simp only [facesAround, sided, List.flatMap_map, List.map_flatMap, List.map_map]
    rfl
  have distinct : sided.Nodup := by
    refine nodup_flatMap_of_key Prod.fst (sites_nodup solid) (fun site _ => ?_) ?_
    · refine List.Nodup.map (fun side side' same => (Prod.mk.inj same).2) ?_
      unfold Face.sides
      split <;> split <;> simp
    · intro site pair member
      obtain ⟨side, -, rfl⟩ := List.mem_map.mp member
      rfl
  rw [faces]
  refine List.Perm.map _ ((List.perm_ext_iff_of_nodup distinct ?_).mpr ?_)
  · exact List.Nodup.of_map Prod.fst (around_nodup p)
  · rintro ⟨site, side⟩
    simp only [sided, List.mem_flatMap, List.mem_map, Prod.mk.injEq]
    constructor
    · rintro ⟨site', here, side', lies, rfl, rfl⟩
      exact (mem_sides_face solid below here).mp lies
    · intro lies
      have here := mem_sites_of_around below lies
      exact ⟨site, here, side, (mem_sides_face solid below here).mpr lies, rfl, rfl⟩

theorem countP_faces (solid : ∀ axis, 1 ≤ block.cells.entry axis) {test : Face α → Bool}
    (expected : List Site) (distinct : expected.Nodup)
    (exact : ∀ site, site ∈ expected ↔ site ∈ block.sites ∧ test (block.face site) = true) :
    (block.sites.map block.face).countP test = expected.length := by
  rw [List.countP_map, List.countP_eq_length_filter]
  refine ((List.perm_ext_iff_of_nodup ((sites_nodup solid).filter _) distinct).mpr ?_).length_eq
  intro site
  rw [List.mem_filter, exact]
  rfl

theorem countP_touches (solid : ∀ axis, 1 ≤ block.cells.entry axis)
    (below : p.Below block.cells) :
    (block.sites.map block.face).countP (Face.touches (block.cellIndex p)) = 6 := by
  refine countP_faces solid _ (around_nodup p) fun site => ?_
  have touching : (block.face site).touches (block.cellIndex p) = true ↔
      ∃ side, side ∈ (block.face site).sides (block.cellIndex p) := by
    simp [Face.mem_sides, Face.touches, exists_or]
  rw [touching, List.mem_map]
  constructor
  · rintro ⟨⟨site, side⟩, lies, rfl⟩
    have here := mem_sites_of_around below lies
    exact ⟨here, side, (mem_sides_face solid below here).mpr lies⟩
  · rintro ⟨here, side, lies⟩
    exact ⟨(site, side), (mem_sides_face solid below here).mp lies, rfl⟩

theorem joins_iff (solid : ∀ axis, 1 ≤ block.cells.entry axis) (first : p.Below block.cells)
    (second : q.Below block.cells) (member : site ∈ block.sites) :
    (block.face site).joins (block.cellIndex p) (block.cellIndex q) = true ↔
      site.isInner block = true ∧
        ((site.owner = p ∧ site.behind = q) ∨ (site.owner = q ∧ site.behind = p)) := by
  have owned := site.owner_below solid member
  show ((block.cellIndex site.owner == block.cellIndex p &&
      (site.neighbour? block).map block.cellIndex == some (block.cellIndex q)) ||
    (block.cellIndex site.owner == block.cellIndex q &&
      (site.neighbour? block).map block.cellIndex == some (block.cellIndex p))) = true ↔ _
  unfold Site.neighbour?
  by_cases inner : site.isInner block = true
  · have behind := site.behind_below member inner
    simp [inner, cellIndex_inj owned first, cellIndex_inj owned second, cellIndex_inj behind first,
      cellIndex_inj behind second]
  · simp [inner]

omit [Scalar α] in
theorem Site.behind_eq_step (inner : site.isInner block = true) :
    site.behind = site.axis.step site.owner := by
  simp only [isInner, Bool.and_eq_true, decide_eq_true_eq] at inner
  have level : site.level - 1 + 1 = site.level := Nat.sub_add_cancel inner.1
  simp only [behind, owner, Axis.step, Axis.place_entry, Axis.place_next, Axis.place_last, level]

theorem countP_joins_step (solid : ∀ axis, 1 ≤ block.cells.entry axis) (first : p.Below block.cells)
    {axis : Axis} (second : (axis.step p).Below block.cells) :
    (block.sites.map block.face).countP
      (Face.joins (block.cellIndex p) (block.cellIndex (axis.step p))) = 1 := by
  refine countP_faces solid [.after axis p] (List.nodup_singleton _) fun site => ?_
  rw [List.mem_singleton]
  constructor
  · rintro rfl
    have here := Site.after_mem first axis
    have further := second axis
    simp only [Axis.step, Axis.place_entry] at further
    have inner : (Site.after axis p).isInner block = true := by
      simp [Site.isInner, Site.after, further]
    refine ⟨here, (joins_iff solid first second here).mpr ⟨inner, .inl ⟨?_, rfl⟩⟩⟩
    exact Site.owner_eq_iff.mpr (.inl rfl)
  · rintro ⟨here, joined⟩
    obtain ⟨inner, ⟨owner, behind⟩ | ⟨owner, behind⟩⟩ := (joins_iff solid first second here).mp joined
    · rw [Site.behind_eq_step inner, owner] at behind
      have across : site.axis = axis := Axis.step_inj behind
      rcases Site.owner_eq_iff.mp owner with same | ⟨same, low⟩
      · rw [same, across]
      · have level : site.level = p.entry site.axis := congrArg Site.level same
        simp [Site.isInner, level, low] at inner
    · rw [Site.behind_eq_step inner, owner] at behind
      have grown := congrArg Vec3.total behind
      rw [Axis.total_step, Axis.total_step] at grown
      omega

theorem countP_joins (solid : ∀ axis, 1 ≤ block.cells.entry axis) (first : p.Below block.cells)
    (second : q.Below block.cells) (adjacent : Adjacent p q) :
    (block.sites.map block.face).countP
      (Face.joins (block.cellIndex p) (block.cellIndex q)) = 1 := by
  obtain ⟨axis, rfl | rfl⟩ := adjacent
  · exact countP_joins_step solid first second
  · have swapped : (Face.joins (block.cellIndex (axis.step q)) (block.cellIndex q) : Face α → Bool) =
        Face.joins (block.cellIndex q) (block.cellIndex (axis.step q)) := by
      funext face
      exact Bool.or_comm _ _
    rw [swapped]
    exact countP_joins_step solid second first

theorem countP_joins_apart (solid : ∀ axis, 1 ≤ block.cells.entry axis)
    (first : p.Below block.cells) (second : q.Below block.cells) (apart : ¬ Adjacent p q) :
    (block.sites.map block.face).countP
      (Face.joins (block.cellIndex p) (block.cellIndex q)) = 0 := by
  rw [List.countP_eq_zero]
  intro face member joined
  obtain ⟨site, here, rfl⟩ := List.mem_map.mp member
  obtain ⟨inner, ⟨rfl, rfl⟩ | ⟨rfl, rfl⟩⟩ := (joins_iff solid first second here).mp joined
  · exact apart ⟨site.axis, .inl (Site.behind_eq_step inner)⟩
  · exact apart ⟨site.axis, .inr (Site.behind_eq_step inner)⟩

theorem owner_lt_neighbour (solid : ∀ axis, 1 ≤ block.cells.entry axis) {neighbour : Nat}
    (found : (block.face site).neighbour? = some neighbour) :
    (block.face site).owner < neighbour := by
  obtain ⟨place, behind, rfl⟩ := Option.map_eq_some_iff.mp found
  unfold Site.neighbour? at behind
  split at behind
  · rename_i inner
    obtain rfl := Option.some.inj behind
    rw [Site.behind_eq_step inner]
    have step := Vec3.number_step site.axis (site.owner.entry site.axis)
      (site.owner.entry site.axis.next) (site.owner.entry site.axis.next.next) (solid .x) (solid .y)
    rwa [Axis.place_entries] at step
  · cases behind

end Faces

section Edges

def cubeSquare (axis : Axis) (level : Nat) : List (Vec3 Nat) :=
  [axis.place level 0 0, axis.place level 1 0, axis.place level 1 1, axis.place level 0 1]

def cubeEdges : List (Vec3 Nat × Vec3 Nat) :=
  Axis.all.flatMap fun axis =>
    cycle (cubeSquare axis 0).reverse ++ cycle (cubeSquare axis 1)

theorem cubeEdges_nodup : cubeEdges.Nodup := by decide

theorem cubeEdges_swap : ∀ edge ∈ cubeEdges, edge.swap ∈ cubeEdges := by decide

theorem cubeEdges_small : ∀ edge ∈ cubeEdges, (edge.1.x ≤ 1 ∧ edge.1.y ≤ 1 ∧ edge.1.z ≤ 1) ∧
    edge.2.x ≤ 1 ∧ edge.2.y ≤ 1 ∧ edge.2.z ≤ 1 := by decide

def corner (block : Block α) (place offset : Vec3 Nat) : Nat :=
  block.pointIndex (place.zipWith (· + ·) offset)

theorem corner_inj (below : p.Below block.cells) {offset other : Vec3 Nat}
    (small : offset.x ≤ 1 ∧ offset.y ≤ 1 ∧ offset.z ≤ 1)
    (small' : other.x ≤ 1 ∧ other.y ≤ 1 ∧ other.z ≤ 1)
    (same : block.corner p offset = block.corner p other) : offset = other := by
  have inside {offset : Vec3 Nat} (small : offset.x ≤ 1 ∧ offset.y ≤ 1 ∧ offset.z ≤ 1) :
      (p.zipWith (· + ·) offset).Below block.pointCounts := by
    obtain ⟨x, y, z⟩ := small
    intro axis
    have here := below axis
    rw [pointCounts_entry]
    cases axis <;> simp only [Vec3.zipWith, Vec3.entry] at here ⊢ <;> omega
  have places := Vec3.number_inj (inside small) (inside small') same
  cases offset
  cases other
  simpa [Vec3.zipWith] using places

theorem square_eq (block : Block α) (axis : Axis) (place : Vec3 Nat) (level : Nat) :
    block.square axis (place.entry axis + level) (place.entry axis.next)
      (place.entry axis.next.next) = (cubeSquare axis level).map (block.corner place) := by
  cases axis <;> rfl

variable [Scalar α]

theorem outward_before (block : Block α) (axis : Axis) (place : Vec3 Nat) :
    (block.face (.before axis place)).outward (lowerSide axis place) =
      ((cubeSquare axis 0).map (block.corner place)).reverse := by
  rw [← square_eq]
  unfold lowerSide
  by_cases low : place.entry axis = 0
  · rw [if_pos low]
    show (if place.entry axis = 0 then _ else _) = _
    rw [if_pos low]
    rfl
  · rw [if_neg low]
    show List.reverse (if place.entry axis = 0 then _ else _) = _
    rw [if_neg low]
    rfl

theorem outward_after (block : Block α) (axis : Axis) (place : Vec3 Nat) :
    (block.face (.after axis place)).outward .owner =
      (cubeSquare axis 1).map (block.corner place) := by
  rw [← square_eq]
  rfl

theorem outwardEdges_perm (solid : ∀ axis, 1 ≤ block.cells.entry axis) {mesh : Mesh α}
    (faces : mesh.faces = block.sites.map block.face) (below : p.Below block.cells) :
    (mesh.outwardEdges (block.cellIndex p)).Perm
      (cubeEdges.map (Prod.map (block.corner p) (block.corner p))) := by
  unfold Mesh.outwardEdges
  rw [faces]
  refine ((facesAround_perm solid below).flatMap_right _).trans (List.Perm.of_eq ?_)
  simp only [around, cubeEdges, List.flatMap_map, List.flatMap_assoc, List.map_flatMap,
    List.flatMap_cons, List.flatMap_nil, List.append_nil, outward_before, outward_after,
    List.map_append, cycle_map, ← List.map_reverse]

theorem outwardEdges_closed (solid : ∀ axis, 1 ≤ block.cells.entry axis) {mesh : Mesh α}
    (faces : mesh.faces = block.sites.map block.face) (below : p.Below block.cells) :
    (mesh.outwardEdges (block.cellIndex p)).Nodup ∧ ∀ a b,
      (a, b) ∈ mesh.outwardEdges (block.cellIndex p) →
        (b, a) ∈ mesh.outwardEdges (block.cellIndex p) := by
  have edges := outwardEdges_perm solid faces below
  constructor
  · refine edges.nodup_iff.mpr (cubeEdges_nodup.map_on fun edge member other member' same => ?_)
    obtain ⟨first, second⟩ := cubeEdges_small edge member
    obtain ⟨first', second'⟩ := cubeEdges_small other member'
    obtain ⟨one, two⟩ := Prod.mk.inj same
    exact Prod.ext (corner_inj below first first' one) (corner_inj below second second' two)
  · intro a b member
    obtain ⟨⟨start, stop⟩, here, same⟩ := List.mem_map.mp (edges.mem_iff.mp member)
    obtain ⟨rfl, rfl⟩ := Prod.mk.inj same
    exact edges.mem_iff.mpr (List.mem_map.mpr ⟨(stop, start), cubeEdges_swap _ here, rfl⟩)

end Edges

section Patches

variable [Scalar α]

theorem patches_sided (solid : ∀ axis, 1 ≤ block.cells.entry axis) :
    List.Forall₂ (fun patch side => patch.name = sideName side ∧
      ∀ face ∈ ((block.sites.map block.face).drop patch.start).take patch.size,
        block.OnSide side face) block.addressing.patches sides := by
  have cuts := patchesFrom_cuts (block.innerSites.map block.face) (sides.map fun side =>
    (sideName side, (block.sitesAcross side.1 (block.levelOf side)).map block.face))
  rw [addressing_patches solid]
  rw [List.map_map, List.length_map, List.forall₂_map_right_iff, List.flatMap_map] at cuts
  have faces : block.innerSites.map block.face ++ (sides.flatMap fun side =>
      (block.sitesAcross side.1 (block.levelOf side)).map block.face) =
        block.sites.map block.face := by
    rw [sites, outerSites, List.map_append, List.map_flatMap]
  rw [faces] at cuts
  simp only [Function.comp_def, List.length_map] at cuts
  refine cuts.imp fun patch side both => ⟨both.1, ?_⟩
  rw [both.2]
  intro face member point corner
  obtain ⟨site, here, rfl⟩ := List.mem_map.mp member
  obtain ⟨across, level, next, last⟩ := mem_sitesAcross.mp here
  have high : block.levelOf side ≤ block.cells.entry side.1 := by
    unfold levelOf
    split <;> omega
  rw [← across, ← level] at high
  rw [← across] at next last
  obtain ⟨place, below, found, high⟩ := site.mem_corners (mem_sites.mpr ⟨high, next, last⟩) corner
  rw [across, level] at high
  exact ⟨place, below, found, high⟩

end Patches

end Block

end MeshLang
