import Mathlib.Data.List.Sort
import MeshLang.Mesh.Geometry
import MeshLang.Proofs.Mesh.Assembled

namespace MeshLang

namespace Incidence

section Ordering

variable {x : Nat} {xs : List Nat}

theorem mem_dropRepeats : x ∈ dropRepeats xs ↔ x ∈ xs := by
  fun_induction dropRepeats xs with
  | case1 => rfl
  | case2 => rfl
  | case3 y rest ih => rw [ih]; simp
  | case4 y z rest apart ih => rw [List.mem_cons, ih, ← List.mem_cons]

theorem dropRepeats_increasing (sorted : xs.Pairwise (· ≤ ·)) :
    (dropRepeats xs).Pairwise (· < ·) := by
  fun_induction dropRepeats xs with
  | case1 => exact .nil
  | case2 y => exact List.pairwise_singleton _ y
  | case3 y rest ih => exact ih sorted.tail
  | case4 y z rest apart ih =>
    obtain ⟨below, later⟩ := List.pairwise_cons.mp sorted
    refine .cons (fun other member => ?_) (ih later)
    have first : y < z := Nat.lt_of_le_of_ne (below z List.mem_cons_self) apart
    rcases List.mem_cons.mp (mem_dropRepeats.mp member) with rfl | behind
    · exact first
    · exact Nat.lt_of_lt_of_le first ((List.pairwise_cons.mp later).1 other behind)

theorem mem_inOrder : x ∈ inOrder xs ↔ x ∈ xs := by
  rw [inOrder, mem_dropRepeats, List.mem_mergeSort]

theorem inOrder_increasing (xs : List Nat) : (inOrder xs).Pairwise (· < ·) :=
  dropRepeats_increasing (List.pairwise_mergeSort' (· ≤ ·) xs)

end Ordering

variable {α : Type}

section Faces

/-- The corners of the faces around a cell, as often as a side of a face lies there. -/
def cornersAround (faces : List (Face α)) (cell : Nat) : List Nat :=
  (facesAround faces cell).flatMap fun side => side.1.corners

theorem mem_cornersAround {faces : List (Face α)} {cell point : Nat} :
    point ∈ cornersAround faces cell ↔ Face.Incident faces cell point := by
  rw [cornersAround, List.mem_flatMap, incident_iff_around]

theorem handCorners_getElem? (table : List (List Nat)) (face : Face α) (cell : Nat) :
    (handCorners table face)[cell]? =
      table[cell]?.map (· ++ (face.sides cell).flatMap fun _ => face.corners) := by
  unfold handCorners Face.cells Face.sides
  cases neighbour : face.neighbour? with
  | none => by_cases owner : face.owner = cell <;> simp [owner]
  | some other =>
    by_cases owner : face.owner = cell <;> by_cases beside : other = cell <;>
      simp [owner, beside, Function.comp_def]

theorem handed_getElem? (faces : List (Face α)) (table : List (List Nat)) (cell : Nat) :
    (faces.foldl handCorners table)[cell]? = table[cell]?.map (· ++ cornersAround faces cell) := by
  induction faces generalizing table with
  | nil => simp [cornersAround, facesAround]
  | cons face rest ih =>
    rw [List.foldl_cons, ih, handCorners_getElem?, Option.map_map]
    simp [cornersAround, facesAround, Function.comp_def, List.flatMap_map]

theorem handed_eq (faces : List (Face α)) (cells : Nat) :
    faces.foldl handCorners (List.replicate cells []) =
      (List.range cells).map (cornersAround faces) := by
  apply List.ext_getElem?
  intro cell
  rw [handed_getElem?]
  by_cases inside : cell < cells <;> simp [inside]

end Faces

section Cells

variable {handed : List (List Nat)} {count : Nat}

theorem enter_getElem? {points : List Nat} (distinct : points.Nodup) (cell : Nat)
    (table : List (List Nat)) (point : Nat) :
    (points.foldl (enter cell) table)[point]? =
      table[point]?.map fun cells => if point ∈ points then cells ++ [cell] else cells := by
  induction points generalizing table with
  | nil => simp
  | cons first rest ih =>
    obtain ⟨apart, later⟩ := List.nodup_cons.mp distinct
    rw [List.foldl_cons, ih later, enter, List.getElem?_modify]
    by_cases here : first = point
    · subst here
      simp [apart, Function.comp_def]
    · simp [here, Ne.symm here]

/-- The tables when the first `settled` cells have had their turn. -/
def halfway (handed : List (List Nat)) (count settled : Nat) : Incidence :=
  (List.range settled).foldl settle ⟨handed, List.replicate count []⟩

theorem halfway_succ (settled : Nat) :
    halfway handed count (settled + 1) = (halfway handed count settled).settle settled := by
  simp [halfway, List.range_succ]

/-- Cells that have had their turn are in order, the others still have what they were handed. -/
theorem halfway_cellPoints (settled cell : Nat) :
    (halfway handed count settled).cellPoints[cell]? =
      handed[cell]?.map fun points => if cell < settled then inOrder points else points := by
  induction settled generalizing cell with
  | zero => simp [halfway]
  | succ settled ih =>
    rw [halfway_succ, settle, List.getElem?_modify, ih]
    by_cases here : settled = cell
    · simp [here]
    · have same : cell < settled + 1 ↔ cell < settled := by omega
      simp [here, same]

theorem halfway_pointCells (settled point : Nat) (all : settled ≤ handed.length) :
    (halfway handed count settled).pointCells[point]? =
      (List.range count)[point]?.map fun _ => (List.range settled).filter fun cell =>
        (handed.getD cell []).contains point := by
  induction settled with
  | zero => by_cases inside : point < count <;> simp [halfway, inside]
  | succ settled ih =>
    have turn : ((halfway handed count settled).cellPoints.modify settled inOrder).getD settled [] =
        inOrder (handed.getD settled []) := by
      have below : settled < handed.length := all
      rw [List.getD_eq_getElem?_getD, List.getElem?_modify, halfway_cellPoints]
      simp [below]
    rw [halfway_succ, settle, turn, enter_getElem? (inOrder_increasing _).nodup,
      ih (Nat.le_of_succ_le all), Option.map_map, List.range_succ]
    congr 1
    funext _
    by_cases listed : point ∈ handed.getD settled [] <;>
      simp [mem_inOrder, listed, -List.getD_eq_getElem?_getD]

theorem ofFaces_eq (faces : List (Face α)) (cells points : Nat) : ofFaces faces cells points =
    halfway ((List.range cells).map (cornersAround faces)) points cells :=
  congrArg (halfway · points cells) (handed_eq faces cells)

theorem ofFaces_cellPoints (faces : List (Face α)) (cells points : Nat) :
    (ofFaces faces cells points).cellPoints =
      (List.range cells).map fun cell => inOrder (cornersAround faces cell) := by
  apply List.ext_getElem?
  intro cell
  rw [ofFaces_eq, halfway_cellPoints]
  by_cases inside : cell < cells <;> simp [inside]

theorem ofFaces_pointCells (faces : List (Face α)) (cells points : Nat) :
    (ofFaces faces cells points).pointCells =
      (List.range points).map fun point => (List.range cells).filter fun cell =>
        (cornersAround faces cell).contains point := by
  apply List.ext_getElem?
  intro point
  rw [ofFaces_eq, halfway_pointCells _ _ (by simp), List.getElem?_map]
  by_cases inside : point < points
  · rw [List.getElem?_range inside, Option.map_some, Option.map_some]
    congr 1
    apply List.filter_congr
    intro cell member
    simp [List.mem_range.mp member]
  · simp [inside]

end Cells

end Incidence

end MeshLang
