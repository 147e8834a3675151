import MeshLang.Mesh.Addressing

namespace MeshLang

def Patch.contains (patch : Patch) (face : Nat) : Bool :=
  decide (patch.start ≤ face) && decide (face < patch.stop)

theorem Patch.contains_iff {patch : Patch} {face : Nat} :
    patch.contains face = true ↔ patch.start ≤ face ∧ face < patch.stop := by
  simp [contains]

def Patch.next (start : Nat) (patches : List Patch) : Nat :=
  patches.foldl (fun next patch => next + patch.size) start

theorem Patch.le_next (start : Nat) (patches : List Patch) : start ≤ next start patches := by
  induction patches generalizing start with
  | nil => exact Nat.le_refl start
  | cons patch rest ih => exact Nat.le_trans (Nat.le_add_right _ _) (ih (start + patch.size))

/-- Each patch starts behind the faces of all patches before it, and the last one ends at `stop`. -/
structure Patch.Tile (start stop : Nat) (patches : List Patch) : Prop where
  starts : ∀ index patch, patches[index]? = some patch →
    patch.start = next start (patches.take index)
  ends : next start patches = stop

/-- A description of a mesh that can be built. -/
structure Addressing.WellFormed {α : Type} (a : Addressing α) : Prop where
  owners : a.owners.length = a.faces.length
  neighbours : a.neighbours.length ≤ a.faces.length
  degrees : ∀ corners ∈ a.faces, 3 ≤ corners.length
  corners : ∀ corners ∈ a.faces, ∀ point ∈ corners, point < a.points.length
  tiled : Patch.Tile a.neighbours.length a.faces.length a.patches

namespace Addressing

section Patches

variable {start stop : Nat} {patches : List Patch}

theorem covers_cons {patch : Patch} : covers start stop (patch :: patches) = true ↔
    patch.start = start ∧ covers (start + patch.size) stop patches = true := by
  simp [covers]

theorem covers_iff : covers start stop patches = true ↔ Patch.Tile start stop patches := by
  induction patches generalizing start with
  | nil =>
    constructor
    · intro covered
      exact ⟨fun _ _ absent => (by cases absent), of_decide_eq_true covered⟩
    · intro tile
      exact decide_eq_true tile.ends
  | cons patch rest ih =>
    rw [covers_cons, ih]
    constructor
    · rintro ⟨first, later⟩
      refine ⟨fun index other found => ?_, later.ends⟩
      cases index with
      | zero => cases found; exact first
      | succ index => exact later.starts index other found
    · intro tile
      exact ⟨tile.starts 0 patch rfl, fun index => tile.starts (index + 1), tile.ends⟩

example : covers 2 5 [⟨"wall", 2, 3⟩, ⟨"empty", 5, 0⟩] = true := rfl

example : covers 2 5 [⟨"wall", 2, 2⟩] = false := rfl

theorem covers_le (covered : covers start stop patches = true) : start ≤ stop := by
  rw [← (covers_iff.mp covered).ends]
  exact Patch.le_next start patches

/-- Of the patches that cover some faces, exactly one contains each of them, and none contains any
other face. -/
theorem countP_contains (covered : covers start stop patches = true) (face : Nat) :
    patches.countP (·.contains face) = if start ≤ face ∧ face < stop then 1 else 0 := by
  induction patches generalizing start with
  | nil =>
    have empty : start = stop := by simpa [covers] using covered
    rw [List.countP_nil, if_neg (by omega)]
  | cons patch rest ih =>
    obtain ⟨first, later⟩ := covers_cons.mp covered
    have bound := covers_le later
    rw [List.countP_cons, ih later]
    by_cases here : patch.contains face = true
    · have inside := Patch.contains_iff.mp here
      unfold Patch.stop at inside
      rw [if_pos here, if_neg (by omega), if_pos (by omega)]
    · have outside := mt Patch.contains_iff.mpr here
      unfold Patch.stop at outside
      have same : start + patch.size ≤ face ∧ face < stop ↔ start ≤ face ∧ face < stop := by omega
      simp only [same, if_neg here, Nat.add_zero]

theorem patches_apart (covered : covers start stop patches = true) :
    patches.Pairwise fun patch later => patch.stop ≤ later.start := by
  induction patches generalizing start with
  | nil => exact .nil
  | cons patch rest ih =>
    obtain ⟨first, later⟩ := covers_cons.mp covered
    refine .cons (fun other member => ?_) (ih later)
    obtain ⟨index, found⟩ := List.mem_iff_getElem?.mp member
    rw [(covers_iff.mp later).starts index other found, ← first]
    exact Patch.le_next _ _

end Patches

variable {α : Type} {a : Addressing α}

theorem checkFaces_iff {count : Nat} (index : Nat) {faces : List (List Nat)} :
    checkFaces count index faces = .ok () ↔
      ∀ corners ∈ faces, 3 ≤ corners.length ∧ ∀ point ∈ corners, point < count := by
  induction faces generalizing index with
  | nil => simp [checkFaces]
  | cons corners rest ih =>
    rw [List.forall_mem_cons, ← ih (index + 1), checkFaces]
    by_cases few : corners.length < 3
    · simp [few, Nat.not_le.mpr few]
    · cases outside : corners.find? fun point => decide (count ≤ point) with
      | some point =>
        have far : count ≤ point := by simpa using List.find?_some outside
        have member := List.mem_of_find?_eq_some outside
        simp only [few, if_false, reduceCtorEq, false_iff]
        exact fun inside => Nat.not_lt.mpr far (inside.1.2 point member)
      | none =>
        have inside : ∀ point ∈ corners, point < count := by simpa using outside
        simp only [few, if_false, Nat.not_lt.mp few, true_and]
        exact ⟨fun rest => ⟨inside, rest⟩, fun both => both.2⟩

theorem check_iff : a.check = .ok () ↔
    a.owners.length = a.faces.length ∧ a.neighbours.length ≤ a.faces.length ∧
      checkFaces a.points.length 0 a.faces = .ok () ∧
      covers a.neighbours.length a.faces.length a.patches = true := by
  unfold check
  by_cases owners : a.owners.length = a.faces.length
  · by_cases neighbours : a.faces.length < a.neighbours.length
    · simp [owners, neighbours, Nat.not_le.mpr neighbours, bind, Except.bind, throw, throwThe,
        MonadExceptOf.throw]
    · cases faces : checkFaces a.points.length 0 a.faces with
      | error error => simp [owners, neighbours, bind, Except.bind]
      | ok _ =>
        cases covered : covers a.neighbours.length a.faces.length a.patches <;>
          simp [owners, neighbours, Nat.not_lt.mp neighbours, bind, Except.bind, throw, throwThe,
            MonadExceptOf.throw, pure, Except.pure]
  · simp [owners, bind, Except.bind, throw, throwThe, MonadExceptOf.throw]

theorem check_iff_wellFormed : a.check = .ok () ↔ a.WellFormed := by
  rw [check_iff, checkFaces_iff 0, covers_iff]
  constructor
  · rintro ⟨owners, neighbours, faces, tiled⟩
    exact ⟨owners, neighbours, fun corners member => (faces corners member).1,
      fun corners member => (faces corners member).2, tiled⟩
  · rintro ⟨owners, neighbours, degrees, corners, tiled⟩
    exact ⟨owners, neighbours, fun face member => ⟨degrees face member, corners face member⟩, tiled⟩

end Addressing

end MeshLang
