import MeshLang.Proofs.Repository.History
import MeshLang.Proofs.Scalar.Exact

namespace MeshLang.Repository

variable {α : Type}

/-- At every level a field has the value that was stored last for the closest level not beyond it, and
the current value if there is none. -/
def Recalls (r : Repository α) (name : String) (stores : List (Nat × Value α))
    (current : Value α) : Prop :=
  ∀ level, ∃ v, r.resolveOld name level = .ok v ∧
    Region.Closest (Region.last? stores) current level v

/-- A level that was skipped and never stored later has the value of the closest newer level. It was
filled with the value that came for a deeper level, which may be another one. -/
def FillersAgree (stores : List (Nat × Value α)) (current : Value α) : Prop :=
  ∀ level v, 0 < level → Region.last? stores level = none → Region.filler? stores level = some v →
    Region.Closest (Region.last? stores) current level v

variable {stores : List (Nat × Value α)} {current : Value α}

/-- Filling up levels does no harm just where it repeats what a level falls back to. -/
theorem fallBack_held_iff :
    (∀ level, Region.fallBack (Region.held? stores) current level =
      Region.fallBack (Region.last? stores) current level) ↔ FillersAgree stores current := by
  constructor
  · intro same level v positive missing filled
    obtain ⟨before, rfl⟩ : ∃ before, level = before + 1 := ⟨level - 1, by omega⟩
    rw [Region.closest_iff, ← same, Region.fallBack, Region.held?, missing, filled]
    rfl
  · intro agree level
    induction level with
    | zero => rfl
    | succ level ih =>
      cases stored : Region.last? stores (level + 1) with
      | some v => simp [Region.fallBack, Region.held?, stored]
      | none =>
        cases filled : Region.filler? stores (level + 1) with
        | some v =>
          have closest := agree (level + 1) v (Nat.succ_pos level) stored filled
          rw [← Region.closest_iff.mp closest, Region.fallBack, Region.held?, stored, filled]
          rfl
        | none => simp [Region.fallBack, Region.held?, stored, filled, ih]

/-- Earlier values are there at every level, with those of skipped levels filled in; they are the
closest newer ones exactly if this agrees with what was filled in. -/
theorem recalls_iff [Scalar α] {mesh : Mesh α} {calls : List (Call α)} {r : Repository α}
    (serves : Serves (.ofMesh mesh) calls r) {name : String} (found : r.resolve name = .ok current) :
    (∀ level, ∃ v, r.resolveOld name level = .ok v ∧
      Region.Closest (Region.held? (earlier name calls)) current level v) ∧
    (r.Recalls name (earlier name calls) current ↔ FillersAgree (earlier name calls) current) := by
  have recalled := (serves.keeps_ofMesh name).resolveOld found
  refine ⟨fun level => ⟨_, recalled level, Region.closest_iff.mpr rfl⟩, ?_⟩
  rw [← fallBack_held_iff]
  refine forall_congr' fun level => ?_
  rw [recalled level]
  simp [Region.closest_iff]

section Tetrahedron

def changed (level : Nat) : List (Call Exact) :=
  [.insert "T" (.scalar .volume [Scalar.one]), .insertOld "T" level (.scalar .volume [Scalar.zero])]

theorem recalls_changed : ∃ r, Serves (.ofMesh Mesh.tetrahedron) (changed 1) r ∧
    r.resolve "T" = .ok (.scalar .volume [Scalar.one]) ∧
    r.Recalls "T" (earlier "T" (changed 1)) (.scalar .volume [Scalar.one]) := by
  have serves : Serves (.ofMesh Mesh.tetrahedron) (changed 1)
      ((ofMesh Mesh.tetrahedron).performAll (changed 1)) := .cons rfl (.cons rfl .nil)
  have found : ((ofMesh Mesh.tetrahedron).performAll (changed 1)).resolve "T" =
      .ok (.scalar .volume [Scalar.one]) := rfl
  refine ⟨_, serves, found, (recalls_iff serves found).2.mpr fun level v positive missing filled => ?_⟩
  have stored : earlier "T" (changed 1) = [(1, .scalar .volume [Scalar.zero])] := rfl
  rw [stored] at missing filled
  have below : level ≤ 1 := by
    by_contra above
    simp [Region.filler?, above] at filled
  obtain rfl : level = 1 := by omega
  cases missing

/-- The value from two steps back does for the step between as well. -/
theorem not_recalls_changed : ∃ r, Serves (.ofMesh Mesh.tetrahedron) (changed 2) r ∧
    r.resolve "T" = .ok (.scalar .volume [Scalar.one]) ∧
    ¬r.Recalls "T" (earlier "T" (changed 2)) (.scalar .volume [Scalar.one]) := by
  refine ⟨_, .cons rfl (.cons rfl .nil), rfl, fun recalls => ?_⟩
  obtain ⟨v, recalled, closest⟩ := recalls 1
  have older : v = .scalar .volume [Scalar.zero] := Except.ok.inj (recalled.symm.trans rfl)
  have newer : v = .scalar .volume [Scalar.one] := Region.closest_iff.mp closest
  exact absurd (older.symm.trans newer) (by decide)

end Tetrahedron

end MeshLang.Repository
