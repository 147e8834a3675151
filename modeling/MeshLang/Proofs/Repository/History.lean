import MeshLang.Proofs.Repository.Changes

namespace MeshLang

variable {α : Type}

namespace Region

def last? (stores : List (Nat × Value α)) (level : Nat) : Option (Value α) :=
  stores.reverse.lookup level

/-- The value that came first for a level or for a deeper one. -/
def filler? (stores : List (Nat × Value α)) (level : Nat) : Option (Value α) :=
  (stores.find? fun stored => level ≤ stored.1).map (·.2)

def held? (stores : List (Nat × Value α)) (level : Nat) : Option (Value α) :=
  (last? stores level).or (filler? stores level)

/-- The value of the closest level that has one, from a level on down to the first, or else the
current value. -/
inductive Closest (value? : Nat → Option (Value α)) (current : Value α) (level : Nat) :
    Value α → Prop where
  | stored {nearest : Nat} {v : Value α} : 0 < nearest → nearest ≤ level →
      value? nearest = some v →
      (∀ between, nearest < between → between ≤ level → value? between = none) →
      Closest value? current level v
  | current : (∀ newer, 0 < newer → newer ≤ level → value? newer = none) →
      Closest value? current level current

def fallBack (value? : Nat → Option (Value α)) (current : Value α) : Nat → Value α
  | 0 => current
  | level + 1 => (value? (level + 1)).getD (fallBack value? current level)

section Levels

variable {value? : Nat → Option (Value α)} {current v : Value α} {level : Nat}

theorem closest_zero : Closest value? current 0 v ↔ v = current := by
  constructor
  · intro closest
    cases closest with
    | stored positive below => omega
    | current => rfl
  · rintro rfl
    exact .current fun newer positive below => by omega

theorem closest_succ : Closest value? current (level + 1) v ↔
    value? (level + 1) = some v ∨ value? (level + 1) = none ∧ Closest value? current level v := by
  constructor
  · intro closest
    cases closest with
    | @stored nearest _ positive below found gap =>
      by_cases here : nearest = level + 1
      · exact .inl (here ▸ found)
      · refine .inr ⟨gap (level + 1) (by omega) (by omega), .stored positive (by omega) found ?_⟩
        exact fun between after before => gap between after (by omega)
    | current gap =>
      exact .inr ⟨gap (level + 1) (by omega) (by omega),
        .current fun newer positive below => gap newer positive (by omega)⟩
  · rintro (found | ⟨missing, closest⟩)
    · exact .stored (by omega) (Nat.le_refl _) found fun between after before => by omega
    · -- The level itself has no value: gaps below it extend to it.
      have further {newer : Nat} (below : newer ≤ level + 1)
          (gap : newer ≤ level → value? newer = none) : value? newer = none := by
        rcases Nat.lt_or_eq_of_le below with earlier | rfl
        · exact gap (by omega)
        · exact missing
      cases closest with
      | stored positive below found gap =>
        exact .stored positive (by omega) found fun between after before =>
          further before (gap between after)
      | current gap => exact .current fun newer positive below => further below (gap newer positive)

theorem closest_iff : Closest value? current level v ↔ v = fallBack value? current level := by
  induction level with
  | zero => exact closest_zero
  | succ level ih =>
    rw [closest_succ, ih, fallBack]
    cases value? (level + 1) with
    | none => simp
    | some found => simp [eq_comm]

theorem forall_fallBack {P : Value α → Prop} : (∀ level, P (fallBack value? current level)) ↔
    P current ∧ ∀ level v, 0 < level → value? level = some v → P v := by
  constructor
  · intro all
    refine ⟨all 0, fun level v positive found => ?_⟩
    have closest : Closest value? current level v :=
      .stored positive (Nat.le_refl level) found fun between after before => by omega
    rw [closest_iff.mp closest]
    exact all level
  · rintro ⟨now, each⟩ level
    have closest : Closest value? current level (fallBack value? current level) := closest_iff.mpr rfl
    generalize fallBack value? current level = v at closest
    cases closest with
    | stored positive _ found _ => exact each _ v positive found
    | current => exact now

theorem fallBack_getElem {levels : List (Value α)}
    (same : ∀ index, levels[index]? = value? (index + 1)) :
    fallBack value? current (level + 1) =
      (levels[min level (levels.length - 1)]?).getD current := by
  induction level with
  | zero => rw [Nat.zero_min, same]; rfl
  | succ level ih =>
    rw [fallBack, ← same]
    by_cases inside : level + 1 < levels.length
    · have reached : min (level + 1) (levels.length - 1) = level + 1 := by omega
      rw [reached, List.getElem?_eq_getElem inside]
      rfl
    · have beyond : min (level + 1) (levels.length - 1) = min level (levels.length - 1) := by omega
      rw [beyond, List.getElem?_eq_none (by omega), Option.getD_none, ih]

end Levels

section Stores

variable {stores : List (Nat × Value α)} {level other : Nat} {v : Value α}

theorem last?_append :
    last? (stores ++ [(level, v)]) other = if other = level then some v else last? stores other := by
  unfold last?
  rw [List.reverse_append, List.reverse_singleton, List.singleton_append, List.lookup_cons]
  by_cases same : other = level
  · simp [same]
  · rw [if_neg same, beq_false_of_ne same]

theorem filler?_append : filler? (stores ++ [(level, v)]) other =
    (filler? stores other).or (if other ≤ level then some v else none) := by
  unfold filler?
  rw [List.find?_append, Option.map_or]
  by_cases below : other ≤ level <;> simp [below]

theorem held?_append : held? (stores ++ [(level, v)]) other =
    if other = level then some v
    else (held? stores other).or (if other ≤ level then some v else none) := by
  unfold held?
  rw [last?_append, filler?_append]
  split
  · rfl
  · rw [Option.or_assoc]

theorem mem_of_held? (held : held? stores level = some v) : ∃ stored, (stored, v) ∈ stores := by
  rcases Option.or_eq_some_iff.mp held with last | ⟨-, filled⟩
  · obtain ⟨later, sooner, split, -⟩ := List.lookup_eq_some_iff.mp last
    exact ⟨level, List.mem_reverse.mp (by simp [split])⟩
  · obtain ⟨⟨stored, w⟩, found, rfl⟩ := Option.map_eq_some_iff.mp filled
    exact ⟨stored, List.mem_of_find?_eq_some found⟩

theorem getElem?_storeLevel (levels : List (Value α)) (index slot : Nat) :
    (storeLevel v slot levels)[index]? =
      if index = slot then some v
      else levels[index]?.or (if index ≤ slot then some v else none) := by
  unfold storeLevel
  rw [List.getElem?_set]
  by_cases here : slot = index
  · subst here
    simp
    omega
  · rw [if_neg here, if_neg (Ne.symm here), List.getElem?_append]
    by_cases known : index < levels.length
    · rw [if_pos known, List.getElem?_eq_getElem known]
      rfl
    · have missing : levels[index]? = none := List.getElem?_eq_none (by omega)
      rw [if_neg known, missing, Option.none_or, List.getElem?_replicate]
      have within : index - levels.length < slot + 1 - levels.length ↔ index ≤ slot := by omega
      simp only [within]

end Stores

variable {region : Region α} {name : String} {stores : List (Nat × Value α)}

/-- The history of a field is what the calls that stored it left behind. -/
def Keeps (region : Region α) (name : String) (stores : List (Nat × Value α)) : Prop :=
  ∀ index, (region.levels name)[index]? = held? stores (index + 1)

theorem Keeps.ofMesh (mesh : Mesh α) (name : String) : (Region.ofMesh mesh).Keeps name [] :=
  fun _ => rfl

theorem levels_insert (history : List (Value α)) (other : String) :
    { region with history := region.history.insert name history }.levels other =
      if name = other then history else region.levels other := by
  unfold levels
  rw [OrderedMap.get?_insert]
  by_cases same : name = other <;> simp [same]

theorem Keeps.store (keeps : region.Keeps name stores) (level : Nat) (v : Value α) :
    { region with
      history := region.history.insert name
        (storeLevel v (level - 1) (region.levels name)) }.Keeps name
      (stores ++ [(max level 1, v)]) := by
  intro index
  rw [levels_insert, if_pos rfl, getElem?_storeLevel, keeps index, held?_append]
  have here : index = level - 1 ↔ index + 1 = max level 1 := by omega
  have below : index ≤ level - 1 ↔ index + 1 ≤ max level 1 := by omega
  simp only [here, below]

theorem Keeps.resolveOld (keeps : region.Keeps name stores) {current : Value α}
    (found : region.resolve name = .ok current) (level : Nat) :
    region.resolveOld name level = .ok (fallBack (held? stores) current level) := by
  unfold Region.resolveOld
  cases level with
  | zero => exact found
  | succ level =>
    rw [if_neg (Nat.succ_ne_zero level), fallBack_getElem keeps, Nat.add_sub_cancel, levels]
    dsimp only
    split
    · rename_i v known
      rw [known]
      rfl
    · rename_i missing
      rw [missing]
      exact found

end Region

namespace Repository

inductive Serves : Repository α → List (Call α) → Repository α → Prop where
  | nil {r : Repository α} : Serves r [] r
  | cons {r between after : Repository α} {call : Call α} {calls : List (Call α)} :
      call.change.run r = .ok () between → Serves between calls after →
      Serves r (call :: calls) after

def Call.earlier? (name : String) : Call α → Option (Nat × Value α)
  | .insertOld other level v => if other = name then some (max level 1, v) else none
  | _ => none

def earlier (name : String) (calls : List (Call α)) : List (Nat × Value α) :=
  calls.filterMap (Call.earlier? name)

variable {r after : Repository α} {name : String} {stores : List (Nat × Value α)}

theorem keeps_outcome {call : Call α} (keeps : r.toRegion.Keeps name stores)
    (done : call.outcome r = .ok after) :
    after.toRegion.Keeps name (stores ++ (call.earlier? name).toList) := by
  have unchanged (same : after.levels name = r.levels name) (nothing : call.earlier? name = none) :
      after.toRegion.Keeps name (stores ++ (call.earlier? name).toList) := by
    intro index
    rw [same, nothing, Option.toList_none, List.append_nil]
    exact keeps index
  cases call with
  | insertOld other level v =>
    obtain ⟨-, rfl⟩ := insertOld_eq_ok.mp done
    by_cases same : other = name
    · subst same
      simpa [Call.earlier?] using keeps.store level v
    · apply unchanged
      · exact (Region.levels_insert _ name).trans (if_neg same)
      · simp [Call.earlier?, same]
  | insert other v =>
    obtain ⟨-, rfl⟩ := insert_eq_ok.mp done
    exact unchanged rfl rfl
  | setMeshPhi flow =>
    obtain ⟨-, rfl⟩ := setMeshPhi_eq_ok.mp done
    exact unchanged rfl rfl
  | insertTable | insertForeign | setTime =>
    cases done
    exact unchanged rfl rfl

theorem Serves.keeps {calls : List (Call α)} (serves : Serves r calls after)
    (keeps : r.toRegion.Keeps name stores) :
    after.toRegion.Keeps name (stores ++ earlier name calls) := by
  induction serves generalizing stores with
  | nil => simpa [earlier] using keeps
  | @cons r between after call calls done _ ih =>
    have further := ih (keeps_outcome keeps (Call.run_ok.mp done))
    cases stored : call.earlier? name with
    | none => simpa [earlier, stored] using further
    | some store => simpa [earlier, stored] using further

theorem Serves.keeps_ofMesh [Scalar α] {mesh : Mesh α} {calls : List (Call α)}
    (serves : Serves (.ofMesh mesh) calls after) (name : String) :
    after.toRegion.Keeps name (earlier name calls) :=
  serves.keeps (Region.Keeps.ofMesh mesh name)

end Repository

end MeshLang
