import MeshLang.Proofs.Repository.Built
import MeshLang.Repository.Change

namespace MeshLang

variable {α : Type} {r : Repository α} {name : String} {v : Value α}

def Change.settled (r : Repository α) :
    Except RepositoryError (Repository α) → EStateM.Result RepositoryError (Repository α) Unit
  | .ok after => .ok () after
  | .error error => .error error r

namespace Change

theorem check_eq : check name v r =
    match r.check name v with
    | .ok () => .ok () r
    | .error error => .error error r := by
  show (match r.check name v with
    | .ok () => (pure () : Change α Unit)
    | .error error => throw error) r = _
  cases r.check name v <;> rfl

theorem check_bind {β : Type} (next : Unit → Change α β) :
    (check name v >>= next).run r =
      match r.check name v with
      | .ok () => (next ()).run r
      | .error error => .error error r := by
  unfold EStateM.run
  simp only [bind, EStateM.bind, check_eq]
  cases r.check name v <;> rfl

theorem insert_run : (insert name v).run r = settled r (r.insert name v) := by
  unfold insert Repository.insert Region.insert
  rw [check_bind]
  cases r.check name v <;> rfl

theorem editLevels_bind (first second : List (Value α) → List (Value α)) :
    (do editLevels name first; editLevels name second : Change α Unit) =
      editLevels name (second ∘ first) := by
  funext r
  let after : Repository α :=
    { r with history := r.history.insert name (first (r.levels name)) }
  have edited : after.levels name = first (r.levels name) := by
    simp [after, Region.levels, OrderedMap.get?_insert]
  show EStateM.Result.ok ()
      { after with history := after.history.insert name (second (after.levels name)) } =
    .ok () { r with history := r.history.insert name (second (first (r.levels name))) }
  rw [edited, OrderedMap.insert_insert]

theorem storeLevel_eq (v : Value α) (slot : Nat) (levels : List (Value α)) :
    (lengthen slot v levels).set slot v = Region.storeLevel v slot levels := by
  unfold lengthen Region.storeLevel
  split
  · rfl
  · rename_i long
    rw [Nat.sub_eq_zero_of_le (by omega), List.replicate_zero, List.append_nil]

theorem insertOld_run (level : Nat) :
    (insertOld name level v).run r = settled r (r.insertOld name level v) := by
  unfold insertOld Repository.insertOld Region.insertOld
  dsimp only
  rw [check_bind, ← bind_assoc, editLevels_bind, editLevels_bind]
  cases r.check name v with
  | error error => rfl
  | ok _ =>
    have slot : max level 1 - 1 = level - 1 := by omega
    have stored := storeLevel_eq v (level - 1) (r.levels name)
    show EStateM.Result.ok () { r with
      history := r.history.insert name
        ((lengthen (max level 1 - 1) v (r.levels name)).set (max level 1 - 1) v) } = _
    rw [slot, stored]
    rfl

theorem setMeshPhi_run (flow : Value α) :
    (setMeshPhi flow).run r = settled r (r.setMeshPhi flow) := by
  unfold setMeshPhi Repository.setMeshPhi
  rw [check_bind]
  cases r.check Repository.meshPhiName flow with
  | error error => rfl
  | ok _ =>
    cases found : flow.type? with
    | none => rfl
    | some type =>
      by_cases flux : type = ⟨.scalar, .surface⟩
      · simp [flux]
        rfl
      · simp [flux]
        rfl

end Change

namespace Repository

variable {after : Repository α}

def Call.outcome (r : Repository α) : Call α → Except RepositoryError (Repository α)
  | .insert name v => r.insert name v
  | .insertOld name level v => r.insertOld name level v
  | .insertTable name table => .ok (r.insertTable name table)
  | .insertForeign name other => .ok (r.insertForeign name other.toRegion)
  | .setTime time timeStep => .ok (r.setTime time timeStep)
  | .setMeshPhi flow => r.setMeshPhi flow

/-- What a call stores can be stored on a mesh. -/
def Call.Admissible (mesh : Mesh α) : Call α → Prop
  | .insert _ v | .insertOld _ _ v => v.Placed mesh
  | .setMeshPhi flow => flow.Placed mesh ∧ flow.type? = some ⟨.scalar, .surface⟩
  | .insertTable .. | .insertForeign .. | .setTime .. => True

theorem Call.change_run (call : Call α) : call.change.run r = Change.settled r (call.outcome r) := by
  cases call with
  | insert name v => exact Change.insert_run
  | insertOld name level v => exact Change.insertOld_run level
  | insertTable name table => rfl
  | insertForeign name other => rfl
  | setTime time timeStep => rfl
  | setMeshPhi flow => exact Change.setMeshPhi_run flow

theorem Call.outcome_isOk (call : Call α) :
    (∃ after, call.outcome r = .ok after) ↔ call.Admissible r.mesh := by
  cases call with
  | insert name v => simp [outcome, Admissible, insert_eq_ok]
  | insertOld name level v => simp [outcome, Admissible, insertOld_eq_ok]
  | insertTable name table => simp [outcome, Admissible]
  | insertForeign name other => simp [outcome, Admissible]
  | setTime time timeStep => simp [outcome, Admissible]
  | setMeshPhi flow => simp [outcome, Admissible, setMeshPhi_eq_ok]

theorem Call.run_ok {call : Call α} :
    call.change.run r = .ok () after ↔ call.outcome r = .ok after := by
  rw [call.change_run]
  cases call.outcome r <;> simp [Change.settled]

/-- A call that is refused leaves everything as it was. -/
theorem Call.run_error {call : Call α} {error : RepositoryError}
    (failed : call.change.run r = .error error after) : after = r := by
  rw [call.change_run] at failed
  cases outcome : call.outcome r with
  | ok changed => rw [outcome] at failed; cases failed
  | error other => rw [outcome] at failed; cases failed; rfl

theorem perform_of_ok {call : Call α} (done : call.outcome r = .ok after) :
    r.perform call = after := by
  unfold perform
  rw [Call.run_ok.mpr done]

theorem perform_of_error {call : Call α} {error : RepositoryError}
    (failed : call.outcome r = .error error) : r.perform call = r := by
  unfold perform
  rw [call.change_run, failed]
  rfl

end Repository

end MeshLang
