import MeshLang.Repository

namespace MeshLang

/-- A change of a repository in place, step by step. If a step fails, what was changed before
remains, so calls check before they touch anything. -/
abbrev Change (α β : Type) := EStateM RepositoryError (Repository α) β

namespace Change

variable {α : Type}

def check (name : String) (v : Value α) : Change α Unit := do
  match (← get).check name v with
  | .ok () => return
  | .error error => throw error

def insert (name : String) (v : Value α) : Change α Unit := do
  check name v
  modify fun r => { r with fields := r.fields.insert name v }

def editLevels (name : String) (edit : List (Value α) → List (Value α)) : Change α Unit :=
  modify fun r => { r with history := r.history.insert name (edit (r.levels name)) }

def lengthen (slot : Nat) (v : Value α) (levels : List (Value α)) : List (Value α) :=
  if levels.length ≤ slot then levels ++ List.replicate (slot + 1 - levels.length) v else levels

/-- Stores the value of a field some steps back, at least one: opens the history, makes it long
enough, and puts the value into its place. -/
def insertOld (name : String) (level : Nat) (v : Value α) : Change α Unit := do
  check name v
  editLevels name id
  let slot := max level 1 - 1
  editLevels name (lengthen slot v)
  editLevels name (·.set slot v)

def setMeshPhi (flow : Value α) : Change α Unit := do
  check Repository.meshPhiName flow
  let expected : ValueType := ⟨.scalar, .surface⟩
  if let some found := flow.type? then
    if found ≠ expected then throw (.wrongType Repository.meshPhiName expected found)
  modify fun r => { r with meshPhi := some flow }

end Change

namespace Repository

/-- All that can be done to a repository. A repository of another mesh is handed over as a whole. -/
inductive Call (α : Type) where
  | insert (name : String) (v : Value α)
  | insertOld (name : String) (level : Nat) (v : Value α)
  | insertTable (name : String) (table : LookupTable α)
  | insertForeign (name : String) (other : Repository α)
  | setTime (time timeStep : α)
  | setMeshPhi (flow : Value α)

variable {α : Type}

def Call.change : Call α → Change α Unit
  | .insert name v => Change.insert name v
  | .insertOld name level v => Change.insertOld name level v
  | .insertTable name table => modify (·.insertTable name table)
  | .insertForeign name other => modify (·.insertForeign name other.toRegion)
  | .setTime time timeStep => modify (·.setTime time timeStep)
  | .setMeshPhi flow => Change.setMeshPhi flow

def perform (repository : Repository α) (call : Call α) : Repository α :=
  match call.change.run repository with
  | .ok () after => after
  | .error _ after => after

def performAll (repository : Repository α) (calls : List (Call α)) : Repository α :=
  calls.foldl perform repository

end Repository

end MeshLang
