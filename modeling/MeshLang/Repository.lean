import MeshLang.Repository.LookupTable
import MeshLang.Repository.Mapping

namespace MeshLang

/-- A mesh with its fields. The history of a field starts one step back; its list has no gaps. -/
structure Region (α : Type) where
  mesh : Mesh α
  fields : OrderedMap String (Value α)
  history : OrderedMap String (List (Value α))
deriving DecidableEq, Repr

namespace Region

variable {α : Type}

def ofMesh (mesh : Mesh α) : Region α := ⟨mesh, .empty, .empty⟩

def check (region : Region α) (name : String) (v : Value α) : Except RepositoryError Unit :=
  match v.location with
  | none => .error (.unlocated name)
  | some location =>
    if v.size = region.mesh.size location then .ok ()
    else .error (.sizeMismatch name (region.mesh.size location) v.size)

def insert (region : Region α) (name : String) (v : Value α) :
    Except RepositoryError (Region α) := do
  region.check name v
  return { region with fields := region.fields.insert name v }

/-- A history with a value at an index; levels that are missing before it take the value too. -/
def storeLevel (v : Value α) (index : Nat) (levels : List (Value α)) : List (Value α) :=
  (levels ++ List.replicate (index + 1 - levels.length) v).set index v

def levels (region : Region α) (name : String) : List (Value α) :=
  (region.history.get? name).getD []

def insertOld (region : Region α) (name : String) (level : Nat) (v : Value α) :
    Except RepositoryError (Region α) := do
  region.check name v
  let levels := (region.history.get? name).getD []
  let history := region.history.insert name (storeLevel v (level - 1) levels)
  return { region with history }

def classify (region : Region α) (name : String) : Option ValueType :=
  (region.fields.get? name).bind Value.type?

def resolve (region : Region α) (name : String) : Except RepositoryError (Value α) :=
  match region.fields.get? name with
  | some v => .ok v
  | none => .error (.notFound name)

def resolveAs (region : Region α) (name : String) (expected : ValueType) :
    Except RepositoryError (Value α) := do
  let v ← region.resolve name
  match v.type? with
  | some found => if found = expected then return v else throw (.wrongType name expected found)
  | none => throw (.unlocated name)

/-- The value of a field some steps back. Beyond the oldest stored level it is the oldest one, and
without a history the current value. -/
def resolveOld (region : Region α) (name : String) (level : Nat) :
    Except RepositoryError (Value α) :=
  if level = 0 then region.resolve name
  else
    let levels := (region.history.get? name).getD []
    match levels[min (level - 1) (levels.length - 1)]? with
    | some v => .ok v
    | none => region.resolve name

end Region

structure Repository (α : Type) extends Region α where
  tables : OrderedMap String (LookupTable α)
  foreign : OrderedMap String (Region α)
  time : α
  timeStep : α
  meshPhi : Option (Value α)
deriving DecidableEq, Repr

namespace Repository

variable {α : Type}

def ofMesh [Scalar α] (mesh : Mesh α) : Repository α :=
  { toRegion := .ofMesh mesh, tables := .empty, foreign := .empty, time := Scalar.zero,
    timeStep := Scalar.one, meshPhi := none }

def insert (repository : Repository α) (name : String) (v : Value α) :
    Except RepositoryError (Repository α) := do
  let region ← repository.toRegion.insert name v
  return { repository with toRegion := region }

def insertOld (repository : Repository α) (name : String) (level : Nat) (v : Value α) :
    Except RepositoryError (Repository α) := do
  let region ← repository.toRegion.insertOld name level v
  return { repository with toRegion := region }

def insertTable (repository : Repository α) (name : String) (table : LookupTable α) :
    Repository α :=
  { repository with tables := repository.tables.insert name table }

def insertForeign (repository : Repository α) (name : String) (region : Region α) :
    Repository α :=
  { repository with foreign := repository.foreign.insert name region }

def setTime (repository : Repository α) (time timeStep : α) : Repository α :=
  { repository with time, timeStep }

def meshPhiName : String := "meshPhi"

def setMeshPhi (repository : Repository α) (flow : Value α) :
    Except RepositoryError (Repository α) := do
  repository.check meshPhiName flow
  let expected : ValueType := ⟨.scalar, .surface⟩
  match flow.type? with
  | some found =>
    if found ≠ expected then throw (.wrongType meshPhiName expected found)
    return { repository with meshPhi := some flow }
  | none => return { repository with meshPhi := some flow }

end Repository

end MeshLang
