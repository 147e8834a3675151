import MeshLang.Mesh.Geometry
import MeshLang.OrderedMap

namespace MeshLang

/-- Faces between two cells come before the faces on the boundary, and area vectors point from the
owner to the neighbour or out of the mesh. -/
structure Mesh (α : Type) where
  points : List (Vec3 α)
  faces : List (Face α)
  cells : List (Cell α)
  pointCells : List (List Nat)
  patches : List Patch
  selections : OrderedMap (SelectionKind × String) (List Nat)
deriving DecidableEq, Repr

namespace Mesh

variable {α : Type}

def size (mesh : Mesh α) : Location → Nat
  | .volume => mesh.cells.length
  | .surface => mesh.faces.length
  | .point => mesh.points.length

def internalCount (mesh : Mesh α) : Nat := mesh.faces.countP Face.isInternal

def cellCentres (mesh : Mesh α) : List (Vec3 α) := mesh.cells.map (·.centre)

def volumes (mesh : Mesh α) : List α := mesh.cells.map (·.volume)

def faceAreas (mesh : Mesh α) : List (Vec3 α) := mesh.faces.map (·.area)

def positions (mesh : Mesh α) : Location → List (Vec3 α)
  | .volume => mesh.cellCentres
  | .surface => mesh.faces.map (·.centre)
  | .point => mesh.points

def patch (mesh : Mesh α) (name : String) : Except MeshError Patch :=
  match mesh.patches.find? (·.name == name) with
  | some patch => .ok patch
  | none => .error (.unknownPatch name)

def selection (mesh : Mesh α) (kind : SelectionKind) (name : String) :
    Except MeshError (List Nat) :=
  match mesh.selections.get? (kind, name) with
  | some indices => .ok indices
  | none => .error (.unknownSelection kind name)

def select (mesh : Mesh α) (kind : SelectionKind) (name : String) (indices : List Nat) :
    Except MeshError (Mesh α) :=
  let count := mesh.size kind.location
  match indices.find? fun index => decide (count ≤ index) with
  | some index => .error (.selectionOutOfRange kind name index count)
  | none => .ok { mesh with selections := mesh.selections.insert (kind, name) indices }

variable [Scalar α]

def assemble (a : Addressing α) : Mesh α :=
  let faces := (a.faces.zip a.owners).mapIdx fun index (corners, owner) =>
    Face.ofCorners a.points corners owner a.neighbours[index]?
  let cells := (List.range a.cellCount).map (Cell.ofFaces faces a.points.length)
  let pointCells := (List.range a.points.length).map fun point =>
    (List.range cells.length).filter fun cell =>
      (cells[cell]?.map (·.points.contains point)).getD false
  ⟨a.points, faces, cells, pointCells, a.patches, .empty⟩

def ofAddressing (a : Addressing α) : Except MeshError (Mesh α) :=
  match a.check with
  | .ok () => .ok (assemble a)
  | .error e => .error e

def centreOf (mesh : Mesh α) (cell : Nat) : Vec3 α :=
  (mesh.cells[cell]?.map (·.centre)).getD Vec3.zero

/-- The weight of the owner in the value on a face between two cells: the share that the distance
of the neighbour has in both distances. -/
def weight (mesh : Mesh α) (face : Face α) (neighbour : Nat) : α :=
  let ownerDistance := (face.centre - mesh.centreOf face.owner).norm
  let neighbourDistance := (face.centre - mesh.centreOf neighbour).norm
  let total := ownerDistance + neighbourDistance
  if Scalar.lt Scalar.zero total then neighbourDistance / total else Scalar.half

def weights (mesh : Mesh α) : List α :=
  mesh.faces.filterMap fun face => face.neighbour?.map (mesh.weight face)

end Mesh

end MeshLang
