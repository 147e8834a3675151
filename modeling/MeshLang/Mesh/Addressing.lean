import MeshLang.Linear

namespace MeshLang

structure Patch where
  name : String
  start : Nat
  size : Nat
deriving DecidableEq, Repr

def Patch.stop (patch : Patch) : Nat := patch.start + patch.size

inductive SelectionKind where
  | cellSet
  | cellZone
  | faceSet
  | faceZone
  | pointSet
  | pointZone
deriving DecidableEq, Repr

namespace SelectionKind

def all : List SelectionKind := [.cellSet, .cellZone, .faceSet, .faceZone, .pointSet, .pointZone]

def text : SelectionKind → String
  | .cellSet => "cellSet"
  | .cellZone => "cellZone"
  | .faceSet => "faceSet"
  | .faceZone => "faceZone"
  | .pointSet => "pointSet"
  | .pointZone => "pointZone"

def location : SelectionKind → Location
  | .cellSet | .cellZone => .volume
  | .faceSet | .faceZone => .surface
  | .pointSet | .pointZone => .point

end SelectionKind

inductive MeshError where
  | degenerateFace (face : Nat)
  | pointOutOfRange (face point count : Nat)
  | ownerCount (faces owners : Nat)
  | neighbourCount (faces neighbours : Nat)
  | patchCoverage (start stop : Nat)
  | unknownPatch (name : String)
  | unknownSelection (kind : SelectionKind) (name : String)
  | selectionOutOfRange (kind : SelectionKind) (name : String) (index count : Nat)
  | emptyBlock
deriving DecidableEq, Repr

def MeshError.message : MeshError → String
  | .degenerateFace face => s!"face {face} has fewer than three points"
  | .pointOutOfRange face point count =>
    s!"face {face} refers to point {point}, but the mesh has {count} points"
  | .ownerCount faces owners => s!"expected one owner per face ({faces}), found {owners}"
  | .neighbourCount faces neighbours => s!"more neighbours ({neighbours}) than faces ({faces})"
  | .patchCoverage start stop =>
    s!"patches must cover boundary faces {start}..{stop} contiguously"
  | .unknownPatch name => s!"unknown patch '{name}'"
  | .unknownSelection kind name => s!"unknown {kind.text} '{name}'"
  | .selectionOutOfRange kind name index count =>
    s!"{kind.text} '{name}' refers to index {index}, outside 0..{count}"
  | .emptyBlock => "block needs at least one cell in each direction and positive extent"

/-- What a mesh is built from: points, faces as loops of points, the one or two cells beside each
face, and patches that name runs of boundary faces. Faces between two cells come first, and the list
of neighbours has one entry for each of them. -/
structure Addressing (α : Type) where
  points : List (Vec3 α)
  faces : List (List Nat)
  owners : List Nat
  neighbours : List Nat
  patches : List Patch

namespace Addressing

variable {α : Type}

def checkFaces (count index : Nat) : List (List Nat) → Except MeshError Unit
  | [] => .ok ()
  | corners :: rest =>
    if corners.length < 3 then .error (.degenerateFace index)
    else
      match corners.find? fun point => decide (count ≤ point) with
      | some point => .error (.pointOutOfRange index point count)
      | none => checkFaces count (index + 1) rest

def covers (next stop : Nat) : List Patch → Bool
  | [] => next == stop
  | patch :: rest => patch.start == next && covers (next + patch.size) stop rest

/-- What a description must satisfy. Counts are reported first, then faces, then patches. -/
def check (a : Addressing α) : Except MeshError Unit := do
  if a.owners.length ≠ a.faces.length then
    throw (.ownerCount a.faces.length a.owners.length)
  if a.faces.length < a.neighbours.length then
    throw (.neighbourCount a.faces.length a.neighbours.length)
  checkFaces a.points.length 0 a.faces
  if !covers a.neighbours.length a.faces.length a.patches then
    throw (.patchCoverage a.neighbours.length a.faces.length)

def cellCount (a : Addressing α) : Nat :=
  ((a.owners ++ a.neighbours).map (· + 1)).foldl max 0

end Addressing

end MeshLang
