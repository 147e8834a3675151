import MeshLang.Linear
import MeshLang.Mesh.Addressing

namespace MeshLang

/-- A face with its corners in order, the cell that its area vector points away from, and the cell
behind it if there is one. -/
structure Face (α : Type) where
  corners : List Nat
  owner : Nat
  neighbour? : Option Nat
  centre : Vec3 α
  area : Vec3 α
deriving DecidableEq, Repr

structure Cell (α : Type) where
  centre : Vec3 α
  volume : α
  points : List Nat
deriving DecidableEq, Repr

inductive Side where
  | owner
  | neighbour
deriving DecidableEq, Repr

variable {α : Type}

def Face.isInternal (face : Face α) : Bool := face.neighbour?.isSome

def Face.sides (face : Face α) (cell : Nat) : List Side :=
  (if face.owner = cell then [.owner] else []) ++
    (if face.neighbour? = some cell then [.neighbour] else [])

def facesAround (faces : List (Face α)) (cell : Nat) : List (Face α × Side) :=
  faces.flatMap fun face => (face.sides cell).map (face, ·)

def pointsAround (faces : List (Face α)) (count cell : Nat) : List Nat :=
  let around := facesAround faces cell
  (List.range count).filter fun point => around.any fun (face, _) => face.corners.contains point

variable [Scalar α]

/-- Sums of the triangles of a face: area vectors, centres weighted by area, and areas. -/
structure TriangleSums (α : Type) where
  area : Vec3 α
  weighted : Vec3 α
  total : α

def TriangleSums.zero : TriangleSums α := ⟨.zero, .zero, Scalar.zero⟩

def TriangleSums.add (middle : Vec3 α) (sums : TriangleSums α) (edge : Vec3 α × Vec3 α) :
    TriangleSums α :=
  let (a, b) := edge
  let triangle := ((a - middle).cross (b - middle)).scale Scalar.half
  let size := triangle.norm
  ⟨sums.area + triangle,
   sums.weighted + ((a + b + middle).divide (Scalar.ofNat 3)).scale size,
   sums.total + size⟩

def meanPoint (points : List (Vec3 α)) : Vec3 α :=
  (points.foldl (· + ·) Vec3.zero).divide (Scalar.ofNat points.length)

def loopEdges (points : List (Vec3 α)) : List (Vec3 α × Vec3 α) :=
  points.zip (points.drop 1 ++ points.take 1)

def triangleSums (corners : List (Vec3 α)) : TriangleSums α :=
  (loopEdges corners).foldl (TriangleSums.add (meanPoint corners)) TriangleSums.zero

/-- The centre of a face: that of its triangles, or the mean corner if they have no area. -/
def faceCentre (corners : List (Vec3 α)) : Vec3 α :=
  let sums := triangleSums corners
  if Scalar.lt Scalar.smallestNormal sums.total then sums.weighted.divide sums.total
  else meanPoint corners

def faceArea (corners : List (Vec3 α)) : Vec3 α := (triangleSums corners).area

def cellMiddle (around : List (Face α × Side)) : Vec3 α :=
  let sum := around.foldl (fun sum (face, _) => sum + face.centre) Vec3.zero
  if around.isEmpty then sum else sum.divide (Scalar.ofNat around.length)

def pyramidVolume (middle : Vec3 α) : Face α × Side → α
  | (face, .owner) => face.area.dot (face.centre - middle) / Scalar.ofNat 3
  | (face, .neighbour) => -face.area.dot (face.centre - middle) / Scalar.ofNat 3

def pyramidCentre (middle : Vec3 α) (face : Face α) : Vec3 α :=
  face.centre.scale (Scalar.ofNat 3 / Scalar.ofNat 4)
    + middle.scale (Scalar.one / Scalar.ofNat 4)

def cellVolume (middle : Vec3 α) (around : List (Face α × Side)) : α :=
  around.foldl (fun sum side => sum + pyramidVolume middle side) Scalar.zero

/-- The centre of a cell: that of its pyramids, or the mean face centre if they have no volume. -/
def cellCentre (middle : Vec3 α) (around : List (Face α × Side)) : Vec3 α :=
  let moment := around.foldl
    (fun sum side => sum + (pyramidCentre middle side.1).scale (pyramidVolume middle side))
    Vec3.zero
  let volume := cellVolume middle around
  if Scalar.lt Scalar.smallestNormal (Scalar.abs volume) then moment.divide volume else middle

def Cell.ofFaces (faces : List (Face α)) (points cell : Nat) : Cell α :=
  let around := facesAround faces cell
  let middle := cellMiddle around
  ⟨cellCentre middle around, cellVolume middle around, pointsAround faces points cell⟩

def Face.ofCorners (points : List (Vec3 α)) (corners : List Nat) (owner : Nat)
    (neighbour? : Option Nat) : Face α :=
  let places := corners.map (points.getD · Vec3.zero)
  ⟨corners, owner, neighbour?, faceCentre places, faceArea places⟩

end MeshLang

namespace MeshLang

def Face.cells {α : Type} (face : Face α) : List Nat := face.owner :: face.neighbour?.toList

/-- A list of points for each cell and a list of cells for each point, filled in by one pass over
the faces and one over the cells. -/
structure Incidence where
  cellPoints : List (List Nat)
  pointCells : List (List Nat)
deriving DecidableEq, Repr

namespace Incidence

def dropRepeats : List Nat → List Nat
  | [] => []
  | [x] => [x]
  | x :: y :: rest => if x = y then dropRepeats (y :: rest) else x :: dropRepeats (y :: rest)

def inOrder (points : List Nat) : List Nat := dropRepeats (points.mergeSort (· ≤ ·))

def handCorners {α : Type} (table : List (List Nat)) (face : Face α) : List (List Nat) :=
  face.cells.foldl (fun table cell => table.modify cell (· ++ face.corners)) table

def enter (cell : Nat) (table : List (List Nat)) (point : Nat) : List (List Nat) :=
  table.modify point (· ++ [cell])

def settle (tables : Incidence) (cell : Nat) : Incidence :=
  let cellPoints := tables.cellPoints.modify cell inOrder
  ⟨cellPoints, (cellPoints.getD cell []).foldl (enter cell) tables.pointCells⟩

def ofFaces {α : Type} (faces : List (Face α)) (cells points : Nat) : Incidence :=
  let handed := faces.foldl handCorners (List.replicate cells [])
  (List.range cells).foldl settle ⟨handed, List.replicate points []⟩

end Incidence

end MeshLang
