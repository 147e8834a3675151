import MeshLang.Mesh

namespace MeshLang

/-- A box between two corners with a number of cells along each axis. -/
structure Block (α : Type) where
  cells : Vec3 Nat
  low : Vec3 α
  high : Vec3 α
deriving DecidableEq, Repr

def Axis.next : Axis → Axis
  | .x => .y
  | .y => .z
  | .z => .x

def Axis.all : List Axis := [.x, .y, .z]

/-- The triple with `level` along an axis and `a` and `b` along the next two, which together with
the axis are right-handed. -/
def Axis.place (axis : Axis) (level a b : Nat) : Vec3 Nat :=
  match axis with
  | .x => ⟨level, a, b⟩
  | .y => ⟨b, level, a⟩
  | .z => ⟨a, b, level⟩

namespace Block

variable {α : Type}

def unit [Scalar α] (cells : Vec3 Nat) : Block α :=
  ⟨cells, Vec3.zero, Vec3.uniform Scalar.one⟩

def pointIndex (block : Block α) (place : Vec3 Nat) : Nat :=
  place.x + (block.cells.x + 1) * (place.y + (block.cells.y + 1) * place.z)

def cellIndex (block : Block α) (place : Vec3 Nat) : Nat :=
  place.x + block.cells.x * (place.y + block.cells.y * place.z)

def square (block : Block α) (axis : Axis) (level a b : Nat) : List Nat :=
  [axis.place level a b, axis.place level (a + 1) b, axis.place level (a + 1) (b + 1),
   axis.place level a (b + 1)].map block.pointIndex

def squares (block : Block α) (axis : Axis) : List (Nat × Nat) :=
  (List.range (block.cells.entry axis.next.next)).flatMap fun b =>
    (List.range (block.cells.entry axis.next)).map fun a => (a, b)

structure Wall where
  corners : List Nat
  owner : Nat
  neighbour : Nat
deriving DecidableEq, Repr

def walls (block : Block α) (axis : Axis) : List Wall :=
  (List.range (block.cells.entry axis - 1)).flatMap fun before =>
    (block.squares axis).map fun (a, b) =>
      ⟨block.square axis (before + 1) a b, block.cellIndex (axis.place before a b),
       block.cellIndex (axis.place (before + 1) a b)⟩

/-- The squares at one end of an axis with the cells inside; at the lower end their corners run
backwards, so that normals point out of the box. -/
def ends (block : Block α) (axis : Axis) (upper : Bool) : List (List Nat × Nat) :=
  let count := block.cells.entry axis
  (block.squares axis).map fun (a, b) =>
    if upper then
      (block.square axis count a b, block.cellIndex (axis.place (count - 1) a b))
    else ((block.square axis 0 a b).reverse, block.cellIndex (axis.place 0 a b))

def sides : List (Axis × Bool) := Axis.all.flatMap fun axis => [(axis, false), (axis, true)]

def sideName (side : Axis × Bool) : String :=
  side.1.text ++ if side.2 then "max" else "min"

def patchesFrom (start : Nat) : List (String × Nat) → List Patch
  | [] => []
  | (name, size) :: rest => ⟨name, start, size⟩ :: patchesFrom (start + size) rest

variable [Scalar α]

def extent (block : Block α) : Vec3 α := block.high - block.low

def points (block : Block α) : List (Vec3 α) :=
  let share (axis : Axis) (i : Nat) : α :=
    block.low.entry axis
      + block.extent.entry axis * (Scalar.ofNat i / Scalar.ofNat (block.cells.entry axis))
  (List.range (block.cells.z + 1)).flatMap fun k =>
    (List.range (block.cells.y + 1)).flatMap fun j =>
      (List.range (block.cells.x + 1)).map fun i => ⟨share .x i, share .y j, share .z k⟩

def addressing (block : Block α) : Addressing α :=
  let walls := Axis.all.flatMap block.walls
  let ends := sides.map fun side => (sideName side, block.ends side.1 side.2)
  let boundary := ends.flatMap (·.2)
  { points := block.points
    faces := walls.map (·.corners) ++ boundary.map (·.1)
    owners := walls.map (·.owner) ++ boundary.map (·.2)
    neighbours := walls.map (·.neighbour)
    patches := patchesFrom walls.length (ends.map fun (name, faces) => (name, faces.length)) }

def isEmpty (block : Block α) : Bool :=
  block.cells.toList.any (· == 0)
    || block.extent.toList.any fun length => Scalar.le length Scalar.zero

end Block

def Mesh.ofBlock {α : Type} [Scalar α] (block : Block α) : Except MeshError (Mesh α) :=
  if block.isEmpty then .error .emptyBlock else ofAddressing block.addressing

end MeshLang
