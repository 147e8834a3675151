import MeshLang.Kind
import MeshLang.Scalar

namespace MeshLang

namespace Vec3

variable {α : Type}

def entry (v : Vec3 α) : Axis → α
  | .x => v.x
  | .y => v.y
  | .z => v.z

def map (f : α → α) (v : Vec3 α) : Vec3 α := ⟨f v.x, f v.y, f v.z⟩

def zipWith (f : α → α → α) (v w : Vec3 α) : Vec3 α := ⟨f v.x w.x, f v.y w.y, f v.z w.z⟩

def uniform (a : α) : Vec3 α := ⟨a, a, a⟩

def toList (v : Vec3 α) : List α := [v.x, v.y, v.z]

variable [Scalar α]

def zero : Vec3 α := uniform Scalar.zero

instance : Add (Vec3 α) := ⟨zipWith (· + ·)⟩

instance : Sub (Vec3 α) := ⟨zipWith (· - ·)⟩

instance : Neg (Vec3 α) := ⟨map (- ·)⟩

def scale (v : Vec3 α) (factor : α) : Vec3 α := v.map (· * factor)

def divide (v : Vec3 α) (divisor : α) : Vec3 α := v.map (· / divisor)

def dot (v w : Vec3 α) : α := v.x * w.x + v.y * w.y + v.z * w.z

def cross (v w : Vec3 α) : Vec3 α :=
  ⟨v.y * w.z - v.z * w.y, v.z * w.x - v.x * w.z, v.x * w.y - v.y * w.x⟩

def normSquared (v : Vec3 α) : α := v.dot v

def norm (v : Vec3 α) : α := Scalar.sqrt v.normSquared

def normalized (v : Vec3 α) : Vec3 α := v.divide v.norm

@[simp] theorem add_x (v w : Vec3 α) : (v + w).x = v.x + w.x := rfl
@[simp] theorem add_y (v w : Vec3 α) : (v + w).y = v.y + w.y := rfl
@[simp] theorem add_z (v w : Vec3 α) : (v + w).z = v.z + w.z := rfl
@[simp] theorem sub_x (v w : Vec3 α) : (v - w).x = v.x - w.x := rfl
@[simp] theorem sub_y (v w : Vec3 α) : (v - w).y = v.y - w.y := rfl
@[simp] theorem sub_z (v w : Vec3 α) : (v - w).z = v.z - w.z := rfl
@[simp] theorem neg_x (v : Vec3 α) : (-v).x = -v.x := rfl
@[simp] theorem neg_y (v : Vec3 α) : (-v).y = -v.y := rfl
@[simp] theorem neg_z (v : Vec3 α) : (-v).z = -v.z := rfl

end Vec3

namespace Mat3

variable {α : Type}

def row (m : Mat3 α) : Axis → Vec3 α
  | .x => ⟨m.xx, m.xy, m.xz⟩
  | .y => ⟨m.yx, m.yy, m.yz⟩
  | .z => ⟨m.zx, m.zy, m.zz⟩

def column (m : Mat3 α) : Axis → Vec3 α
  | .x => ⟨m.xx, m.yx, m.zx⟩
  | .y => ⟨m.xy, m.yy, m.zy⟩
  | .z => ⟨m.xz, m.yz, m.zz⟩

def entry (m : Mat3 α) (r c : Axis) : α := (m.row r).entry c

def ofRows (x y z : Vec3 α) : Mat3 α := ⟨x.x, x.y, x.z, y.x, y.y, y.z, z.x, z.y, z.z⟩

def map (f : α → α) (m : Mat3 α) : Mat3 α :=
  ⟨f m.xx, f m.xy, f m.xz, f m.yx, f m.yy, f m.yz, f m.zx, f m.zy, f m.zz⟩

def zipWith (f : α → α → α) (m n : Mat3 α) : Mat3 α :=
  ⟨f m.xx n.xx, f m.xy n.xy, f m.xz n.xz, f m.yx n.yx, f m.yy n.yy, f m.yz n.yz,
   f m.zx n.zx, f m.zy n.zy, f m.zz n.zz⟩

def toList (m : Mat3 α) : List α := [m.xx, m.xy, m.xz, m.yx, m.yy, m.yz, m.zx, m.zy, m.zz]

def transpose (m : Mat3 α) : Mat3 α := ⟨m.xx, m.yx, m.zx, m.xy, m.yy, m.zy, m.xz, m.yz, m.zz⟩

def symmetricFromUpper (m : Mat3 α) : Mat3 α :=
  ⟨m.xx, m.xy, m.xz, m.xy, m.yy, m.yz, m.xz, m.yz, m.zz⟩

def diagonal (m : Mat3 α) : Vec3 α := ⟨m.xx, m.yy, m.zz⟩

variable [Scalar α]

def zero : Mat3 α := ofRows .zero .zero .zero

instance : Add (Mat3 α) := ⟨zipWith (· + ·)⟩

instance : Sub (Mat3 α) := ⟨zipWith (· - ·)⟩

instance : Neg (Mat3 α) := ⟨map (- ·)⟩

def scale (m : Mat3 α) (factor : α) : Mat3 α := m.map (· * factor)

def divide (m : Mat3 α) (divisor : α) : Mat3 α := m.map (· / divisor)

def identity : Mat3 α :=
  ⟨Scalar.one, Scalar.zero, Scalar.zero, Scalar.zero, Scalar.one, Scalar.zero,
   Scalar.zero, Scalar.zero, Scalar.one⟩

def isotropic (factor : α) : Mat3 α := identity.scale factor

def apply (m : Mat3 α) (v : Vec3 α) : Vec3 α :=
  ⟨(m.row .x).dot v, (m.row .y).dot v, (m.row .z).dot v⟩

def multiply (m n : Mat3 α) : Mat3 α :=
  let entryOf (r c : Axis) : α := (m.row r).dot (n.column c)
  ⟨entryOf .x .x, entryOf .x .y, entryOf .x .z, entryOf .y .x, entryOf .y .y, entryOf .y .z,
   entryOf .z .x, entryOf .z .y, entryOf .z .z⟩

def outer (v w : Vec3 α) : Mat3 α :=
  ⟨v.x * w.x, v.x * w.y, v.x * w.z, v.y * w.x, v.y * w.y, v.y * w.z,
   v.z * w.x, v.z * w.y, v.z * w.z⟩

def trace (m : Mat3 α) : α := Scalar.zero + m.xx + m.yy + m.zz

def contract (m n : Mat3 α) : α :=
  let p := zipWith (· * ·) m n
  Scalar.zero + p.xx + p.yx + p.zx + p.xy + p.yy + p.zy + p.xz + p.yz + p.zz

def normSquared (m : Mat3 α) : α :=
  (m.column .x).normSquared + (m.column .y).normSquared + (m.column .z).normSquared

def norm (m : Mat3 α) : α := Scalar.sqrt m.normSquared

def determinant (m : Mat3 α) : α :=
  m.xx * (m.yy * m.zz - m.zy * m.yz) - m.xy * (m.yx * m.zz - m.zx * m.yz)
    + m.xz * (m.yx * m.zy - m.zx * m.yy)

def inverse? (m : Mat3 α) : Option (Mat3 α) :=
  let d := m.determinant
  if Scalar.eq d Scalar.zero then none
  else
    some
      ⟨(m.yy * m.zz - m.zy * m.yz) / d, (m.xz * m.zy - m.zz * m.xy) / d,
       (m.xy * m.yz - m.yy * m.xz) / d, -(m.yx * m.zz - m.zx * m.yz) / d,
       (m.xx * m.zz - m.zx * m.xz) / d, (m.xz * m.yx - m.yz * m.xx) / d,
       (m.yx * m.zy - m.zx * m.yy) / d, (m.xy * m.zx - m.zy * m.xx) / d,
       (m.xx * m.yy - m.yx * m.xy) / d⟩

def cofactor (m : Mat3 α) : Mat3 α :=
  ⟨m.yy * m.zz - m.yz * m.zy, -(m.yx * m.zz - m.yz * m.zx), m.yx * m.zy - m.yy * m.zx,
   -(m.xy * m.zz - m.xz * m.zy), m.xx * m.zz - m.xz * m.zx, -(m.xx * m.zy - m.xy * m.zx),
   m.xy * m.yz - m.xz * m.yy, -(m.xx * m.yz - m.xz * m.yx), m.xx * m.yy - m.xy * m.yx⟩

def third : α := Scalar.one / Scalar.ofNat 3

def spherical (m : Mat3 α) : Mat3 α := isotropic (m.trace * third)

def deviatoric (m : Mat3 α) : Mat3 α := m - m.spherical

def deviatoricTwice (m : Mat3 α) : Mat3 α := m - isotropic (Scalar.ofNat 2 * m.trace * third)

def symmetricPart (m : Mat3 α) : Mat3 α := (m + m.transpose).scale Scalar.half

def symmetricTwice (m : Mat3 α) : Mat3 α := m + m.transpose

def skewPart (m : Mat3 α) : Mat3 α := (m - m.transpose).scale Scalar.half

end Mat3

/-- The operations that numbers, vectors and matrices share. `lower` and `upper` go entry by
entry. -/
class Element (α : outParam Type) (ε : Type) where
  zero : ε
  add : ε → ε → ε
  sub : ε → ε → ε
  neg : ε → ε
  scale : ε → α → ε
  divide : ε → α → ε
  lower : ε → ε → ε
  upper : ε → ε → ε

/-- The smaller of two entries; of two that have no order, the second one. -/
def Scalar.lowerEntry {α : Type} [Scalar α] (a b : α) : α := if Scalar.le a b then a else b

def Scalar.upperEntry {α : Type} [Scalar α] (a b : α) : α := if Scalar.le b a then a else b

namespace Element

variable {α : Type} [Scalar α]

instance number : Element α α where
  zero := Scalar.zero
  add := (· + ·)
  sub := (· - ·)
  neg := (- ·)
  scale := (· * ·)
  divide := (· / ·)
  lower := Scalar.min
  upper := Scalar.max

instance vector : Element α (Vec3 α) where
  zero := Vec3.zero
  add := (· + ·)
  sub := (· - ·)
  neg := (- ·)
  scale := Vec3.scale
  divide := Vec3.divide
  lower := Vec3.zipWith Scalar.lowerEntry
  upper := Vec3.zipWith Scalar.upperEntry

instance matrix : Element α (Mat3 α) where
  zero := Mat3.zero
  add := (· + ·)
  sub := (· - ·)
  neg := (- ·)
  scale := Mat3.scale
  divide := Mat3.divide
  lower := Mat3.zipWith Scalar.lowerEntry
  upper := Mat3.zipWith Scalar.upperEntry

end Element

end MeshLang
