import MeshLang.Linear

namespace MeshLang

variable {α : Type} [Scalar α]

def Scalar.signOf (a : α) : α := if Scalar.le Scalar.zero a then Scalar.one else -Scalar.one

def Vec3.reflector? (v : Vec3 α) : Option (Vec3 α × α) :=
  let squared := v.normSquared
  let length := Scalar.sqrt squared
  let signed := Scalar.signOf v.x * length
  let factor := (squared + Scalar.abs v.x * length) * Scalar.ofNat 2
  if Scalar.eq factor Scalar.zero then none
  else
    let normal : Vec3 α := ⟨v.x + signed, v.y, v.z⟩
    some ((normal.divide (Scalar.sqrt factor)).normalized, -signed)

def Vec3.inLastPlane (a b : α) : Vec3 α := ⟨Scalar.zero, a, b⟩

def Mat3.reflection (normal : Vec3 α) : Mat3 α :=
  Mat3.identity - (Mat3.outer normal normal).scale (Scalar.ofNat 2)

def Mat3.reflected (m : Mat3 α) (normal : Vec3 α) : Mat3 α :=
  ((Mat3.reflection normal).multiply m).multiply (Mat3.reflection normal)

structure Rotation (α : Type) where
  cosine : α
  sine : α

def Rotation.cancelling? (a b : α) : Option (Rotation α × α) :=
  if Scalar.eq b Scalar.zero then none
  else
    let length := Scalar.sqrt (Scalar.abs a * Scalar.abs a + b * b)
    let sign := Scalar.signOf a
    some (⟨Scalar.abs a / length, -b / (sign * length)⟩, sign * length)

def Rotation.along? (a b : α) : Option (Rotation α) :=
  let length := Scalar.sqrt (Scalar.abs a * Scalar.abs a + b * b)
  if Scalar.lt Scalar.epsilon length then
    some ⟨Scalar.abs a / length, b / (Scalar.signOf a * length)⟩
  else none

def Rotation.turn (r : Rotation α) (v w : Vec3 α) : Vec3 α × Vec3 α :=
  (v.scale r.cosine + w.scale r.sine, w.scale r.cosine - v.scale r.sine)

def Rotation.inverse (r : Rotation α) : Rotation α := ⟨r.cosine, -r.sine⟩

def realPair? (a d product : α) : Option (α × α) :=
  let difference := (a - d) * Scalar.half
  let discriminant := product + difference * difference
  if Scalar.le Scalar.zero discriminant then
    let mean := (a + d) * Scalar.half
    some (mean + Scalar.sqrt discriminant, mean - Scalar.sqrt discriminant)
  else none

def negligible (entry first second : α) : Bool :=
  Scalar.le (Scalar.abs entry) (Scalar.epsilon * (Scalar.abs first + Scalar.abs second))

def Mat3.largest (m : Mat3 α) : α :=
  (m.toList.map Scalar.abs).foldl Scalar.max Scalar.zero

structure Tridiagonal (α : Type) where
  first : α
  second : α
  third : α
  upperLink : α
  lowerLink : α
  basis : Vec3 α × Vec3 α × Vec3 α

namespace Tridiagonal

/-- A reflection of the last two coordinates clears the entry in the corner; then the last axis is
reversed if the remaining link is negative, so that both links are magnitudes. -/
def ofLower (m : Mat3 α) : Tridiagonal α :=
  let symmetric : Mat3 α := ⟨m.xx, m.yx, m.zx, m.yx, m.yy, m.zy, m.zx, m.zy, m.zz⟩
  match (⟨m.yx, m.zx, Scalar.zero⟩ : Vec3 α).reflector? with
  | none =>
    let sign := Scalar.signOf m.zy
    ⟨m.xx, m.yy, m.zz, Scalar.zero, Scalar.abs m.zy,
      (Mat3.identity.column .x, Mat3.identity.column .y, (Mat3.identity.column .z).scale sign)⟩
  | some (normal, landing) =>
    let axis := Vec3.inLastPlane normal.x normal.y
    let turned := symmetric.reflected axis
    let plane := Mat3.reflection axis
    let upper := Scalar.signOf landing
    let lower := Scalar.signOf turned.zy
    ⟨m.xx, turned.yy, turned.zz, Scalar.abs landing, Scalar.abs turned.zy,
      (Mat3.identity.column .x, (plane.column .y).scale upper,
        (plane.column .z).scale (upper * lower))⟩

def shift (t : Tridiagonal α) : α :=
  let squared := t.lowerLink * t.lowerLink
  if Scalar.eq squared Scalar.zero then t.third
  else
    let d := (t.second - t.third) * Scalar.half
    t.third - squared / (d + Scalar.signOf d * Scalar.sqrt (d * d + squared))

def turnedBlock (r : Rotation α) (a b link : α) : α × α × α :=
  let cc := r.cosine * r.cosine
  let ss := r.sine * r.sine
  let cs := r.cosine * r.sine
  let mixed := cs * Scalar.ofNat 2 * link
  (cc * a + ss * b - mixed, ss * a + cc * b + mixed, cs * (a - b) + link * (cc - ss))

/-- One sweep over three coupled rows: the first rotation introduces the shift, the second one
restores the form. -/
def sweep (t : Tridiagonal α) : Tridiagonal α :=
  match Rotation.cancelling? (t.first - t.shift) t.upperLink with
  | none => t
  | some (r, _) =>
    let (first, second, upperLink) := turnedBlock r t.first t.second t.upperLink
    let bulge := -r.sine * t.lowerLink
    let lowerLink := t.lowerLink * r.cosine
    let (u, v) := r.inverse.turn t.basis.1 t.basis.2.1
    match Rotation.cancelling? upperLink bulge with
    | none => ⟨first, second, t.third, upperLink, lowerLink, (u, v, t.basis.2.2)⟩
    | some (q, landing) =>
      let (second, third, lowerLink) := turnedBlock q second t.third lowerLink
      let (v, w) := q.inverse.turn v t.basis.2.2
      ⟨first, second, third, landing, lowerLink, (u, v, w)⟩

def decouple (a b link : α) (v w : Vec3 α) : (α × α) × (Vec3 α × Vec3 α) :=
  let (large, small) := (realPair? a b (link * link)).getD (a, b)
  match Rotation.along? (large - b) link with
  | none => ((large, small), (v, w))
  | some r => ((large, small), r.turn v w)

def decoupleUpper (t : Tridiagonal α) : Tridiagonal α :=
  let ((first, second), (u, v)) := decouple t.first t.second t.upperLink t.basis.1 t.basis.2.1
  ⟨first, second, t.third, Scalar.zero, t.lowerLink, (u, v, t.basis.2.2)⟩

def decoupleLower (t : Tridiagonal α) : Tridiagonal α :=
  let ((second, third), (v, w)) := decouple t.second t.third t.lowerLink t.basis.2.1 t.basis.2.2
  ⟨t.first, second, third, t.upperLink, Scalar.zero, (t.basis.1, v, w)⟩

/-- Sweeps until a link is lost, then decouples what is left; nothing if no link is lost in so many
rounds. -/
def diagonalize? : Nat → Tridiagonal α → Option (Tridiagonal α)
  | 0, _ => none
  | rounds + 1, t =>
    if negligible t.lowerLink t.third t.second then
      if negligible t.upperLink t.second t.first then some t else some t.decoupleUpper
    else if negligible t.upperLink t.second t.first then some t.decoupleLower
    else diagonalize? rounds t.sweep

end Tridiagonal

namespace Mat3

def diagonalized? (rounds : Nat) (m : Mat3 α) : Option (Vec3 (α × Vec3 α)) :=
  let size := m.largest
  let scaled := if Scalar.eq size Scalar.zero then m else m.divide size
  ((Tridiagonal.ofLower scaled).diagonalize? rounds).map fun t =>
    ⟨(t.first * size, t.basis.1), (t.second * size, t.basis.2.1), (t.third * size, t.basis.2.2)⟩

def withoutCorner (m : Mat3 α) : Mat3 α :=
  match (⟨m.yx, m.zx, Scalar.zero⟩ : Vec3 α).reflector? with
  | none => m
  | some (normal, landing) =>
    let turned := m.reflected (Vec3.inLastPlane normal.x normal.y)
    { turned with yx := landing, zx := Scalar.zero }

def doubleShift (m : Mat3 α) : Mat3 α :=
  let sum := m.zz + m.yy
  let product := m.zz * m.yy - m.zy * m.yz
  let start : Vec3 α :=
    ⟨m.xx * m.xx + m.xy * m.yx - sum * m.xx + product, m.yx * (m.xx + m.yy - sum), m.yx * m.zy⟩
  match start.reflector? with
  | none => m
  | some (normal, _) => (m.reflected normal).withoutCorner

def blockValues (a b c d : α) : α × α :=
  (realPair? a d (b * c)).getD ((a + d) * Scalar.half, (a + d) * Scalar.half)

def generalValues? : Nat → Mat3 α → Option (Vec3 α)
  | 0, _ => none
  | rounds + 1, m =>
    if negligible m.zy m.zz m.yy then
      if negligible m.yx m.yy m.xx then some m.diagonal
      else
        let (first, second) := blockValues m.xx m.xy m.yx m.yy
        some ⟨first, second, m.zz⟩
    else if negligible m.yx m.yy m.xx then
      let (second, third) := blockValues m.yy m.yz m.zy m.zz
      some ⟨m.xx, second, third⟩
    else generalValues? rounds m.doubleShift

def values? (rounds : Nat) (m : Mat3 α) : Option (Vec3 α) :=
  let size := m.largest
  (generalValues? rounds (m.divide size).withoutCorner).map (·.scale size)

end Mat3

def Vec3.ascending (v : Vec3 α) : Vec3 α :=
  match v.toList.mergeSort Scalar.totalLe with
  | [low, middle, high] => ⟨low, middle, high⟩
  | _ => v

namespace Mat3

/-- Real parts of the eigenvalues, ascending. A matrix known to be symmetric is treated as such. -/
def eigenValues (symmetric : Bool) (m : Mat3 α) : Vec3 α :=
  (if symmetric then Scalar.symmetricEigenvalues m else Scalar.realEigenvalues m).ascending

/-- A unit vector that a matrix without full rank sends to zero: the longest cross product of two
rows, or an axis where all of them vanish. -/
def nullVector (m : Mat3 α) (fallback : Vec3 α) : Vec3 α :=
  let first := (m.row .x).cross (m.row .y)
  let second := (m.row .x).cross (m.row .z)
  let third := (m.row .y).cross (m.row .z)
  let longer (v w : Vec3 α) : Vec3 α :=
    if Scalar.totalLe v.normSquared w.normSquared then w else v
  let best := longer (longer first second) third
  if Scalar.lt Scalar.epsilon best.normSquared then best.normalized else fallback

def eigenVectors (symmetric : Bool) (m : Mat3 α) : Mat3 α :=
  if symmetric then
    match (Scalar.symmetricEigen m).toList.mergeSort fun p q => Scalar.totalLe p.1 q.1 with
    | [low, middle, high] => ofRows low.2 middle.2 high.2
    | _ => zero
  else
    let values := eigenValues false m
    let row (axis : Axis) : Vec3 α :=
      nullVector (m - isotropic (values.entry axis)) (identity.row axis)
    ofRows (row .x) (row .y) (row .z)

end Mat3

end MeshLang
