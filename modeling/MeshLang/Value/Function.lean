import MeshLang.Value.Broadcast

namespace MeshLang

/-- Functions of one number. `sign` is one from zero on and minus one below, `positive` and
`negative` are the truth values of these two cases. -/
inductive ScalarFunction where
  | sqrt
  | elementary (function : Elementary)
  | sign
  | positive
  | negative
deriving DecidableEq, Repr

def Elementary.all : List Elementary :=
  [.exp, .log, .log10, .sin, .cos, .tan, .asin, .acos, .atan, .sinh, .cosh, .tanh, .asinh, .acosh,
   .atanh, .erf, .erfc, .lgamma, .besselJ0, .besselJ1, .besselY0, .besselY1]

def Elementary.name : Elementary → String
  | .exp => "exp"
  | .log => "log"
  | .log10 => "log10"
  | .sin => "sin"
  | .cos => "cos"
  | .tan => "tan"
  | .asin => "asin"
  | .acos => "acos"
  | .atan => "atan"
  | .sinh => "sinh"
  | .cosh => "cosh"
  | .tanh => "tanh"
  | .asinh => "asinh"
  | .acosh => "acosh"
  | .atanh => "atanh"
  | .erf => "erf"
  | .erfc => "erfc"
  | .lgamma => "lgamma"
  | .besselJ0 => "besselJ0"
  | .besselJ1 => "besselJ1"
  | .besselY0 => "besselY0"
  | .besselY1 => "besselY1"

namespace ScalarFunction

def all : List ScalarFunction :=
  .sqrt :: Elementary.all.map .elementary ++ [.sign, .positive, .negative]

def name : ScalarFunction → String
  | .sqrt => "sqrt"
  | .elementary function => function.name
  | .sign => "sign"
  | .positive => "pos"
  | .negative => "neg"

def ofName? (name : String) : Option ScalarFunction := all.find? (·.name == name)

variable {α : Type} [Scalar α]

def apply : ScalarFunction → α → α
  | .sqrt, x => Scalar.sqrt x
  | .elementary function, x => Scalar.elementary function x
  | .sign, x => if Scalar.le Scalar.zero x then Scalar.one else -Scalar.one
  | .positive, x => Scalar.truth (Scalar.le Scalar.zero x)
  | .negative, x => Scalar.truth (Scalar.lt x Scalar.zero)

def resultTag : ScalarFunction → Option (Dimensions α) → Option (Dimensions α)
  | .sqrt, tag => tag.map (·.pow Scalar.half)
  | _, tag => tag.map fun _ => Dimensions.dimensionless

end ScalarFunction

namespace Value

variable {α : Type} [Scalar α]

def applyScalar (function : ScalarFunction) (v : Value α) : Except (FieldError α) (Value α) :=
  match v.data with
  | .scalar xs =>
    .ok ⟨.scalar, v.location, .scalar (xs.map function.apply), function.resultTag v.dimensions⟩
  | _ => .error (.unsupported function.name v.kind)

/-- The tag of a power. With an exponent that varies over the mesh it is a plain number. -/
def powerTag (base : Option (Dimensions α)) (constant : Bool) (exponents : List α) :
    Option (Dimensions α) :=
  base.map fun tag =>
    if constant then tag.pow (exponents.headD Scalar.zero) else Dimensions.dimensionless

def pow (base exponent : Value α) : Except (FieldError α) (Value α) := do
  let (location, n) ← domain base exponent
  match base.data, exponent.data with
  | .scalar xs, .scalar es =>
    .ok ⟨.scalar, location, .scalar (zipSpread n Scalar.pow xs es),
      powerTag base.dimensions exponent.isConstant es⟩
  | _, _ => .error (.unsupported "pow" base.kind)

def magnitude (v : Value α) : Value α :=
  let sizes := match v.data with
    | .scalar xs => xs.map Scalar.abs
    | .vector xs => xs.map Vec3.norm
    | .tensor xs => xs.map Mat3.norm
  ⟨.scalar, v.location, .scalar sizes, v.dimensions⟩

def magnitudeSquared (v : Value α) : Value α :=
  let sizes := match v.data with
    | .scalar xs => xs.map fun x => x * x
    | .vector xs => xs.map Vec3.normSquared
    | .tensor xs => xs.map Mat3.normSquared
  ⟨.scalar, v.location, .scalar sizes, v.dimensions.map (·.pow (Scalar.ofNat 2))⟩

def square (v : Value α) : Except (FieldError α) (Value α) :=
  let tag := v.dimensions.map (·.pow (Scalar.ofNat 2))
  match v.data with
  | .scalar xs => .ok ⟨.scalar, v.location, .scalar (xs.map fun x => x * x), tag⟩
  | .vector xs => .ok ⟨.symmTensor, v.location, .tensor (xs.map fun x => Mat3.outer x x), tag⟩
  | .tensor _ => .error (.unsupported "sqr" v.kind)

def minimum (v w : Value α) : Except (FieldError α) (Value α) := do
  let (location, n) ← domain v w
  let tag ← sumTag "min" v.dimensions w.dimensions
  match Data.lift₂ (zipSpread n Element.lower) v.data w.data with
  | some data => .ok ⟨v.kind, location, data, tag⟩
  | none => .error (.unsupported "min" w.kind)

def maximum (v w : Value α) : Except (FieldError α) (Value α) := do
  let (location, n) ← domain v w
  let tag ← sumTag "max" v.dimensions w.dimensions
  match Data.lift₂ (zipSpread n Element.upper) v.data w.data with
  | some data => .ok ⟨v.kind, location, data, tag⟩
  | none => .error (.unsupported "max" w.kind)

end Value

variable {α : Type} [Scalar α]

def Kind.assemble? (kind : Kind) (entries : List (List α)) : Option (Data α) :=
  match kind with
  | .vector => some (.vector (entries.map fun
      | [x, y, z] => ⟨x, y, z⟩
      | _ => Vec3.zero))
  | .tensor => some (.tensor (entries.map fun
      | [xx, xy, xz, yx, yy, yz, zx, zy, zz] => ⟨xx, xy, xz, yx, yy, yz, zx, zy, zz⟩
      | _ => Mat3.zero))
  | .symmTensor => some (.tensor (entries.map fun
      | [xx, xy, xz, yy, yz, zz] => ⟨xx, xy, xz, xy, yy, yz, xz, yz, zz⟩
      | _ => Mat3.zero))
  | .sphericalTensor => some (.tensor (entries.map fun
      | [ii] => Mat3.isotropic ii
      | _ => Mat3.zero))
  | .logical | .scalar => none

namespace Value

def constructorName : String := "component constructor"

structure Gathered (α : Type) where
  location : Option Location
  size : Nat
  tag : Option (Dimensions α)

/-- Takes one more component into account. Its domain is compared with that of the first one. -/
def Gathered.extend (gathered : Gathered α) (first component : Value α) :
    Except (FieldError α) (Gathered α) := do
  if component.scalars?.isNone || component.isLogical then
    throw (.unsupported constructorName component.kind)
  let (location, size) ← domain first component
  let tag ← sumTag constructorName gathered.tag component.dimensions
  return ⟨gathered.location.or location, max gathered.size size, tag⟩

/-- A value of a kind from its components, in the order of `Kind.components`. -/
def build (kind : Kind) (components : List (Value α)) : Except (FieldError α) (Value α) := do
  match components with
  | [] => throw (.unsupported constructorName kind)
  | first :: rest =>
    if components.length ≠ kind.components.length then
      throw (.unsupported constructorName kind)
    if first.scalars?.isNone || first.isLogical then
      throw (.unsupported constructorName first.kind)
    let start : Gathered α :=
      ⟨first.location, if first.isConstant then 1 else first.size, first.dimensions⟩
    let gathered ← rest.foldlM (·.extend first ·) start
    let columns := components.filterMap (·.scalars?)
    let entries := (List.range gathered.size).map fun i =>
      columns.map fun column => (spread gathered.size column).getD i Scalar.zero
    match kind.assemble? entries with
    | some data => return ⟨kind, gathered.location, data, gathered.tag⟩
    | none => throw (.unsupported constructorName kind)

end Value

end MeshLang
