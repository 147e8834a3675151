import MeshLang.Decimal

namespace MeshLang

inductive Elementary where
  | exp
  | log
  | log10
  | sin
  | cos
  | tan
  | asin
  | acos
  | atan
  | sinh
  | cosh
  | tanh
  | asinh
  | acosh
  | atanh
  | erf
  | erfc
  | lgamma
  | besselJ0
  | besselJ1
  | besselY0
  | besselY1
deriving DecidableEq, Repr

structure Vec3 (α : Type) where
  x : α
  y : α
  z : α
deriving DecidableEq, Repr

/-- The entry `xy` is in the row of `x` and the column of `y`. -/
structure Mat3 (α : Type) where
  xx : α
  xy : α
  xz : α
  yx : α
  yy : α
  yz : α
  zx : α
  zy : α
  zz : α
deriving DecidableEq, Repr

/-- A type of numbers. Comparisons answer `false` where there is no order, as between a number and
the result of an undefined operation; `totalLe` orders every two of them and is used for sorting.
`epsilon` and `smallestNormal` guard divisions by lengths and areas that vanish.

The last four are what other libraries compute: the eigenvalues of a matrix that is read as a symmetric
one, these with unit eigenvectors, the real parts of the eigenvalues of any matrix, all of them in no
order, and the number that a generator with a seed draws next from zero on, or above zero, up to one,
when it has drawn others. Nothing is assumed of them but that they answer. -/
class Scalar (α : Type) extends Add α, Sub α, Mul α, Div α, Neg α where
  ofNat : Nat → α
  ofDecimal : Decimal → α
  pi : α
  infinity : α
  nan : α
  epsilon : α
  smallestNormal : α
  lt : α → α → Bool
  le : α → α → Bool
  eq : α → α → Bool
  totalLe : α → α → Bool
  isFinite : α → Bool
  abs : α → α
  sqrt : α → α
  pow : α → α → α
  remainder : α → α → α
  elementary : Elementary → α → α
  symmetricEigenvalues : Mat3 α → Vec3 α
  symmetricEigen : Mat3 α → Vec3 (α × Vec3 α)
  realEigenvalues : Mat3 α → Vec3 α
  drawn : UInt64 → List Bool → Bool → α

class Numeral (α : Type) where
  write : α → String
  read? : List Char → Option α

namespace Scalar

variable {α : Type} [Scalar α]

def zero : α := ofNat 0

def one : α := ofNat 1

def half : α := one / ofNat 2

def isUndefined (x : α) : Bool := !eq x x

/-- The smaller of two numbers, the first one of two equal ones, and the defined one of two of which
one is undefined. -/
def min (x y : α) : α := if isUndefined x then y else if lt y x then y else x

def max (x y : α) : α := if isUndefined x then y else if lt x y then y else x

def clamp (lower upper x : α) : α :=
  let raised := if lt x lower then lower else x
  if lt upper raised then upper else raised

def truth (b : Bool) : α := if b then one else zero

def isTrue (x : α) : Bool := !eq x zero

end Scalar

end MeshLang
