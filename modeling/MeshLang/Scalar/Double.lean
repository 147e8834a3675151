import MeshLang.Decimal.Shortest
import MeshLang.Linear.Eigen
import MeshLang.Special.Bessel

namespace MeshLang.Double

/-- `log (1 + x)`, accurate for small `x`: the rounding of `1 + x` is divided out again. -/
def logOnePlus (x : Float) : Float :=
  let sum := 1 + x
  if sum == 1 then x
  else if sum.isInf then sum
  else Float.log sum * (x / (sum - 1))

def asinh (x : Float) : Float :=
  let size := x.abs
  let inverse := 1 / size
  let value := logOnePlus (size + size / ((1 + inverse * inverse).sqrt + inverse))
  if x.toBits ≥ 0x8000000000000000 then -value else value

def acosh (x : Float) : Float :=
  if x < 1 then 0 / 0 else Float.log (x + (x - 1).sqrt * (x + 1).sqrt)

def atanh (x : Float) : Float := 0.5 * logOnePlus (2 * x / (1 - x))

def elementary : Elementary → Float → Float
  | .exp => Float.exp
  | .log => Float.log
  | .log10 => Float.log10
  | .sin => Float.sin
  | .cos => Float.cos
  | .tan => Float.tan
  | .asin => Float.asin
  | .acos => Float.acos
  | .atan => Float.atan
  | .sinh => Float.sinh
  | .cosh => Float.cosh
  | .tanh => Float.tanh
  | .asinh => asinh
  | .acosh => acosh
  | .atanh => atanh
  | .erf => Special.erf
  | .erfc => Special.erfc
  | .lgamma => Special.lgamma
  | .besselJ0 => Special.besselJ0
  | .besselJ1 => Special.besselJ1
  | .besselY0 => Special.besselY0
  | .besselY1 => Special.besselY1

def undefined : Float := Float.ofBits 0x7FF8000000000000

/-- The word that a counter of 64 bits gives for a draw, scrambled. -/
def scrambled (seed : UInt64) (draw : Nat) : UInt64 :=
  let counter := seed + 0x9E3779B97F4A7C15 * UInt64.ofNat draw
  let first := (counter ^^^ (counter >>> 30)) * 0xBF58476D1CE4E5B9
  let second := (first ^^^ (first >>> 27)) * 0x94D049BB133111EB
  second ^^^ (second >>> 31)

/-- A multiple of `2 ^ -53`, from zero on and less than one; it is taken from one down where zero is
left out. -/
def drawn (seed : UInt64) (draws : List Bool) (positive : Bool) : Float :=
  let word := scrambled seed (draws.length + 1)
  let fraction := Binary64.nearest false (word >>> 11).toNat 0x20000000000000
  if positive then 1 - fraction else fraction

@[reducible]
def arithmetic : Scalar Float where
  ofNat n := Binary64.nearest false n 1
  ofDecimal := Binary64.ofDecimal false
  pi := Float.ofBits 0x400921FB54442D18
  infinity := Float.ofBits 0x7FF0000000000000
  nan := undefined
  epsilon := Float.ofBits 0x3CB0000000000000
  smallestNormal := Float.ofBits 0x0010000000000000
  lt x y := x < y
  le x y := x ≤ y
  eq x y := x == y
  totalLe x y := Binary64.totalKey x ≤ Binary64.totalKey y
  isFinite := Float.isFinite
  abs := Float.abs
  sqrt := Float.sqrt
  pow := Float.pow
  remainder := Binary64.remainder
  elementary := elementary
  symmetricEigenvalues _ := Vec3.uniform undefined
  symmetricEigen _ := Vec3.uniform (undefined, Vec3.uniform undefined)
  realEigenvalues _ := Vec3.uniform undefined
  drawn := drawn

/-- Enough rounds for matrices of finite numbers. Without convergence all results are undefined. -/
def rounds : Nat := 1000

def symmetricEigen (m : Mat3 Float) : Vec3 (Float × Vec3 Float) :=
  (@Mat3.diagonalized? Float arithmetic rounds m).getD (arithmetic.symmetricEigen m)

instance : Scalar Float :=
  { arithmetic with
    symmetricEigenvalues := fun m =>
      ⟨(symmetricEigen m).x.1, (symmetricEigen m).y.1, (symmetricEigen m).z.1⟩
    symmetricEigen := symmetricEigen
    realEigenvalues := fun m =>
      (@Mat3.values? Float arithmetic rounds m).getD (arithmetic.realEigenvalues m) }

def named? (word : List Char) : Option Float :=
  match String.ofList (word.map Char.toLower) with
  | "inf" | "infinity" => some (1 / 0)
  | "nan" => some (0 / 0)
  | _ => none

def readUnsigned? (text : List Char) : Option Float :=
  match named? text with
  | some x => some x
  | none => (Decimal.read? text).map (Binary64.ofDecimal false)

def read? : List Char → Option Float
  | '+' :: rest => readUnsigned? rest
  | '-' :: rest => (readUnsigned? rest).map (- ·)
  | text => readUnsigned? text

instance : Numeral Float where
  write := Decimal.shortestText
  read? := read?

end MeshLang.Double
