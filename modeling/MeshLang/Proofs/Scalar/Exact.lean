import Mathlib.Algebra.Field.Rat
import MeshLang.Scalar

namespace MeshLang

def Mat3.onAxes {α : Type} (zero one : α) (m : Mat3 α) : Vec3 (α × Vec3 α) :=
  ⟨(m.xx, ⟨one, zero, zero⟩), (m.yy, ⟨zero, one, zero⟩), (m.zz, ⟨zero, zero, one⟩)⟩

/-- A fraction or the undefined number. -/
structure Exact where
  fraction? : Option Rat
deriving DecidableEq

namespace Exact

def ofRat (q : Rat) : Exact := ⟨some q⟩

def undefined : Exact := ⟨none⟩

def lift (f : Rat → Option Rat) (x : Exact) : Exact := ⟨x.fraction?.bind f⟩

def lift₂ (f : Rat → Rat → Option Rat) (x y : Exact) : Exact :=
  ⟨x.fraction?.bind fun p => y.fraction?.bind (f p)⟩

def both (test : Rat → Rat → Bool) (x y : Exact) : Bool :=
  match x.fraction?, y.fraction? with
  | some p, some q => test p q
  | _, _ => false

def divide? (p q : Rat) : Option Rat := if q = 0 then none else some (p / q)

def root? (n : Nat) : Option Nat := (List.range (n + 1)).find? fun k => k * k == n

def sqrt? (q : Rat) : Option Rat :=
  if q.num < 0 then none
  else do
    let above ← root? q.num.toNat
    let below ← root? q.den
    return mkRat above below

def power? (p q : Rat) : Option Rat :=
  if q.den = 1 then
    if q.num < 0 then divide? 1 (p ^ q.num.natAbs) else some (p ^ q.num.natAbs)
  else none

def remainder? (p q : Rat) : Option Rat :=
  (divide? p q).map fun quotient => p - q * (quotient.num.tdiv quotient.den : Int)

def ofDecimal (d : Decimal) : Exact :=
  if d.exponent < 0 then ofRat (mkRat d.digits (Decimal.tenTo (-d.exponent).toNat))
  else ofRat (mkRat (d.digits * Decimal.tenTo d.exponent.toNat : Nat) 1)

instance : Scalar Exact where
  add := lift₂ fun p q => some (p + q)
  sub := lift₂ fun p q => some (p - q)
  mul := lift₂ fun p q => some (p * q)
  div := lift₂ divide?
  neg := lift fun p => some (-p)
  ofNat n := ofRat n
  ofDecimal := ofDecimal
  pi := undefined
  infinity := undefined
  nan := undefined
  epsilon := ofRat 0
  smallestNormal := ofRat 0
  lt := both fun p q => p < q
  le := both fun p q => p ≤ q
  eq := both fun p q => p = q
  totalLe x y := y.fraction?.isNone || both (fun p q => p ≤ q) x y
  isFinite x := x.fraction?.isSome
  abs := lift fun p => some (if p < 0 then -p else p)
  sqrt := lift sqrt?
  pow := lift₂ power?
  remainder := lift₂ remainder?
  elementary _ _ := undefined
  symmetricEigenvalues m := ⟨m.xx, m.yy, m.zz⟩
  symmetricEigen := Mat3.onAxes (ofRat 0) (ofRat 1)
  realEigenvalues m := ⟨m.xx, m.yy, m.zz⟩
  drawn _ _ _ := ofRat (1 / 2)

end Exact

/-- Numbers whose four operations are those of a field, and whose whole numbers are those of it. -/
class ExactScalar (α : Type) extends Scalar α, Field α where
  ofNat_eq : ∀ n : Nat, Scalar.ofNat n = (n : α)

namespace ExactScalar

variable {α : Type} [ExactScalar α]

@[simp]
theorem zero_eq : (Scalar.zero : α) = 0 := (ofNat_eq 0).trans Nat.cast_zero

@[simp]
theorem one_eq : (Scalar.one : α) = 1 := (ofNat_eq 1).trans Nat.cast_one

theorem half_eq : (Scalar.half : α) = 2⁻¹ := by
  rw [Scalar.half, one_eq, ofNat_eq, one_div, Nat.cast_ofNat]

instance : ExactScalar Rat where
  toField := inferInstance
  ofNat n := n
  ofDecimal d := (Exact.ofDecimal d).fraction?.getD 0
  pi := 0
  infinity := 0
  nan := 0
  epsilon := 0
  smallestNormal := 0
  lt p q := decide (p < q)
  le p q := decide (p ≤ q)
  eq p q := decide (p = q)
  totalLe p q := decide (p ≤ q)
  isFinite _ := true
  abs p := if p < 0 then -p else p
  sqrt p := (Exact.sqrt? p).getD 0
  pow p q := (Exact.power? p q).getD 0
  remainder p q := (Exact.remainder? p q).getD 0
  elementary _ _ := 0
  symmetricEigenvalues m := ⟨m.xx, m.yy, m.zz⟩
  symmetricEigen := Mat3.onAxes 0 1
  realEigenvalues m := ⟨m.xx, m.yy, m.zz⟩
  drawn _ _ _ := 1 / 2
  ofNat_eq _ := rfl

end ExactScalar

end MeshLang
