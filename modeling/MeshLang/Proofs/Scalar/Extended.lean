import MeshLang.Proofs.Scalar.Ordered

namespace MeshLang

/-- A number of a field, an infinite one or an undefined one. -/
inductive Extended (κ : Type) where
  | finite (x : κ)
  | infinite (negative : Bool)
  | undefined
deriving DecidableEq, Repr

namespace Extended

variable {κ : Type} [ExactScalar κ] [LinearOrder κ]

def neg : Extended κ → Extended κ
  | finite x => finite (-x)
  | infinite negative => infinite !negative
  | undefined => undefined

def add : Extended κ → Extended κ → Extended κ
  | finite x, finite y => finite (x + y)
  | finite _, infinite negative | infinite negative, finite _ => infinite negative
  | infinite left, infinite right => if left = right then infinite left else undefined
  | _, _ => undefined

/-- An infinite number with a sign that a factor turns; nothing is said of zero times infinity. -/
def magnify (negative : Bool) (factor : κ) : Extended κ :=
  if factor = 0 then undefined else infinite (negative ^^ decide (factor < 0))

def mul : Extended κ → Extended κ → Extended κ
  | finite x, finite y => finite (x * y)
  | finite x, infinite negative | infinite negative, finite x => magnify negative x
  | infinite left, infinite right => infinite (left ^^ right)
  | _, _ => undefined

def div : Extended κ → Extended κ → Extended κ
  | finite x, finite y => if y = 0 then magnify false x else finite (x / y)
  | finite _, infinite _ => finite 0
  | infinite negative, finite y => infinite (negative ^^ decide (y < 0))
  | _, _ => undefined

def lt : Extended κ → Extended κ → Bool
  | finite x, finite y => x < y
  | finite _, infinite negative => !negative
  | infinite negative, finite _ => negative
  | infinite left, infinite right => left && !right
  | _, _ => false

def eq : Extended κ → Extended κ → Bool
  | finite x, finite y => x = y
  | infinite left, infinite right => left == right
  | _, _ => false

def le (x y : Extended κ) : Bool := lt x y || eq x y

def totalLe : Extended κ → Extended κ → Bool
  | _, undefined => true
  | x, y => le x y

def isFinite : Extended κ → Bool
  | finite _ => true
  | _ => false

def abs : Extended κ → Extended κ
  | finite x => finite (Scalar.abs x)
  | infinite _ => infinite false
  | undefined => undefined

def sqrt : Extended κ → Extended κ
  | finite x => if x < 0 then undefined else finite (Scalar.sqrt x)
  | infinite false => infinite false
  | _ => undefined

def remainder : Extended κ → Extended κ → Extended κ
  | finite x, finite y => if y = 0 then undefined else finite (Scalar.remainder x y)
  | finite x, infinite _ => finite x
  | _, _ => undefined

def extend (f : κ → κ) : Extended κ → Extended κ
  | finite x => finite (f x)
  | _ => undefined

instance : Scalar (Extended κ) where
  add := add
  sub x y := add x (neg y)
  mul := mul
  div := div
  neg := neg
  ofNat n := finite (Scalar.ofNat n)
  ofDecimal d := finite (Scalar.ofDecimal d)
  pi := finite Scalar.pi
  infinity := infinite false
  nan := undefined
  epsilon := finite Scalar.epsilon
  smallestNormal := finite Scalar.smallestNormal
  lt := lt
  le := le
  eq := eq
  totalLe := totalLe
  isFinite := isFinite
  abs := abs
  sqrt := sqrt
  pow x y :=
    match y with
    | finite y => extend (Scalar.pow · y) x
    | _ => undefined
  remainder := remainder
  elementary f := extend (Scalar.elementary f)
  symmetricEigenvalues m := ⟨m.xx, m.yy, m.zz⟩
  symmetricEigen := Mat3.onAxes (finite 0) (finite 1)
  realEigenvalues m := ⟨m.xx, m.yy, m.zz⟩
  drawn seed draws positive := finite (Scalar.drawn seed draws positive)

variable {x y z : Extended κ} {a b : κ}

@[simp]
theorem sub_finite (a b : κ) : finite a - finite b = finite (a - b) :=
  congrArg finite (sub_eq_add_neg a b).symm

theorem add_finite (a b : κ) : finite a + finite b = finite (a + b) := rfl

theorem mul_finite (a b : κ) : finite a * finite b = finite (a * b) := rfl

theorem div_finite (nonzero : b ≠ 0) : finite a / finite b = finite (a / b) := if_neg nonzero

@[simp]
theorem lt_finite : Scalar.lt (finite a) (finite b) = true ↔ a < b := decide_eq_true_iff

@[simp]
theorem eq_finite : Scalar.eq (finite a) (finite b) = true ↔ a = b := decide_eq_true_iff

@[simp]
theorem le_finite : Scalar.le (finite a) (finite b) = true ↔ a ≤ b := by
  show (decide (a < b) || decide (a = b)) = true ↔ a ≤ b
  simp [le_iff_lt_or_eq]

theorem le_finite_eq [OrderedScalar κ] (a b : κ) :
    Scalar.le (finite a) (finite b) = Scalar.le a b := by
  rw [Bool.eq_iff_iff, OrderedScalar.le_iff]
  exact le_finite

theorem totalLe_finite (a b : κ) : Scalar.totalLe (finite a) (finite b) = decide (a ≤ b) := by
  show le (finite a) (finite b) = decide (a ≤ b)
  rw [Bool.eq_iff_iff, decide_eq_true_iff]
  exact le_finite

theorem exists_of_isFinite (isFinite : Scalar.isFinite x = true) : ∃ a, x = finite a := by
  cases x with
  | finite a => exact ⟨a, rfl⟩
  | infinite | undefined => cases isFinite

@[simp]
theorem le_finite_infinite {negative : Bool} :
    Scalar.le (finite a) (infinite negative) = true ↔ negative = false := by
  cases negative <;> simp [Scalar.le, le, lt, eq]

@[simp]
theorem le_infinite_finite {negative : Bool} :
    Scalar.le (infinite negative) (finite a) = true ↔ negative = true := by
  cases negative <;> simp [Scalar.le, le, lt, eq]

@[simp]
theorem not_le_undefined : Scalar.le x undefined = false := by
  cases x <;> rfl

theorem finite_le_of_le (ordered : a ≤ b) (right : Scalar.le (finite b) x = true) :
    Scalar.le (finite a) x = true := by
  cases x with
  | finite c => exact le_finite.mpr (ordered.trans (le_finite.mp right))
  | infinite negative => exact le_finite_infinite.mpr (le_finite_infinite.mp right)
  | undefined => simp at right

end Extended

end MeshLang
