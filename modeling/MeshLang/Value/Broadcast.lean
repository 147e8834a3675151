import MeshLang.Value

namespace MeshLang

def spread {ε : Type} (n : Nat) : List ε → List ε
  | [x] => List.replicate n x
  | xs => xs

def zipSpread {ε δ γ : Type} (n : Nat) (f : ε → δ → γ) (xs : List ε) (ys : List δ) : List γ :=
  List.zipWith f (spread n xs) (spread n ys)

namespace Value

variable {α : Type}

/-- Location and element count that two operands share. A constant fits every location. -/
def domain (v w : Value α) : Except (FieldError α) (Option Location × Nat) :=
  match v.location, w.location with
  | some location, some _ =>
    if v.size = w.size then .ok (some location, v.size)
    else .error (.sizeMismatch v.size w.size)
  | some location, none => .ok (some location, v.size)
  | none, some location => .ok (some location, w.size)
  | none, none => .ok (none, 1)

variable [Scalar α]

/-- The tag of a sum: the two must be equal where both are there, and an operand without one adopts
the other one's. -/
def sumTag (operation : String) :
    Option (Dimensions α) → Option (Dimensions α) →
      Except (FieldError α) (Option (Dimensions α))
  | some d, some e => if d.agrees e then .ok (some d) else .error (.dimensionMismatch operation d e)
  | some d, none => .ok (some d)
  | none, e => .ok e

def productTag : Option (Dimensions α) → Option (Dimensions α) → Option (Dimensions α)
  | some d, some e => some (d.multiply e)
  | some d, none => some d
  | none, e => e

def quotientTag : Option (Dimensions α) → Option (Dimensions α) → Option (Dimensions α)
  | some d, some e => some (d.divide e)
  | some d, none => some d
  | none, some e => some (Dimensions.dimensionless.divide e)
  | none, none => none

end Value

end MeshLang
