import MeshLang.Plugin

namespace MeshLang.Plugin

variable {α : Type} [Scalar α]

structure Bounded (α : Type) where
  value : Value α
  low : α
  high : α

/-- An expression, a lower and an upper bound in parentheses. The kind of the expression is checked
before the bounds are read, the order of the bounds at the end. -/
def bounded : Reading α (Bounded α) := do
  .step Arguments.openList
  let value ← .expression none
  if value.kind ≠ .scalar then
    .fail (.wrongType "scalar" value.describe)
  else do
    .step Arguments.separator
    let low ← .step Arguments.scalar
    .step Arguments.separator
    let high ← .step Arguments.scalar
    .step Arguments.closeList
    if Scalar.lt high low then .fail (.invertedBounds low high) else return ⟨value, low, high⟩

def ofBounded (make : Bounded α → Value α) : Reading α (Value α × Nat) := do
  let range ← bounded
  let consumed ← .consumed
  return (make range, consumed)

def clamp : Plugin α where
  name := "clamp"
  description := "scalar field clipped to literal bounds"
  call := (ofBounded fun range =>
    let values := (range.value.scalars?.getD []).map (Scalar.clamp range.low range.high)
    ⟨.scalar, range.value.location, .scalar values, range.value.dimensions⟩).run

def inRange : Plugin α where
  name := "inRange"
  description := "logical mask of scalar values within literal bounds"
  call := (ofBounded fun range =>
    let inside (x : α) : Bool := Scalar.le range.low x && Scalar.le x range.high
    let values := (range.value.scalars?.getD []).map fun x => Scalar.truth (inside x)
    ⟨.logical, range.value.location, .scalar values, none⟩).run

def library : Registry α := (Registry.empty.register clamp).register inRange

end MeshLang.Plugin
