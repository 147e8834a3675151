import MeshLang.Value

namespace MeshLang

inductive Reduction where
  | min
  | max
  | sum
  | average
deriving DecidableEq, Repr

namespace Reduction

def all : List Reduction := [.min, .max, .sum, .average]

def name : Reduction → String
  | .min => "min"
  | .max => "max"
  | .sum => "sum"
  | .average => "average"

def ofName? (name : String) : Option Reduction := all.find? (·.name == name)

variable {α ε : Type} [Scalar α] [Element α ε]

def combine (reduction : Reduction) (first : ε) (rest : List ε) : ε :=
  match reduction with
  | .min => rest.foldl Element.lower first
  | .max => rest.foldl Element.upper first
  | .sum => rest.foldl Element.add first
  | .average =>
    Element.scale (rest.foldl Element.add first) (Scalar.one / Scalar.ofNat (rest.length + 1))

def apply (reduction : Reduction) : List ε → List ε
  | [] => []
  | first :: rest => [reduction.combine first rest]

end Reduction

namespace Value

variable {α : Type} [Scalar α]

def reduce (reduction : Reduction) (v : Value α) : Except (FieldError α) (Value α) :=
  if v.isEmpty then .error (.empty reduction.name)
  else .ok ⟨v.kind, none, v.data.lift reduction.apply, v.dimensions⟩

/-- The index of the first number that no other one beats, where `best` at `index` is the best so
far and the list goes on at `next`. -/
def extremumFrom (beats : α → α → Bool) (index : Nat) (best : α) (next : Nat) : List α → Nat
  | [] => index
  | x :: rest =>
    if beats x best then extremumFrom beats next x (next + 1) rest
    else extremumFrom beats index best (next + 1) rest

def extremumIndex? (largest : Bool) : List α → Option Nat
  | [] => none
  | first :: rest =>
    let beats (x y : α) : Bool := if largest then Scalar.lt y x else Scalar.lt x y
    some (extremumFrom beats 0 first 1 rest)

def extremumPosition (largest : Bool) (v : Value α) (positions : List (Vec3 α)) :
    Except (FieldError α) (Value α) :=
  let operation := if largest then "maxPosition" else "minPosition"
  match v.scalars? with
  | none => .error (.unsupported operation v.kind)
  | some xs =>
    if xs.length ≠ positions.length then .error (.sizeMismatch xs.length positions.length)
    else
      match extremumIndex? largest xs with
      | none => .error (.empty operation)
      | some index => .ok (constantVector (positions.getD index Vec3.zero))

end Value

end MeshLang
