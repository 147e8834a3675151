import MeshLang.Calculus

namespace MeshLang

/-- How values are carried over. Matrices always keep the value of the nearest cell. -/
inductive MappingOrder where
  | nearest
  | linear
deriving DecidableEq, Repr

namespace Mesh

variable {α : Type} [Scalar α]

/-- The index of the centre nearest to a place, the first one of several; `best` at `index` is the
nearest so far, as a squared distance, and the centres go on at `next`. -/
def nearestFrom (place : Vec3 α) (index : Nat) (best : α) (next : Nat) : List (Vec3 α) → Nat
  | [] => index
  | centre :: rest =>
    let distance := (centre - place).normSquared
    if Scalar.totalLe best distance then nearestFrom place index best (next + 1) rest
    else nearestFrom place next distance (next + 1) rest

def nearestCell (mesh : Mesh α) (place : Vec3 α) : Nat :=
  match mesh.cellCentres with
  | [] => 0
  | first :: rest => nearestFrom place 0 (first - place).normSquared 1 rest

def extend {ε δ : Type} [Element α ε] [Element α δ] (mesh : Mesh α) (slope : δ → Vec3 α → ε)
    (values : List ε) (slopes : List δ) (places : List (Vec3 α)) : List ε :=
  places.map fun place =>
    let donor := mesh.nearestCell place
    Element.add (values.getD donor Element.zero)
      (slope (slopes.getD donor Element.zero) (place - mesh.centreOf donor))

def mapCells (source target : Mesh α) (order : MappingOrder) (v : Value α) :
    Except (FieldError α) (Value α) :=
  if v.size ≠ source.cells.length then .error (.sizeMismatch v.size source.cells.length)
  else
    let places := target.cellCentres
    let data := match order, v.data with
      | .linear, .scalar values =>
        Data.scalar (source.extend Vec3.dot values (source.scalarGradients values) places)
      | .linear, .vector values =>
        Data.vector (source.extend (fun m => m.transpose.apply) values
          (source.vectorGradients values) places)
      | _, data => data.gather (places.map source.nearestCell)
    .ok ⟨v.kind, some .volume, data, v.dimensions⟩

end Mesh

end MeshLang
