namespace MeshLang

/-- What a value holds. Together with the mesh entities that the value is indexed over, its
location, the kind decides alone which operators are legal. -/
inductive Kind where
  | logical
  | scalar
  | vector
  | tensor
  | symmTensor
  | sphericalTensor
deriving DecidableEq, Repr

inductive Axis where
  | x
  | y
  | z
deriving DecidableEq, Repr

def Axis.text : Axis → String
  | .x => "x"
  | .y => "y"
  | .z => "z"

/-- A named part of a value: one entry of a vector, one entry of a matrix, or the factor of a
multiple of the identity. -/
inductive Component where
  | entry (axis : Axis)
  | cell (row column : Axis)
  | isotropic
deriving DecidableEq, Repr

def Component.text : Component → String
  | .entry axis => axis.text
  | .cell row column => row.text ++ column.text
  | .isotropic => "ii"

namespace Kind

def all : List Kind := [.logical, .scalar, .vector, .tensor, .symmTensor, .sphericalTensor]

def isTensorLike : Kind → Bool
  | .tensor | .symmTensor | .sphericalTensor => true
  | _ => false

def isNumeric : Kind → Bool
  | .logical => false
  | _ => true

def components : Kind → List Component
  | .logical | .scalar => []
  | .vector => [.entry .x, .entry .y, .entry .z]
  | .tensor =>
    [.cell .x .x, .cell .x .y, .cell .x .z, .cell .y .x, .cell .y .y, .cell .y .z,
     .cell .z .x, .cell .z .y, .cell .z .z]
  | .symmTensor =>
    [.cell .x .x, .cell .x .y, .cell .x .z, .cell .y .y, .cell .y .z, .cell .z .z]
  | .sphericalTensor => [.isotropic]

def componentNames (kind : Kind) : List String := kind.components.map Component.text

def component? (kind : Kind) (name : String) : Option Component :=
  kind.components.find? (·.text == name)

def text : Kind → String
  | .logical => "logical"
  | .scalar => "scalar"
  | .vector => "vector"
  | .tensor => "tensor"
  | .symmTensor => "symmTensor"
  | .sphericalTensor => "sphericalTensor"

end Kind

inductive Location where
  | volume
  | surface
  | point
deriving DecidableEq, Repr

namespace Location

def all : List Location := [.volume, .surface, .point]

def text : Location → String
  | .volume => "volume"
  | .surface => "surface"
  | .point => "point"

end Location

/-- The full static type of a located value. -/
structure ValueType where
  kind : Kind
  location : Location
deriving DecidableEq, Repr

def ValueType.text (type : ValueType) : String := type.location.text ++ " " ++ type.kind.text

end MeshLang
