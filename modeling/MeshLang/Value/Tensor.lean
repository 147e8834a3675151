import MeshLang.Linear.Eigen
import MeshLang.Value

namespace MeshLang

inductive TensorFunction where
  | transpose
  | trace
  | determinant
  | cofactor
  | inverse
  | deviatoric
  | deviatoricTwice
  | symmetric
  | symmetricTwice
  | skew
  | spherical
  | diagonal
  | eigenValues
  | eigenVectors
deriving DecidableEq, Repr

namespace TensorFunction

def all : List TensorFunction :=
  [.transpose, .trace, .determinant, .cofactor, .inverse, .deviatoric, .deviatoricTwice,
   .symmetric, .symmetricTwice, .skew, .spherical, .diagonal, .eigenValues, .eigenVectors]

def name : TensorFunction → String
  | .transpose => "T"
  | .trace => "tr"
  | .determinant => "det"
  | .cofactor => "cof"
  | .inverse => "inv"
  | .deviatoric => "dev"
  | .deviatoricTwice => "dev2"
  | .symmetric => "symm"
  | .symmetricTwice => "twoSymm"
  | .skew => "skew"
  | .spherical => "sph"
  | .diagonal => "diag"
  | .eigenValues => "eigenValues"
  | .eigenVectors => "eigenVectors"

def ofName? (name : String) : Option TensorFunction := all.find? (·.name == name)

/-- The kind of the result. A symmetric part keeps a multiple of the identity one. -/
def resultKind (function : TensorFunction) (input : Kind) : Kind :=
  match function with
  | .trace | .determinant => .scalar
  | .diagonal | .eigenValues => .vector
  | .symmetric | .symmetricTwice =>
    match input with
    | .sphericalTensor => .sphericalTensor
    | _ => .symmTensor
  | .skew | .eigenVectors => .tensor
  | .spherical => .sphericalTensor
  | .transpose | .cofactor | .inverse | .deviatoric | .deviatoricTwice => input

variable {α : Type} [Scalar α]

def resultTag (function : TensorFunction) (tag : Option (Dimensions α)) : Option (Dimensions α) :=
  match function with
  | .determinant => tag.map (·.pow (Scalar.ofNat 3))
  | .cofactor => tag.map (·.pow (Scalar.ofNat 2))
  | .inverse => tag.map Dimensions.dimensionless.divide
  | .eigenVectors => tag.map fun _ => Dimensions.dimensionless
  | _ => tag

end TensorFunction

variable {α : Type} [Scalar α]

/-- The inverses of matrices, or the index of the first one that has none, counted from `index`. -/
def inverses (operation : String) (index : Nat) :
    List (Mat3 α) → Except (FieldError α) (List (Mat3 α))
  | [] => .ok []
  | m :: rest =>
    match m.inverse? with
    | none => .error (.singular operation index)
    | some inverse => (inverses operation (index + 1) rest).map (inverse :: ·)

def TensorFunction.results (function : TensorFunction) (symmetric : Bool) (ms : List (Mat3 α)) :
    Except (FieldError α) (Data α) :=
  match function with
  | .transpose => .ok (.tensor (ms.map Mat3.transpose))
  | .trace => .ok (.scalar (ms.map Mat3.trace))
  | .determinant => .ok (.scalar (ms.map Mat3.determinant))
  | .cofactor => .ok (.tensor (ms.map Mat3.cofactor))
  | .inverse => (inverses function.name 0 ms).map .tensor
  | .deviatoric => .ok (.tensor (ms.map Mat3.deviatoric))
  | .deviatoricTwice => .ok (.tensor (ms.map Mat3.deviatoricTwice))
  | .symmetric => .ok (.tensor (ms.map Mat3.symmetricPart))
  | .symmetricTwice => .ok (.tensor (ms.map Mat3.symmetricTwice))
  | .skew => .ok (.tensor (ms.map Mat3.skewPart))
  | .spherical => .ok (.tensor (ms.map Mat3.spherical))
  | .diagonal => .ok (.vector (ms.map Mat3.diagonal))
  | .eigenValues => .ok (.vector (ms.map (Mat3.eigenValues symmetric)))
  | .eigenVectors => .ok (.tensor (ms.map (Mat3.eigenVectors symmetric)))

def Value.applyTensor (function : TensorFunction) (v : Value α) :
    Except (FieldError α) (Value α) :=
  match v.data with
  | .tensor ms =>
    let symmetric := v.kind == .symmTensor || v.kind == .sphericalTensor
    (function.results symmetric ms).map fun data =>
      ⟨function.resultKind v.kind, v.location, data, function.resultTag v.dimensions⟩
  | _ => .error (.unsupported function.name v.kind)

end MeshLang
