import MeshLang.Mesh.Addressing
import MeshLang.Value.Function
import MeshLang.Value.Reduction
import MeshLang.Value.Tensor

namespace MeshLang

/-- The functions of the language. A scalar function without an argument is the position of the
cells; `extremum` reduces one argument and compares two. -/
inductive Builtin where
  | scalar (function : ScalarFunction)
  | magnitude
  | magnitudeSquared
  | square
  | power
  | extremum (largest : Bool)
  | reduce (reduction : Reduction)
  | extremumPosition (largest : Bool)
  | tensor (function : TensorFunction)
  | build (kind : Kind)
  | grad
  | div
  | curl
  | snGrad
  | laplacian
  | interpolate
  | interpolateToPoint
  | interpolateToCell
  | faceAverage
  | integrate
  | surfaceSum
  | reconstruct
  | flux
  | magSqrGradGrad
  | meshPhi
  | ddt
  | d2dt2
  | oldTime
  | position (location : Location)
  | cellVolume
  | faceArea
  | faceAreaVector
  | cellIndex
  | processor
  | time
  | timeStep
  | random (normal fixed : Bool)
  | selection (kind : SelectionKind)
  | onPatch
  | internalFace
  | distanceToPatch
  | broadcast (location : Location)
deriving DecidableEq, Repr

/-- How arguments are written: expressions, at least and at most so many, a bare name, or an
optional seed. -/
inductive ArgumentShape where
  | expressions (least most : Nat)
  | name
  | seed
deriving DecidableEq, Repr

namespace Builtin

def shape : Builtin → ArgumentShape
  | .scalar .positive => .expressions 0 1
  | .scalar _ | .magnitude | .magnitudeSquared | .square | .reduce _ | .extremumPosition _
  | .tensor _ | .grad | .curl | .snGrad | .interpolate | .interpolateToPoint
  | .interpolateToCell | .faceAverage | .integrate | .surfaceSum | .reconstruct
  | .magSqrGradGrad | .meshPhi | .broadcast _ => .expressions 1 1
  | .power | .flux => .expressions 2 2
  | .extremum _ | .div | .laplacian => .expressions 1 2
  | .build kind => .expressions kind.components.length kind.components.length
  | .ddt | .d2dt2 | .oldTime | .selection _ | .onPatch | .distanceToPatch => .name
  | .random _ false => .seed
  | .position _ | .cellVolume | .faceArea | .faceAreaVector | .cellIndex | .processor | .time
  | .timeStep | .random _ true | .internalFace => .expressions 0 0

def named : List (String × Builtin) :=
  [("mag", .magnitude),
   ("magSqr", .magnitudeSquared),
   ("sqr", .square),
   ("pow", .power),
   ("min", .extremum false),
   ("max", .extremum true),
   ("sum", .reduce .sum),
   ("average", .reduce .average),
   ("minPosition", .extremumPosition false),
   ("maxPosition", .extremumPosition true),
   ("vector", .build .vector),
   ("tensor", .build .tensor),
   ("symmTensor", .build .symmTensor),
   ("sphericalTensor", .build .sphericalTensor),
   ("grad", .grad),
   ("div", .div),
   ("curl", .curl),
   ("snGrad", .snGrad),
   ("laplacian", .laplacian),
   ("interpolate", .interpolate),
   ("interpolateToPoint", .interpolateToPoint),
   ("interpolateToCell", .interpolateToCell),
   ("faceAverage", .faceAverage),
   ("integrate", .integrate),
   ("surfSum", .surfaceSum),
   ("reconstruct", .reconstruct),
   ("flux", .flux),
   ("magSqrGradGrad", .magSqrGradGrad),
   ("meshPhi", .meshPhi),
   ("ddt", .ddt),
   ("d2dt2", .d2dt2),
   ("oldTime", .oldTime),
   ("fpos", .position .surface),
   ("pts", .position .point),
   ("vol", .cellVolume),
   ("area", .faceArea),
   ("face", .faceAreaVector),
   ("id", .cellIndex),
   ("cpu", .processor),
   ("time", .time),
   ("deltaT", .timeStep),
   ("rand", .random false false),
   ("randNormal", .random true false),
   ("randFixed", .random false true),
   ("randNormalFixed", .random true true),
   ("set", .selection .cellSet),
   ("zone", .selection .cellZone),
   ("fset", .selection .faceSet),
   ("fzone", .selection .faceZone),
   ("pset", .selection .pointSet),
   ("pzone", .selection .pointZone),
   ("onPatch", .onPatch),
   ("internalFace", .internalFace),
   ("distToPatch", .distanceToPatch),
   ("surf", .broadcast .surface),
   ("point", .broadcast .point)]

def ofName? (name : String) : Option Builtin :=
  ((ScalarFunction.ofName? name).map .scalar).or
    (((TensorFunction.ofName? name).map .tensor).or (named.lookup name))

end Builtin

end MeshLang
