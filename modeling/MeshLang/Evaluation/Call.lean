import MeshLang.Calculus
import MeshLang.Evaluation.Message
import MeshLang.Evaluation.State
import MeshLang.Grammar.Builtin
import MeshLang.Value.Arithmetic
import MeshLang.Value.Function

namespace MeshLang

structure Argument (α : Type) where
  value : Value α
  start : Token

def Kind.numeric : List Kind := Kind.all.filter Kind.isNumeric

def Kind.tensors : List Kind := Kind.all.filter Kind.isTensorLike

variable {α : Type}

def Value.isAt (v : Value α) (location : Location) (kinds : List Kind) : Bool :=
  v.location = some location && kinds.contains v.kind

/-- A condition of a function on an argument, with the names of what it accepts. A function puts its
conditions on the arguments from the first to the last before it computes anything. -/
def Argument.require (arg : Argument α) (function : Token) (accepted : Bool)
    (expected : List String) : Except (EvalError α) Unit :=
  if accepted then .ok ()
  else
    .error <| arg.start.mismatch .invalidArgument
      s!"'{function.word}' does not accept {arg.value.describe}" expected

def Argument.requireKind (arg : Argument α) (function : Token) (kinds : List Kind) :
    Except (EvalError α) Unit :=
  arg.require function (kinds.contains arg.value.kind) (kinds.map Kind.text)

def Argument.requireAt (arg : Argument α) (function : Token) (location : Location)
    (kinds : List Kind) (expected : List String) : Except (EvalError α) Unit :=
  arg.require function (arg.value.isAt location kinds) expected

def argumentCount (least most : Nat) : String :=
  if most = 0 then "no arguments"
  else if least = 1 && most = 1 then "1 argument"
  else if least = most then s!"{least} arguments"
  else s!"{least} to {most} arguments"

def wrongCount (function : Token) (least most found : Nat) : EvalError α :=
  let wanted := argumentCount least most
  function.mismatch .invalidArgument s!"'{function.word}' takes {wanted}, found {found}" [wanted]

def Mesh.mask [Scalar α] (mesh : Mesh α) (location : Location) (selected : Nat → Bool) : Value α :=
  .logical location ((List.range (mesh.size location)).map selected)

variable {α : Type} [Scalar α]

def ofField {β : Type} (result : Except (FieldError α) β) : Except (EvalError α) β :=
  result.mapError .field

def ofMesh {β : Type} (result : Except MeshError β) : Except (EvalError α) β :=
  result.mapError .mesh

/-- Components are scalars, and all located ones have the location of the first located one. -/
def checkComponents (function : Token) :
    Option (Value α) → List (Argument α) → Except (EvalError α) Unit
  | _, [] => .ok ()
  | first?, arg :: rest => do
    arg.requireKind function [.scalar]
    match first? with
    | some first =>
      checkLocations function.word first arg.value arg.start
      checkComponents function first? rest
    | none =>
      checkComponents function (if arg.value.isConstant then none else some arg.value) rest

namespace Environment

def mesh (env : Environment α) : Mesh α := env.repository.mesh

/-- The value of a name some steps back. A variable has no history: it is the same at all times. -/
def history (env : Environment α) (name : String) (level : Nat) :
    Except (EvalError α) (Value α) :=
  match env.bindings.get? name with
  | some v => .ok v
  | none => (env.repository.resolveOld name level).mapError .ofRepository

def lookup (env : Environment α) (name : String) : Except (EvalError α) (Value α) :=
  match env.bindings.get? name with
  | some v => .ok v
  | none => (env.repository.resolve name).mapError .ofRepository

def firstDerivative (env : Environment α) (name : String) (current : Value α) :
    Except (EvalError α) (Value α) := do
  let old := (← env.history name 1).untagged
  let change ← ofField (current.sub old)
  return (← ofField (change.div (.constantScalar env.repository.timeStep))).untagged

def secondDerivative (env : Environment α) (name : String) (current : Value α) :
    Except (EvalError α) (Value α) := do
  let step := env.repository.timeStep
  let old := (← env.history name 1).untagged
  let older := (← env.history name 2).untagged
  let twice ← ofField ((Value.constantScalar (Scalar.ofNat 2)).mul old)
  let change ← ofField (current.sub twice)
  let change ← ofField (change.add older)
  return (← ofField (change.div (.constantScalar (step * step)))).untagged

def timeDerivative (env : Environment α) (second : Bool) (name : Token) :
    Except (EvalError α) (Value α) := do
  let current := (← env.history name.word 0).untagged
  if !current.kind.isNumeric then
    throw <| name.mismatch .invalidArgument s!"'{name.word}' is {current.describe}"
      (Kind.numeric.map Kind.text)
  if second then env.secondDerivative name.word current
  else env.firstDerivative name.word current

def applyNamed (env : Environment α) (builtin : Builtin) (name : Token) :
    Except (EvalError α) (Value α) :=
  match builtin with
  | .oldTime => (env.history name.word 1).map env.options.adopt
  | .ddt => env.timeDerivative false name
  | .d2dt2 => env.timeDerivative true name
  | .selection kind =>
    (ofMesh (env.mesh.selection kind name.word)).map fun members =>
      env.mesh.mask kind.location members.contains
  | .onPatch =>
    (ofMesh (env.mesh.patch name.word)).map fun patch =>
      env.mesh.mask .surface fun face => patch.start ≤ face && face < patch.stop
  | .distanceToPatch =>
    (ofMesh (env.mesh.patch name.word)).map fun patch =>
      env.mesh.distanceToFaces patch.start patch.stop
  | _ => .error (wrongCount name 0 0 1)

def applyNone (env : Environment α) (builtin : Builtin) (function : Token) :
    Except (EvalError α) (Value α) :=
  let mesh := env.mesh
  match builtin with
  | .scalar .positive => .ok (.vector .volume (mesh.positions .volume))
  | .position location => .ok (.vector location (mesh.positions location))
  | .cellVolume => .ok (.scalar .volume mesh.volumes)
  | .faceArea => .ok (.scalar .surface mesh.areaSizes)
  | .faceAreaVector => .ok (.vector .surface mesh.faceAreas)
  | .cellIndex => .ok (.scalar .volume ((List.range mesh.cells.length).map Scalar.ofNat))
  | .processor => .ok (.constantScalar (Scalar.ofNat env.options.processor))
  | .time => .ok (.constantScalar env.repository.time)
  | .timeStep => .ok (.constantScalar env.repository.timeStep)
  | .random isNormal _ =>
    let values := (Generator.sample isNormal mesh.cells.length (.ofSeed env.options.seed)).1
    .ok (.scalar .volume values)
  | .internalFace =>
    .ok (.logical .surface (mesh.faces.map Face.isInternal))
  | _ => .error (wrongCount function 0 0 0)

def applyAlgebra (builtin : Builtin) (function : Token) (a : Argument α) :
    Except (EvalError α) (Value α) :=
  match builtin with
  | .scalar f => do
    a.requireKind function [.scalar]
    ofField (a.value.applyScalar f)
  | .magnitude => do
    a.requireKind function Kind.numeric
    return a.value.magnitude
  | .magnitudeSquared => do
    a.requireKind function Kind.numeric
    return a.value.magnitudeSquared
  | .square => do
    a.requireKind function [.scalar, .vector]
    ofField a.value.square
  | .extremum largest => do
    a.requireKind function Kind.numeric
    ofField (a.value.reduce (if largest then .max else .min))
  | .reduce reduction => do
    a.requireKind function Kind.numeric
    ofField (a.value.reduce reduction)
  | .tensor f => do
    a.requireKind function Kind.tensors
    ofField (a.value.applyTensor f)
  | _ => .error (wrongCount function 0 0 1)

def applyOne (env : Environment α) (builtin : Builtin) (function : Token) (a : Argument α) :
    Except (EvalError α) (Value α) :=
  let mesh := env.mesh
  match builtin with
  | .extremumPosition largest => do
    a.require function (a.value.kind = .scalar && !a.value.isConstant) ["located scalar"]
    ofField (a.value.extremumPosition largest
      ((a.value.location.map mesh.positions).getD []))
  | .grad => do
    a.requireAt function .volume [.scalar, .vector] ["volume scalar", "volume vector"]
    ofField (mesh.grad a.value)
  | .div => do
    let cells := a.value.isAt .volume [.vector, .tensor, .symmTensor, .sphericalTensor]
    let faces := a.value.isAt .surface [.scalar, .vector]
    a.require function (cells || faces)
      ["volume vector", "volume tensor", "surface scalar", "surface vector"]
    ofField (mesh.div a.value)
  | .curl => do
    a.requireAt function .volume [.vector] ["volume vector"]
    ofField (mesh.curl a.value)
  | .snGrad => do
    a.requireAt function .volume Kind.numeric ["volume field"]
    ofField (mesh.snGrad a.value)
  | .laplacian => do
    a.requireAt function .volume Kind.numeric ["volume field"]
    ofField (mesh.laplacian none a.value)
  | .interpolate => do
    a.requireAt function .volume Kind.numeric ["volume field"]
    ofField (mesh.interpolate a.value)
  | .interpolateToPoint => do
    a.requireAt function .volume Kind.numeric ["volume field"]
    ofField (mesh.interpolateToPoint a.value)
  | .interpolateToCell => do
    a.requireAt function .point Kind.numeric ["point field"]
    ofField (mesh.interpolateToCell a.value)
  | .faceAverage => do
    a.requireAt function .surface Kind.numeric ["surface field"]
    ofField (mesh.faceAverage a.value)
  | .integrate => do
    a.requireAt function .surface Kind.numeric ["surface field"]
    ofField (mesh.surfaceIntegrate a.value)
  | .surfaceSum => do
    a.requireAt function .surface Kind.numeric ["surface field"]
    ofField (mesh.surfaceSum a.value)
  | .reconstruct => do
    a.requireAt function .surface [.scalar] ["surface scalar"]
    ofField (mesh.reconstruct a.value)
  | .magSqrGradGrad => do
    a.requireAt function .volume [.scalar] ["volume scalar"]
    ofField (mesh.magSqrGradGrad a.value)
  | .meshPhi => do
    a.requireAt function .volume [.vector] ["volume vector"]
    return env.repository.meshPhi.getD (.zeros ⟨.scalar, .surface⟩ mesh.faces.length)
  | .broadcast location => do
    a.require function a.value.isConstant ["constant"]
    return a.value.broadcastTo location (mesh.size location)
  | _ => applyAlgebra builtin function a

def applyLaplacian (env : Environment α) (function : Token) (diffusivity a : Argument α) :
    Except (EvalError α) (Value α) := do
  a.requireAt function .volume Kind.numeric ["volume field"]
  if diffusivity.value.isConstant && diffusivity.value.kind = .scalar then
    let plain ← ofField (env.mesh.laplacian none a.value)
    return (← ofField (diffusivity.value.untagged.mul plain)).untagged
  else
    let cells := diffusivity.value.isAt .volume [.scalar, .tensor, .symmTensor]
    let faces := diffusivity.value.isAt .surface [.scalar]
    diffusivity.require function (cells || faces)
      ["volume scalar", "volume tensor", "volume symmTensor", "surface scalar"]
    ofField (env.mesh.laplacian (some diffusivity.value) a.value)

def applyTwo (env : Environment α) (builtin : Builtin) (function : Token) (a b : Argument α) :
    Except (EvalError α) (Value α) :=
  match builtin with
  | .power => do
    a.requireKind function [.scalar]
    b.requireKind function [.scalar]
    checkLocations "pow" a.value b.value function
    ofField (a.value.pow b.value)
  | .extremum largest => do
    a.requireKind function Kind.numeric
    b.requireKind function [a.value.kind]
    checkLocations function.word a.value b.value function
    ofField (if largest then a.value.maximum b.value else a.value.minimum b.value)
  | .div => do
    a.requireAt function .surface [.scalar] ["surface scalar"]
    b.requireAt function .volume Kind.numeric ["volume field"]
    ofField (env.mesh.divFlux a.value b.value)
  | .flux => do
    a.requireAt function .surface [.scalar] ["surface scalar"]
    b.requireAt function .volume Kind.numeric ["volume field"]
    ofField (env.mesh.flux a.value b.value)
  | .laplacian => env.applyLaplacian function a b
  | _ => .error (wrongCount function 0 0 2)

def apply (env : Environment α) (builtin : Builtin) (function : Token)
    (args : List (Argument α)) : Except (EvalError α) (Value α) :=
  match builtin, args with
  | .build kind, args => do
    checkComponents function none args
    ofField (Value.build kind (args.map (·.value)))
  | builtin, [] => env.applyNone builtin function
  | builtin, [a] => env.applyOne builtin function a
  | builtin, [a, b] => env.applyTwo builtin function a b
  | _, args => .error (wrongCount function 0 0 args.length)

/-- A lookup table at the current time, or at each element of a scalar. -/
def applyTable (env : Environment α) (table : LookupTable α) (function : Token) :
    List (Argument α) → Except (EvalError α) (Value α)
  | [] => .ok (.constantScalar (table.value env.repository.time))
  | [a] => do
    a.requireKind function [.scalar]
    return ⟨.scalar, a.value.location, .scalar ((a.value.scalars?.getD []).map table.value), none⟩
  | args => .error (wrongCount function 0 1 args.length)

def applyForeign (env : Environment α) (region : Region α) (function name : Token) (old : Bool) :
    Except (EvalError α) (Value α) :=
  match region.classify name.word with
  | none => .error (.unknownField name.word)
  | some type =>
    if type.location ≠ .volume then
      .error <| (name.mismatch .invalidArgument
        s!"cannot map {type.text} from mesh '{function.word}'" ["volume field"]).withHint
          "only volume fields can be mapped between meshes"
    else do
      let v ← (if old then region.resolveOld name.word 1 else region.resolveAs name.word type)
        |>.mapError .ofRepository
      return env.options.adopt (← ofField (region.mesh.mapCells env.mesh env.options.order v))

end Environment

end MeshLang
