import MeshLang.Mesh
import MeshLang.Value
import MeshLang.Value.Arithmetic
import MeshLang.Value.Tensor

namespace MeshLang.Mesh

variable {α : Type}

def expect (mesh : Mesh α) (location : Location) (v : Value α) : Except (FieldError α) Unit :=
  if v.size = mesh.size location then .ok ()
  else .error (.sizeMismatch v.size (mesh.size location))

variable [Scalar α] {ε : Type} [Element α ε]

def addSide (sign : α) (contribution sum : ε) : Side → ε
  | .owner => Element.add sum contribution
  | .neighbour => Element.add sum (Element.scale contribution sign)

def cellSum (mesh : Mesh α) (sign : α) (contributions : List ε) (cell : Nat) : ε :=
  (mesh.faces.zip contributions).foldl
    (fun sum (face, contribution) => (face.sides cell).foldl (addSide sign contribution) sum)
    Element.zero

def accumulate (mesh : Mesh α) (sign : α) (contributions : List ε) : List ε :=
  (List.range mesh.cells.length).map (mesh.cellSum sign contributions)

def netOutflow (mesh : Mesh α) (contributions : List ε) : List ε :=
  mesh.accumulate (-Scalar.one) contributions

def total (mesh : Mesh α) (contributions : List ε) : List ε :=
  mesh.accumulate Scalar.one contributions

def perVolume (mesh : Mesh α) (values : List ε) : List ε :=
  List.zipWith (fun x volume => Element.scale x (Scalar.one / volume)) values mesh.volumes

def areaSizes (mesh : Mesh α) : List α := mesh.faceAreas.map Vec3.norm

/-- The value on a face: weighted between its two cells, or that of the owner on the boundary, so
that nothing changes across it. -/
def faceValue (mesh : Mesh α) (values : List ε) (face : Face α) : ε :=
  let own := values.getD face.owner Element.zero
  match face.neighbour? with
  | none => own
  | some neighbour =>
    let weight := mesh.weight face neighbour
    Element.add (Element.scale own weight)
      (Element.scale (values.getD neighbour Element.zero) (Scalar.one - weight))

def faceValues (mesh : Mesh α) (values : List ε) : List ε := mesh.faces.map (mesh.faceValue values)

/-- The value at a point: the cells around it weighted by the inverse of their distance. -/
def pointValue (mesh : Mesh α) (values : List ε) (place : Vec3 α) (around : List Nat) : ε :=
  let weighted := around.map fun cell =>
    (values.getD cell Element.zero,
     Scalar.one / Scalar.max (mesh.centreOf cell - place).norm Scalar.epsilon)
  let sum := weighted.foldl (fun sum (x, w) => Element.add sum (Element.scale x w)) Element.zero
  let total := weighted.foldl (fun sum (_, w) => sum + w) Scalar.zero
  if Scalar.lt Scalar.zero total then Element.scale sum (Scalar.one / total) else sum

def pointValues (mesh : Mesh α) (values : List ε) : List ε :=
  List.zipWith (mesh.pointValue values) mesh.points mesh.pointCells

def cellValues (mesh : Mesh α) (values : List ε) : List ε :=
  mesh.cells.map fun cell =>
    let sum := cell.points.foldl
      (fun sum point => Element.add sum (values.getD point Element.zero)) Element.zero
    Element.scale sum (Scalar.one / Scalar.ofNat (max cell.points.length 1))

def areaAverages (mesh : Mesh α) (values : List ε) : List ε :=
  let weighted := List.zipWith (fun x area => Element.scale x area) values mesh.areaSizes
  List.zipWith (fun sum area => Element.scale sum (Scalar.one / area))
    (mesh.total weighted) (mesh.total mesh.areaSizes)

def interpolate (mesh : Mesh α) (v : Value α) : Except (FieldError α) (Value α) := do
  mesh.expect .volume v
  return ⟨v.kind, some .surface, v.data.lift mesh.faceValues, v.dimensions⟩

def interpolateToPoint (mesh : Mesh α) (v : Value α) : Except (FieldError α) (Value α) := do
  mesh.expect .volume v
  return ⟨v.kind, some .point, v.data.lift mesh.pointValues, v.dimensions⟩

def interpolateToCell (mesh : Mesh α) (v : Value α) : Except (FieldError α) (Value α) := do
  mesh.expect .point v
  return ⟨v.kind, some .volume, v.data.lift mesh.cellValues, v.dimensions⟩

def faceAverage (mesh : Mesh α) (v : Value α) : Except (FieldError α) (Value α) := do
  mesh.expect .surface v
  return ⟨v.kind, some .volume, v.data.lift mesh.areaAverages, v.dimensions⟩

def distanceToFaces (mesh : Mesh α) (start stop : Nat) : Value α :=
  let targets := ((mesh.positions .surface).drop start).take (stop - start)
  .scalar .volume <| mesh.cellCentres.map fun centre =>
    (targets.map fun target => (target - centre).norm).foldl Scalar.min Scalar.infinity

def surfaceIntegrate (mesh : Mesh α) (v : Value α) : Except (FieldError α) (Value α) := do
  mesh.expect .surface v
  let data := v.data.lift fun values => mesh.perVolume (mesh.netOutflow values)
  return ⟨v.kind, some .volume, data, v.dimensions⟩

def surfaceSum (mesh : Mesh α) (v : Value α) : Except (FieldError α) (Value α) := do
  mesh.expect .surface v
  return ⟨v.kind, some .volume, v.data.lift mesh.total, v.dimensions⟩

def flux (mesh : Mesh α) (flow v : Value α) : Except (FieldError α) (Value α) := do
  mesh.expect .surface flow
  match flow.scalars? with
  | none => throw (.unsupported "flux" flow.kind)
  | some rates =>
    let faces ← mesh.interpolate v
    return (← (Value.scalar .surface rates).mul faces).untagged

def normalTensors (mesh : Mesh α) : List (Mat3 α) :=
  mesh.total (mesh.faceAreas.map fun area => Mat3.outer area area.normalized)

/-- The cell vectors whose components normal to the faces fit a flow best. -/
def reconstruct (mesh : Mesh α) (flow : Value α) : Except (FieldError α) (Value α) := do
  mesh.expect .surface flow
  match flow.scalars? with
  | none => throw (.unsupported "reconstruct" flow.kind)
  | some rates =>
    let sums := mesh.total <|
      List.zipWith (fun area rate => area.normalized.scale rate) mesh.faceAreas rates
    let inverted ← inverses "reconstruct" 0 mesh.normalTensors
    return .vector .volume (List.zipWith Mat3.apply inverted sums)

/-- The sum over the faces of a cell of a product of area vectors and face values, per volume.
Derivatives are made in this way and carry no tag. -/
def gauss {ε δ : Type} [Element α ε] [Element α δ] (mesh : Mesh α) (product : Vec3 α → ε → δ)
    (values : List ε) : List δ :=
  mesh.perVolume (mesh.netOutflow (List.zipWith product mesh.faceAreas (mesh.faceValues values)))

/-- Gradients of vectors: the row is the direction, the column the component. -/
def vectorGradients (mesh : Mesh α) (values : List (Vec3 α)) : List (Mat3 α) :=
  mesh.gauss Mat3.outer values

def scalarGradients (mesh : Mesh α) (values : List α) : List (Vec3 α) :=
  mesh.gauss (fun area x => area.scale x) values

def grad (mesh : Mesh α) (v : Value α) : Except (FieldError α) (Value α) := do
  mesh.expect .volume v
  match v.data with
  | .scalar values => return .vector .volume (mesh.scalarGradients values)
  | .vector values => return .tensor .volume (mesh.vectorGradients values)
  | .tensor _ => throw (.unsupported "grad" v.kind)

/-- The divergence of a vector is a scalar, that of a tensor a vector; of a flow through the faces
it is the net outflow. -/
def div (mesh : Mesh α) (v : Value α) : Except (FieldError α) (Value α) :=
  if v.location = some .surface then (mesh.surfaceIntegrate v).map Value.untagged
  else do
    mesh.expect .volume v
    match v.data with
    | .vector values => return .scalar .volume (mesh.gauss Vec3.dot values)
    | .tensor values =>
      return .vector .volume (mesh.gauss (fun area m => m.transpose.apply area) values)
    | .scalar _ => throw (.unsupported "div" v.kind)

def divFlux (mesh : Mesh α) (flow v : Value α) : Except (FieldError α) (Value α) := do
  let carried ← mesh.flux flow v
  (mesh.surfaceIntegrate carried).map Value.untagged

def curl (mesh : Mesh α) (v : Value α) : Except (FieldError α) (Value α) := do
  mesh.expect .volume v
  match v.data with
  | .vector values => return .vector .volume (mesh.gauss Vec3.cross values)
  | _ => throw (.unsupported "curl" v.kind)

def normalGradient {ε : Type} [Element α ε] (mesh : Mesh α) (values : List ε) (face : Face α) : ε :=
  match face.neighbour? with
  | none => Element.zero
  | some neighbour =>
    let difference := Element.sub (values.getD neighbour Element.zero)
      (values.getD face.owner Element.zero)
    let offset := mesh.centreOf neighbour - mesh.centreOf face.owner
    Element.scale difference (Scalar.one / face.area.normalized.dot offset)

def normalGradients {ε : Type} [Element α ε] (mesh : Mesh α) (values : List ε) : List ε :=
  mesh.faces.map (mesh.normalGradient values)

def snGrad (mesh : Mesh α) (v : Value α) : Except (FieldError α) (Value α) := do
  mesh.expect .volume v
  return ⟨v.kind, some .surface, v.data.lift mesh.normalGradients, none⟩

/-- The diffusivity on each face: one if there is none, that of the faces themselves, interpolated
from the cells, or the part of an interpolated matrix along the normal. -/
def faceDiffusivities (mesh : Mesh α) :
    Option (Value α) → Except (FieldError α) (List α)
  | none => .ok (mesh.faces.map fun _ => Scalar.one)
  | some v =>
    if v.location = some .surface then do
      mesh.expect .surface v
      match v.scalars? with
      | some values => return values
      | none => throw (.unsupported "laplacian" v.kind)
    else do
      mesh.expect .volume v
      match v.data with
      | .scalar values => return mesh.faceValues values
      | .tensor values =>
        let along (m : Mat3 α) (area : Vec3 α) : α :=
          area.normalized.dot (m.apply area.normalized)
        return List.zipWith along (mesh.faceValues values) mesh.faceAreas
      | .vector _ => throw (.unsupported "laplacian" v.kind)

def laplacian (mesh : Mesh α) (diffusivity? : Option (Value α)) (v : Value α) :
    Except (FieldError α) (Value α) := do
  let diffusivities ← mesh.faceDiffusivities diffusivity?
  let slopes ← mesh.snGrad v
  let factors := List.zipWith (· * ·) diffusivities mesh.areaSizes
  let data := slopes.data.lift fun values =>
    mesh.perVolume (mesh.netOutflow (List.zipWith (fun x k => Element.scale x k) values factors))
  return ⟨v.kind, some .volume, data, none⟩

def magSqrGradGrad (mesh : Mesh α) (v : Value α) : Except (FieldError α) (Value α) := do
  match (← mesh.grad v).data with
  | .vector slopes =>
    return .scalar .volume ((mesh.vectorGradients slopes).map Mat3.normSquared)
  | _ => throw (.unsupported "magSqrGradGrad" v.kind)

end MeshLang.Mesh
