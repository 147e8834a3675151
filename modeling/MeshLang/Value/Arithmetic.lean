import MeshLang.Value.Broadcast

namespace MeshLang.Value

variable {α : Type} [Scalar α]

def add (v w : Value α) : Except (FieldError α) (Value α) := do
  let (location, n) ← domain v w
  let tag ← sumTag "+" v.dimensions w.dimensions
  match Data.lift₂ (zipSpread n Element.add) v.data w.data with
  | some data => .ok ⟨v.kind, location, data, tag⟩
  | none => .error (.unsupported "+" w.kind)

def sub (v w : Value α) : Except (FieldError α) (Value α) := do
  let (location, n) ← domain v w
  let tag ← sumTag "-" v.dimensions w.dimensions
  match Data.lift₂ (zipSpread n Element.sub) v.data w.data with
  | some data => .ok ⟨v.kind, location, data, tag⟩
  | none => .error (.unsupported "-" w.kind)

def neg (v : Value α) : Value α := { v with data := v.data.lift (List.map Element.neg) }

def scaleBy (n : Nat) (factors : List α) (data : Data α) : Data α :=
  data.lift fun values => zipSpread n (fun x factor => Element.scale x factor) values factors

def mul (v w : Value α) : Except (FieldError α) (Value α) := do
  let (location, n) ← domain v w
  let tag := productTag v.dimensions w.dimensions
  match v.data, w.data with
  | .scalar factors, data => .ok ⟨w.kind, location, scaleBy n factors data, tag⟩
  | data, .scalar factors => .ok ⟨v.kind, location, scaleBy n factors data, tag⟩
  | _, _ => .error (.unsupported "*" w.kind)

def div (v w : Value α) : Except (FieldError α) (Value α) := do
  let (location, n) ← domain v w
  let tag := quotientTag v.dimensions w.dimensions
  match w.data with
  | .scalar divisors =>
    let data := v.data.lift fun values =>
      zipSpread n (fun x divisor => Element.divide x divisor) values divisors
    .ok ⟨v.kind, location, data, tag⟩
  | _ => .error (.unsupported "/" w.kind)

def remainder (v w : Value α) : Except (FieldError α) (Value α) := do
  let (location, n) ← domain v w
  let tag ← sumTag "%" v.dimensions w.dimensions
  match v.data, w.data with
  | .scalar xs, .scalar ys =>
    .ok ⟨.scalar, location, .scalar (zipSpread n Scalar.remainder xs ys), tag⟩
  | _, _ => .error (.unsupported "%" v.kind)

/-- Single contraction: the dot product of vectors, a matrix applied to a vector from either side,
or the product of two matrices. -/
def inner (v w : Value α) : Except (FieldError α) (Value α) := do
  let (location, n) ← domain v w
  let tag := productTag v.dimensions w.dimensions
  match v.data, w.data with
  | .vector xs, .vector ys => .ok ⟨.scalar, location, .scalar (zipSpread n Vec3.dot xs ys), tag⟩
  | .tensor ms, .vector ys => .ok ⟨.vector, location, .vector (zipSpread n Mat3.apply ms ys), tag⟩
  | .vector xs, .tensor ms =>
    .ok ⟨.vector, location, .vector (zipSpread n (fun x m => m.transpose.apply x) xs ms), tag⟩
  | .tensor ms, .tensor ns =>
    let kind := if v.kind = .sphericalTensor && w.kind = .sphericalTensor then .sphericalTensor
      else Kind.tensor
    .ok ⟨kind, location, .tensor (zipSpread n Mat3.multiply ms ns), tag⟩
  | _, _ => .error (.unsupported "&" v.kind)

def cross (v w : Value α) : Except (FieldError α) (Value α) := do
  let (location, n) ← domain v w
  let tag := productTag v.dimensions w.dimensions
  match v.data, w.data with
  | .vector xs, .vector ys => .ok ⟨.vector, location, .vector (zipSpread n Vec3.cross xs ys), tag⟩
  | _, _ => .error (.unsupported "^" v.kind)

def doubleInner (v w : Value α) : Except (FieldError α) (Value α) := do
  let (location, n) ← domain v w
  let tag := productTag v.dimensions w.dimensions
  match v.data, w.data with
  | .tensor ms, .tensor ns =>
    .ok ⟨.scalar, location, .scalar (zipSpread n Mat3.contract ms ns), tag⟩
  | _, _ => .error (.unsupported "&&" v.kind)

end MeshLang.Value
