import MeshLang.Dimensions
import MeshLang.Linear

namespace MeshLang

inductive Data (α : Type) where
  | scalar (values : List α)
  | vector (values : List (Vec3 α))
  | tensor (values : List (Mat3 α))
deriving DecidableEq, Repr

namespace Data

variable {α : Type}

def size : Data α → Nat
  | .scalar values => values.length
  | .vector values => values.length
  | .tensor values => values.length

def stores (data : Data α) (kind : Kind) : Bool :=
  match data, kind with
  | .scalar _, .logical | .scalar _, .scalar | .vector _, .vector => true
  | .tensor _, kind => kind.isTensorLike
  | _, _ => false

def replicate (n : Nat) : Data α → Data α
  | .scalar values => .scalar (values.take 1 |>.flatMap (List.replicate n))
  | .vector values => .vector (values.take 1 |>.flatMap (List.replicate n))
  | .tensor values => .tensor (values.take 1 |>.flatMap (List.replicate n))

variable [Scalar α]

def gather (places : List Nat) : Data α → Data α
  | .scalar values => .scalar (places.map (values.getD · Scalar.zero))
  | .vector values => .vector (places.map (values.getD · Vec3.zero))
  | .tensor values => .tensor (places.map (values.getD · Mat3.zero))

def zeros (kind : Kind) (n : Nat) : Data α :=
  match kind with
  | .logical | .scalar => .scalar (List.replicate n Scalar.zero)
  | .vector => .vector (List.replicate n Vec3.zero)
  | .tensor | .symmTensor | .sphericalTensor => .tensor (List.replicate n Mat3.zero)

def lift (f : {ε : Type} → [Element α ε] → List ε → List ε) : Data α → Data α
  | .scalar values => .scalar (f values)
  | .vector values => .vector (f values)
  | .tensor values => .tensor (f values)

def lift₂ (f : {ε : Type} → [Element α ε] → List ε → List ε → List ε) :
    Data α → Data α → Option (Data α)
  | .scalar xs, .scalar ys => some (.scalar (f xs ys))
  | .vector xs, .vector ys => some (.vector (f xs ys))
  | .tensor xs, .tensor ys => some (.tensor (f xs ys))
  | _, _ => none

def agrees : Data α → Data α → Bool
  | .scalar xs, .scalar ys => xs.length == ys.length && (xs.zip ys).all fun (x, y) => Scalar.eq x y
  | .vector xs, .vector ys =>
    xs.length == ys.length &&
      (xs.zip ys).all fun (x, y) => (x.toList.zip y.toList).all fun (a, b) => Scalar.eq a b
  | .tensor xs, .tensor ys =>
    xs.length == ys.length &&
      (xs.zip ys).all fun (x, y) => (x.toList.zip y.toList).all fun (a, b) => Scalar.eq a b
  | _, _ => false

end Data

/-- A value. One without a location is a constant and holds a single element, which stands for as
many as are needed. Truth values are the numbers zero and one, and the three tensor-like kinds hold
full matrices; only the kind tells them apart. -/
structure Value (α : Type) where
  kind : Kind
  location : Option Location
  data : Data α
  dimensions : Option (Dimensions α)
deriving DecidableEq, Repr

inductive FieldError (α : Type) where
  | sizeMismatch (left right : Nat)
  | dimensionMismatch (operation : String) (left right : Dimensions α)
  | storageMismatch (kind : Kind)
  | unsupported (operation : String) (kind : Kind)
  | empty (operation : String)
  | singular (operation : String) (index : Nat)
deriving DecidableEq, Repr

def FieldError.message {α : Type} [Numeral α] : FieldError α → String
  | .sizeMismatch left right =>
    s!"operands do not have matching domain size: {left} vs {right}"
  | .dimensionMismatch operation left right =>
    s!"dimensions of operands differ for '{operation}': {left.text} vs {right.text}"
  | .storageMismatch kind => s!"storage does not match kind {kind.text}"
  | .unsupported operation kind => s!"'{operation}' is not defined for {kind.text}"
  | .empty operation => s!"'{operation}' needs at least one element"
  | .singular operation index => s!"'{operation}' of a singular tensor at element {index}"

namespace Value

variable {α : Type}

def ofData (kind : Kind) (location : Location) (data : Data α) : Except (FieldError α) (Value α) :=
  if data.stores kind then .ok ⟨kind, some location, data, none⟩
  else .error (.storageMismatch kind)

def scalar (location : Location) (values : List α) : Value α :=
  ⟨.scalar, some location, .scalar values, none⟩

def vector (location : Location) (values : List (Vec3 α)) : Value α :=
  ⟨.vector, some location, .vector values, none⟩

def tensor (location : Location) (values : List (Mat3 α)) : Value α :=
  ⟨.tensor, some location, .tensor values, none⟩

/-- Symmetric matrices, of which the upper triangles are taken. -/
def symmTensor (location : Location) (values : List (Mat3 α)) : Value α :=
  ⟨.symmTensor, some location, .tensor (values.map Mat3.symmetricFromUpper), none⟩

def constantScalar (value : α) : Value α := ⟨.scalar, none, .scalar [value], none⟩

def constantVector (value : Vec3 α) : Value α := ⟨.vector, none, .vector [value], none⟩

def constantTensor (kind : Kind) (value : Mat3 α) : Value α := ⟨kind, none, .tensor [value], none⟩

def isConstant (v : Value α) : Bool := v.location.isNone

def isLogical (v : Value α) : Bool := v.kind == .logical

def isEmpty (v : Value α) : Bool := v.data.size == 0

def size (v : Value α) : Nat := v.data.size

def type? (v : Value α) : Option ValueType := v.location.map (⟨v.kind, ·⟩)

def describe (v : Value α) : String :=
  match v.type? with
  | some type => type.text
  | none => "constant " ++ v.kind.text

def withDimensions (v : Value α) (dimensions : Option (Dimensions α)) : Value α :=
  { v with dimensions }

def untagged (v : Value α) : Value α := { v with dimensions := none }

def relabel (v : Value α) (kind : Kind) : Value α := { v with kind }

def scalars? (v : Value α) : Option (List α) :=
  match v.data with
  | .scalar values => some values
  | _ => none

def uniform (location : Location) (n : Nat) (v : Value α) : Value α :=
  ⟨v.kind, some location, v.data.replicate n, v.dimensions⟩

/-- A constant expanded over a location of `n` entities; a located value stays as it is. -/
def broadcastTo (v : Value α) (location : Location) (n : Nat) : Value α :=
  if v.isConstant then v.uniform location n else v

def component? (v : Value α) (name : String) : Option (Value α) :=
  match v.kind.component? name, v.data with
  | some (.entry axis), .vector values =>
    some ⟨.scalar, v.location, .scalar (values.map (·.entry axis)), v.dimensions⟩
  | some (.cell row column), .tensor values =>
    some ⟨.scalar, v.location, .scalar (values.map (·.entry row column)), v.dimensions⟩
  | some .isotropic, .tensor values =>
    some ⟨.scalar, v.location, .scalar (values.map (·.xx)), v.dimensions⟩
  | _, _ => none

variable [Scalar α]

def logical (location : Location) (values : List Bool) : Value α :=
  ⟨.logical, some location, .scalar (values.map Scalar.truth), none⟩

def sphericalTensor (location : Location) (values : List α) : Value α :=
  ⟨.sphericalTensor, some location, .tensor (values.map Mat3.isotropic), none⟩

def constantLogical (value : Bool) : Value α := ⟨.logical, none, .scalar [Scalar.truth value], none⟩

def zeros (type : ValueType) (n : Nat) : Value α :=
  ⟨type.kind, some type.location, Data.zeros type.kind n, none⟩

def truths? (v : Value α) : Option (List Bool) := v.scalars?.map (·.map Scalar.isTrue)

def tagsAgree : Option (Dimensions α) → Option (Dimensions α) → Bool
  | none, none => true
  | some d, some e => d.agrees e
  | _, _ => false

def agrees (v w : Value α) : Bool :=
  v.kind == w.kind && v.location == w.location && v.data.agrees w.data
    && tagsAgree v.dimensions w.dimensions

end Value

end MeshLang
