import MeshLang.Value.Broadcast

namespace MeshLang

inductive Comparison where
  | less
  | greater
  | lessEqual
  | greaterEqual
  | equal
  | notEqual
deriving DecidableEq, Repr

namespace Comparison

def all : List Comparison := [.less, .greater, .lessEqual, .greaterEqual, .equal, .notEqual]

def symbol : Comparison → String
  | .less => "<"
  | .greater => ">"
  | .lessEqual => "<="
  | .greaterEqual => ">="
  | .equal => "=="
  | .notEqual => "!="

def holds {α : Type} [Scalar α] : Comparison → α → α → Bool
  | .less, x, y => Scalar.lt x y
  | .greater, x, y => Scalar.lt y x
  | .lessEqual, x, y => Scalar.le x y
  | .greaterEqual, x, y => Scalar.le y x
  | .equal, x, y => Scalar.eq x y
  | .notEqual, x, y => !Scalar.eq x y

end Comparison

namespace Value

variable {α : Type} [Scalar α]

def compare (comparison : Comparison) (v w : Value α) : Except (FieldError α) (Value α) := do
  let (location, n) ← domain v w
  let _ ← sumTag comparison.symbol v.dimensions w.dimensions
  match v.data, w.data with
  | .scalar xs, .scalar ys =>
    let data := zipSpread n (fun x y => Scalar.truth (comparison.holds x y)) xs ys
    .ok ⟨.logical, location, .scalar data, none⟩
  | _, _ => .error (.unsupported comparison.symbol v.kind)

def truthPair (symbol : String) (f : Bool → Bool → Bool) (v w : Value α) :
    Except (FieldError α) (Value α) := do
  let (location, n) ← domain v w
  match v.data, w.data with
  | .scalar xs, .scalar ys =>
    let data := zipSpread n (fun x y => Scalar.truth (f (Scalar.isTrue x) (Scalar.isTrue y))) xs ys
    .ok ⟨.logical, location, .scalar data, none⟩
  | _, _ => .error (.unsupported symbol v.kind)

def and (v w : Value α) : Except (FieldError α) (Value α) := truthPair "&&" Bool.and v w

def or (v w : Value α) : Except (FieldError α) (Value α) := truthPair "||" Bool.or v w

def not (v : Value α) : Except (FieldError α) (Value α) :=
  match v.data with
  | .scalar xs =>
    .ok ⟨.logical, v.location, .scalar (xs.map fun x => Scalar.truth (!Scalar.isTrue x)), none⟩
  | _ => .error (.unsupported "!" .logical)

/-- Location and element count of a choice: those of the condition where it has them. -/
def choiceDomain (condition : Value α) (branches : Option Location × Nat) :
    Except (FieldError α) (Option Location × Nat) :=
  match condition.location with
  | none => .ok branches
  | some location =>
    if branches.1.isSome && condition.size != branches.2 then
      .error (.sizeMismatch condition.size branches.2)
    else .ok (some location, condition.size)

def choose {ε : Type} (n : Nat) (mask : List α) (xs ys : List ε) : List ε :=
  List.zipWith (fun m pair => if Scalar.isTrue m then pair.1 else pair.2) (spread n mask)
    ((spread n xs).zip (spread n ys))

def select (condition v w : Value α) : Except (FieldError α) (Value α) := do
  let branches ← domain v w
  let (location, n) ← choiceDomain condition branches
  let tag ← sumTag "?:" v.dimensions w.dimensions
  match condition.data with
  | .scalar mask =>
    match Data.lift₂ (choose n mask) v.data w.data with
    | some data => .ok ⟨v.kind, location, data, tag⟩
    | none => .error (.unsupported "?:" w.kind)
  | _ => .error (.unsupported "?:" condition.kind)

end Value

end MeshLang
