import MeshLang.Evaluation.Message
import MeshLang.Evaluation.State
import MeshLang.Grammar.Precedence
import MeshLang.Value.Arithmetic
import MeshLang.Value.Logic

namespace MeshLang

variable {α : Type} [Scalar α]

def BinaryOp.apply : BinaryOp → Value α → Value α → Except (FieldError α) (Value α)
  | .add => Value.add
  | .sub => Value.sub
  | .mul => Value.mul
  | .div => Value.div
  | .remainder => Value.remainder
  | .inner => Value.inner
  | .cross => Value.cross
  | .doubleInner => Value.doubleInner
  | .less => Value.compare .less
  | .greater => Value.compare .greater
  | .lessEqual => Value.compare .lessEqual
  | .greaterEqual => Value.compare .greaterEqual
  | .equal => Value.compare .equal
  | .notEqual => Value.compare .notEqual
  | .and => Value.and
  | .or => Value.or

def UnaryOp.apply : UnaryOp → Value α → Except (FieldError α) (Value α)
  | .negate, v => .ok v.neg
  | .not, v => v.not

def undefinedAfter (symbol : String) (v : Value α) (place : Token) : EvalError α :=
  place.mismatch .undefinedOperator s!"'{symbol}' is not defined for {v.describe}"
    (quoted (BinaryOp.symbolsAfter v.kind))

namespace Run

/-- The value of an operator between two operands, whose sign is at `place`. Kinds are checked
first, then locations; only then the reduction is noted and the elements are computed. -/
def binary (options : Options) (op : BinaryOp) (v w : Value α) (place : Token) :
    Run α (Value α) :=
  match op.result? v.kind w.kind with
  | none =>
    throw <| place.mismatch .undefinedOperator
      s!"'{op.symbol}' is not defined for {v.describe} and {w.describe}"
      ((op.rightKinds v.kind).map Kind.text)
  | some kind => do
    lift (checkLocations op.symbol v w place)
    note options s!"{v.describe} {op.symbol} {w.describe} -> {kind.text}"
    return (← liftField (op.apply v w)).relabel kind

def unary (options : Options) (op : UnaryOp) (v : Value α) (place : Token) : Run α (Value α) :=
  match op.result? v.kind with
  | none =>
    let expected := match op with
      | .negate => "numeric operand"
      | .not => "logical operand"
    throw <| place.mismatch .undefinedOperator
      s!"unary '{op.symbol}' is not defined for {v.describe}" [expected]
  | some kind => do
    note options s!"{op.symbol}{v.describe} -> {kind.text}"
    return (← liftField (op.apply v)).relabel kind

def choice (options : Options) (condition v w : Value α) (question colon : Token) :
    Run α (Value α) :=
  match choiceResult? condition.kind v.kind w.kind with
  | none =>
    throw <| colon.mismatch .undefinedOperator
      s!"branches of '?:' differ: {v.describe} and {w.describe}" [v.kind.text]
  | some kind => do
    lift (checkLocations "?:" condition v question)
    lift (checkLocations "?:" v w colon)
    lift (checkLocations "?:" condition w question)
    note options s!"{condition.describe} ? {v.describe} : {w.describe} -> {kind.text}"
    return (← liftField (Value.select condition v w)).relabel kind

def part (options : Options) (v : Value α) (name : Token) : Run α (Value α) :=
  match v.component? name.word with
  | some component => do
    note options s!"{v.describe}.{name.word} -> scalar"
    return component
  | none =>
    let names := v.kind.componentNames
    let hint := if names.isEmpty then s!"{v.kind.text} has no components"
      else s!"{v.kind.text} components are " ++ ", ".intercalate names
    throw <| (name.mismatch .invalidComponent
      s!"'{name.word}' is not a component of {v.describe}" (quoted names)).withHint hint

end Run

end MeshLang
