import MeshLang.Kind

namespace MeshLang

/-- Operators between two operands. The sign `&&` is the full contraction of matrices or the
conjunction of truth values. -/
inductive BinaryOp where
  | add
  | sub
  | mul
  | div
  | remainder
  | inner
  | cross
  | doubleInner
  | less
  | greater
  | lessEqual
  | greaterEqual
  | equal
  | notEqual
  | and
  | or
deriving DecidableEq, Repr

inductive UnaryOp where
  | negate
  | not
deriving DecidableEq, Repr

def UnaryOp.symbol : UnaryOp → String
  | .negate => "-"
  | .not => "!"

namespace BinaryOp

def all : List BinaryOp :=
  [.add, .sub, .mul, .div, .remainder, .inner, .cross, .doubleInner, .less, .greater, .lessEqual,
   .greaterEqual, .equal, .notEqual, .and, .or]

def symbol : BinaryOp → String
  | .add => "+"
  | .sub => "-"
  | .mul => "*"
  | .div => "/"
  | .remainder => "%"
  | .inner => "&"
  | .cross => "^"
  | .doubleInner | .and => "&&"
  | .less => "<"
  | .greater => ">"
  | .lessEqual => "<="
  | .greaterEqual => ">="
  | .equal => "=="
  | .notEqual => "!="
  | .or => "||"

end BinaryOp

/-- A legal application of an operator and the kind of its result. -/
structure Rule where
  op : BinaryOp
  left : Kind
  right : Kind
  result : Kind
deriving DecidableEq, Repr

def rules : List Rule :=
  [⟨.add, .scalar, .scalar, .scalar⟩,
   ⟨.add, .vector, .vector, .vector⟩,
   ⟨.add, .tensor, .tensor, .tensor⟩,
   ⟨.add, .symmTensor, .symmTensor, .symmTensor⟩,
   ⟨.add, .sphericalTensor, .sphericalTensor, .sphericalTensor⟩,
   ⟨.sub, .scalar, .scalar, .scalar⟩,
   ⟨.sub, .vector, .vector, .vector⟩,
   ⟨.sub, .tensor, .tensor, .tensor⟩,
   ⟨.sub, .symmTensor, .symmTensor, .symmTensor⟩,
   ⟨.sub, .sphericalTensor, .sphericalTensor, .sphericalTensor⟩,
   ⟨.mul, .scalar, .scalar, .scalar⟩,
   ⟨.mul, .scalar, .vector, .vector⟩,
   ⟨.mul, .scalar, .tensor, .tensor⟩,
   ⟨.mul, .scalar, .symmTensor, .symmTensor⟩,
   ⟨.mul, .scalar, .sphericalTensor, .sphericalTensor⟩,
   ⟨.mul, .vector, .scalar, .vector⟩,
   ⟨.mul, .tensor, .scalar, .tensor⟩,
   ⟨.mul, .symmTensor, .scalar, .symmTensor⟩,
   ⟨.mul, .sphericalTensor, .scalar, .sphericalTensor⟩,
   ⟨.div, .scalar, .scalar, .scalar⟩,
   ⟨.div, .vector, .scalar, .vector⟩,
   ⟨.div, .tensor, .scalar, .tensor⟩,
   ⟨.div, .symmTensor, .scalar, .symmTensor⟩,
   ⟨.div, .sphericalTensor, .scalar, .sphericalTensor⟩,
   ⟨.remainder, .scalar, .scalar, .scalar⟩,
   ⟨.inner, .vector, .vector, .scalar⟩,
   ⟨.inner, .tensor, .vector, .vector⟩,
   ⟨.inner, .vector, .tensor, .vector⟩,
   ⟨.inner, .symmTensor, .vector, .vector⟩,
   ⟨.inner, .vector, .symmTensor, .vector⟩,
   ⟨.inner, .sphericalTensor, .vector, .vector⟩,
   ⟨.inner, .vector, .sphericalTensor, .vector⟩,
   ⟨.inner, .tensor, .tensor, .tensor⟩,
   ⟨.inner, .symmTensor, .tensor, .tensor⟩,
   ⟨.inner, .tensor, .symmTensor, .tensor⟩,
   ⟨.inner, .sphericalTensor, .tensor, .tensor⟩,
   ⟨.inner, .tensor, .sphericalTensor, .tensor⟩,
   ⟨.cross, .vector, .vector, .vector⟩,
   ⟨.doubleInner, .tensor, .tensor, .scalar⟩,
   ⟨.doubleInner, .tensor, .symmTensor, .scalar⟩,
   ⟨.doubleInner, .tensor, .sphericalTensor, .scalar⟩,
   ⟨.doubleInner, .symmTensor, .tensor, .scalar⟩,
   ⟨.doubleInner, .symmTensor, .symmTensor, .scalar⟩,
   ⟨.doubleInner, .symmTensor, .sphericalTensor, .scalar⟩,
   ⟨.doubleInner, .sphericalTensor, .tensor, .scalar⟩,
   ⟨.doubleInner, .sphericalTensor, .symmTensor, .scalar⟩,
   ⟨.doubleInner, .sphericalTensor, .sphericalTensor, .scalar⟩,
   ⟨.less, .scalar, .scalar, .logical⟩,
   ⟨.greater, .scalar, .scalar, .logical⟩,
   ⟨.lessEqual, .scalar, .scalar, .logical⟩,
   ⟨.greaterEqual, .scalar, .scalar, .logical⟩,
   ⟨.equal, .scalar, .scalar, .logical⟩,
   ⟨.notEqual, .scalar, .scalar, .logical⟩,
   ⟨.and, .logical, .logical, .logical⟩,
   ⟨.or, .logical, .logical, .logical⟩]

namespace BinaryOp

def result? (op : BinaryOp) (left right : Kind) : Option Kind :=
  (rules.find? fun rule => rule.op = op && rule.left = left && rule.right = right).map (·.result)

def rightKinds (op : BinaryOp) (left : Kind) : List Kind :=
  (rules.filter fun rule => rule.op = op && rule.left = left).map (·.right)

def symbolsAfter (left : Kind) : List String :=
  ((rules.filter fun rule => rule.left = left).map (·.op.symbol)).foldl
    (fun seen symbol => if seen.contains symbol then seen else seen ++ [symbol]) []

end BinaryOp

def UnaryOp.result? (op : UnaryOp) (operand : Kind) : Option Kind :=
  match op with
  | .negate => if operand.isNumeric then some operand else none
  | .not => if operand = .logical then some .logical else none

def choiceResult? (condition first second : Kind) : Option Kind :=
  if condition = .logical && first = second then some first else none

end MeshLang
