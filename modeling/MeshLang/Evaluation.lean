import MeshLang.Evaluation.Call
import MeshLang.Evaluation.Reduction

namespace MeshLang

/-- How a step goes on: from a left operand that is there already, or from the next one, with all
operators that bind at least as strongly as a bound. There is no tree: values are computed while the
text is read, and the steps below take what they recurse into as an argument. -/
abbrev Recursion (α : Type) := Option (Value α) → Nat → Run α (Value α)

def operandStart : List String :=
  ["identifier", "number", "'pi'", "'true'", "'false'", "'('", "'-'", "'!'"]

namespace Run

variable {α : Type}

def expect (kind : TokenKind) : Run α Token := do
  let token ← current
  if token.kind = kind then advance else throw (token.wanted [kind.displayName])

def close (opening : Token) : Run α Unit := do
  let token ← current
  if token.kind = .closeParen then discard advance else throw (token.unclosed opening)

def nameArgument : Run α Token := do
  let opening ← expect .openParen
  let name ← expect .word
  close opening
  return name

def seedOf (token : Token) : Run α UInt64 :=
  let seed := Decimal.natural 0 token.text
  if seed < UInt64.size then return UInt64.ofNat seed
  else throw <| token.mismatch .invalidNumber s!"seed '{token.word}' is out of range" ["integer"]

def seedArgument : Run α (Option UInt64) := do
  let opening ← expect .openParen
  let token ← current
  let seed ←
    if token.kind = .integer then do
      discard advance
      pure (some (← seedOf token))
    else if token.kind = .closeParen then pure none
    else throw (token.unexpected .invalidArgument ["integer", "')'"])
  close opening
  return seed

def argumentsFrom (recurse : Recursion α) (opening : Token) : Nat → Run α (List (Argument α))
  | 0 => throw .exhausted
  | rounds + 1 => do
    let start ← current
    let value ← recurse none 0
    let token ← current
    match token.kind with
    | .comma => do
      discard advance
      return ⟨value, start⟩ :: (← argumentsFrom recurse opening rounds)
    | .closeParen => do
      discard advance
      return [⟨value, start⟩]
    | .invalid => throw token.invalid
    | .finish => throw (token.unclosed opening)
    | _ => throw (token.unexpected .unexpectedToken ["','", "')'"])

def arguments (recurse : Recursion α) : Run α (List (Argument α)) := do
  let opening ← expect .openParen
  let token ← current
  if token.kind = .closeParen then
    discard advance
    return []
  else argumentsFrom recurse opening ((← get).cursor.rest.length + 1)

def conform (env : Environment α) (v : Value α) (type : ValueType) (start stop : Nat) :
    Except (EvalError α) (Value α) :=
  let fits := match v.location with
    | none => true
    | some location => location == type.location
  if v.kind = type.kind && fits then
    .ok (v.broadcastTo type.location (env.repository.mesh.size type.location))
  else
    let message := s!"expected {type.text}, found {v.describe}"
    .error <| .grammar
      ⟨.wrongResultType, message, start, max start stop, v.describe, [type.text], none⟩

def argumentAt (env : Environment α) (recurse : Recursion α) (text : List Char) (start : Nat)
    (expected : Option ValueType) : Run α (Value α × Nat) := do
  let base := (← get).origins.headD 0
  jump (.within base text start)
  let value ← recurse none 0
  let stop := (← get).cursor.offset
  match expected with
  | none => return (value, stop)
  | some type => return (← lift (conform env value type (base + start) (base + stop)), stop)

def play {β : Type} (env : Environment α) (recurse : Recursion α) (text : List Char) :
    Script α β → Run α β
  | .done answer => return answer
  | .argument start expected next => do
    let told ← attempt (argumentAt env recurse text start expected)
    play env recurse text (next told)

/-- Hands the text after a name to a plugin and goes on behind the part that it has used. -/
def callPlugin (env : Environment α) (recurse : Recursion α) (name : Token) (plugin : Plugin α) :
    Run α (Value α) := do
  let start := (← get).cursor
  modify fun state => { state with origins := start.place :: state.origins }
  let outcome ← play env recurse start.rest (plugin.call start.rest)
  modify fun state => { state with origins := state.origins.drop 1 }
  match outcome with
  | .error error => throw (.plugin name.word error)
  | .ok (value, consumed) =>
    match Text.dropBytes? consumed start.rest with
    | none =>
      throw (.plugin name.word (.overrun consumed (Text.byteSize start.rest)))
    | some rest => do
      jump { start with rest, offset := start.offset + consumed }
      note env.options s!"{name.word}<plugin> -> {value.describe}"
      return env.options.adopt value

def foreignArgument : Run α (Token × Bool) := do
  let opening ← expect .openParen
  let first ← expect .word
  let token ← current
  let old := first.word = "oldTime" && token.kind = .openParen
  let name ← if old then nameArgument else pure first
  close opening
  return (name, old)

section Reductions

variable [Scalar α]

def random (env : Environment α) (isNormal : Bool) (seed : Option UInt64) : Run α (Value α) := do
  let count := env.mesh.cells.length
  match seed with
  | some seed => return .scalar .volume (Generator.sample isNormal count (.ofSeed seed)).1
  | none => do
    let state ← get
    let (values, generator) := Generator.sample isNormal count state.generator
    set { state with generator }
    return .scalar .volume values

def callBuiltin (env : Environment α) (recurse : Recursion α) (name : Token) (builtin : Builtin) :
    Run α (Value α) :=
  match builtin.shape with
  | .name => do
    let arg ← nameArgument
    lift (env.applyNamed builtin arg)
  | .seed => do
    let seed ← seedArgument
    match builtin with
    | .random isNormal _ => random env isNormal seed
    | _ => throw (wrongCount name 0 0 1)
  | .expressions least most => do
    let args ← arguments recurse
    if args.length < least || most < args.length then
      throw (wrongCount name least most args.length)
    lift (env.apply builtin name args)

def callTable (env : Environment α) (recurse : Recursion α) (name : Token)
    (table : LookupTable α) : Run α (Value α) := do
  let args ← arguments recurse
  let value ← lift (env.applyTable table name args)
  match args with
  | [a] => note env.options s!"{name.word}({a.value.describe}) -> scalar"
  | _ => pure ()
  return value

/-- The value of a call: of a function of the language, or else a lookup table, another mesh, or a
plugin, the first that has the name. -/
def call (env : Environment α) (recurse : Recursion α) (name : Token) : Run α (Value α) :=
  match Builtin.ofName? name.word with
  | some builtin => do
    let value ← callBuiltin env recurse name builtin
    note env.options s!"{name.word}(...) -> {value.describe}"
    return value
  | none =>
    match env.repository.tables.get? name.word with
    | some table => callTable env recurse name table
    | none =>
      match env.repository.foreign.get? name.word with
      | some region => do
        let (field, old) ← foreignArgument
        lift (env.applyForeign region name field old)
      | none =>
        match env.registry.get? name.word with
        | some plugin => callPlugin env recurse name plugin
        | none => throw (.unknownFunction name.word)

def name (env : Environment α) (recurse : Recursion α) : Run α (Value α) := do
  let following ← second
  let token ← advance
  if following = .openParen then call env recurse token
  else if token.word = "unitTensor" then return .constantTensor .tensor Mat3.identity
  else return env.options.adopt (← lift (env.lookup token.word))

def number (token : Token) : Run α (Value α) :=
  match Decimal.read? token.text with
  | some decimal => return .constantScalar (Scalar.ofDecimal decimal)
  | none =>
    throw <| .lexical
      (token.diagnostic .invalidNumber Fault.invalidNumber.defaultMessage token.word [])

def signed (env : Environment α) (recurse : Recursion α) (op : UnaryOp) : Run α (Value α) := do
  let token ← advance
  let value ← recurse none Binding.sign
  unary env.options op value token

def grouped (recurse : Recursion α) : Run α (Value α) := do
  let opening ← advance
  let value ← recurse none 0
  close opening
  return value

def operand (env : Environment α) (recurse : Recursion α) : Run α (Value α) := do
  let token ← current
  match token.kind with
  | .minus => signed env recurse .negate
  | .bang => signed env recurse .not
  | .openParen => grouped recurse
  | .integer | .decimal => do
    discard advance
    number token
  | .piWord => do
    discard advance
    return .constantScalar Scalar.pi
  | .trueWord => do
    discard advance
    return .constantLogical true
  | .falseWord => do
    discard advance
    return .constantLogical false
  | .word => name env recurse
  | .invalid => throw token.invalid
  | _ => throw (token.unexpected .missingExpression operandStart)

def tensorPart (env : Environment α) (v : Value α) (name : Token) (function : TensorFunction) :
    Run α (Value α) := do
  discard (expect .openParen)
  discard (expect .closeParen)
  if !v.kind.isTensorLike then
    throw <| name.mismatch .invalidArgument
      s!"'{name.word}' needs a tensor, found {v.describe}" (Kind.tensors.map Kind.text)
  note env.options s!"{v.describe}.{name.word}() -> {(function.resultKind v.kind).text}"
  liftField (v.applyTensor function)

def component (env : Environment α) (v : Value α) : Run α (Value α) := do
  discard advance
  let token ← current
  if token.kind ≠ .word then
    throw (token.unexpected .invalidComponent (quoted v.kind.componentNames))
  let name ← advance
  let following ← current
  match TensorFunction.ofName? name.word with
  | some function =>
    if following.kind = .openParen then tensorPart env v name function
    else part env.options v name
  | none => part env.options v name

def choose (env : Environment α) (recurse : Recursion α) (condition : Value α) :
    Run α (Value α) := do
  let question ← advance
  if condition.kind ≠ .logical then
    throw <| question.mismatch .undefinedOperator
      s!"condition of '?:' must be logical, found {condition.describe}"
      (quoted (BinaryOp.symbolsAfter condition.kind))
  let first ← recurse none 0
  let colon ← expect .colon
  let second ← recurse none Binding.otherwise
  choice env.options condition first second question colon

def operation (env : Environment α) (recurse : Recursion α) (v : Value α) (binding : Binding) :
    Run α (Value α) := do
  let sign ← advance
  let w ← recurse none binding.right
  binary env.options binding.op v w sign

/-- All that follows a left operand and binds at least as strongly as a bound. An operator that no
right operand makes legal is refused before that is read. -/
def continueFrom (env : Environment α) (recurse : Recursion α) (v : Value α) (bound : Nat) :
    Run α (Value α) := do
  let token ← current
  match token.kind with
  | .invalid => throw token.invalid
  | .point =>
    if Binding.component < bound then return v
    else recurse (some (← component env v)) bound
  | .question =>
    if Binding.choice < bound then return v
    else recurse (some (← choose env recurse v)) bound
  | kind =>
    match kind.binding? v.kind with
    | none =>
      if kind = .doubleAmpersand && bound ≤ Binding.conjunction then
        throw (undefinedAfter "&&" v token)
      else return v
    | some binding =>
      if binding.left < bound then return v
      else if (binding.op.rightKinds v.kind).isEmpty then
        throw (undefinedAfter binding.op.symbol v token)
      else recurse (some (← operation env recurse v binding)) bound

def step (env : Environment α) (recurse : Recursion α) : Recursion α
  | some v, bound => continueFrom env recurse v bound
  | none, bound => do
    let v ← operand env recurse
    continueFrom env recurse v bound

/-- Evaluation in at most so many nested steps. Each one reads at least a character before it
recurses, so the characters that are left bound the depth. -/
def evaluate (env : Environment α) : Nat → Recursion α
  | 0 => fun _ _ => throw .exhausted
  | depth + 1 => step env (evaluate env depth)

def expression (env : Environment α) : Run α (Value α) := do
  evaluate env ((← get).cursor.rest.length + 1) none 0

def finish (v : Value α) : Run α Unit := do
  let token ← current
  match token.kind with
  | .finish => return ()
  | .invalid => throw token.invalid
  | _ => throw (token.unexpected .trailingInput (continuations v.kind))

end Reductions

end Run

end MeshLang
