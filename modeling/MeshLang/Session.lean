import MeshLang.Evaluation
import MeshLang.Plugin.Library

namespace MeshLang

/-- `stop` is where the last accepted expression ends, `position` the place of the token that was
looked at last, `trace` the reductions noted so far. -/
structure Session (α : Type) where
  repository : Repository α
  registry : Registry α
  options : Options
  bindings : OrderedMap String (Value α)
  result : Option (Value α)
  stop : Nat
  position : Nat
  origins : List Nat
  generator : Generator
  trace : List String

namespace Session

variable {α : Type}

def withRegistry (session : Session α) (registry : Registry α) : Session α :=
  { session with registry }

def register (session : Session α) (plugin : Plugin α) : Session α :=
  { session with registry := session.registry.register plugin }

def withOptions (session : Session α) (options : Options) : Session α :=
  { session with options, generator := .ofSeed options.seed }

def setVariable (session : Session α) (name : String) (v : Value α) : Session α :=
  { session with bindings := session.bindings.insert name v }

def clearVariables (session : Session α) : Session α := { session with bindings := .empty }

def takeResult (session : Session α) : Option (Value α) × Session α :=
  (session.result, { session with result := none })

def resultType? (session : Session α) : Option ValueType := session.result.bind Value.type?

def isLogical (session : Session α) : Bool := session.result.any Value.isLogical

def clearTrace (session : Session α) : Session α := { session with trace := [] }

def environment (session : Session α) : Environment α :=
  ⟨session.repository, session.registry, session.options, session.bindings⟩

def stateAt (session : Session α) (cursor : Cursor) : State :=
  ⟨cursor, session.origins, session.generator, session.trace⟩

def resume (session : Session α) (state : State) : Session α :=
  { session with
    position := state.cursor.current.offset
    origins := state.origins
    generator := state.generator
    trace := state.trace }

variable [Scalar α]

def ofRepository (repository : Repository α) : Session α :=
  { repository, registry := Plugin.library, options := .default, bindings := .empty,
    result := none, stop := 0, position := 0, origins := [],
    generator := .ofSeed Options.default.seed, trace := [] }

def shape (session : Session α) (expected : Option ValueType) (v : Value α) (stop : Nat) :
    Except (EvalError α) (Value α) :=
  match expected with
  | some type => Run.conform session.environment v type 0 stop
  | none =>
    let location := session.options.defaultLocation
    .ok (v.broadcastTo location (session.repository.mesh.size location))

/-- Evaluates a text, all of it or as much as is an expression. Only a success leaves a value and
moves `stop`. -/
def accept (session : Session α) (text : List Char) (expected : Option ValueType) (whole : Bool) :
    Session α × Except (EvalError α) (Value α) :=
  let fresh := { session with result := none, origins := [] }
  let run : Run α (Value α) := do
    let v ← Run.expression fresh.environment
    if whole then Run.finish v
    return v
  match run (fresh.stateAt (.ofText text)) with
  | .error error state => (fresh.resume state, .error error)
  | .ok v state =>
    let session := fresh.resume state
    let stop := state.cursor.offset
    match session.shape expected v stop with
    | .error error => (session, .error error)
    | .ok v => ({ session with result := some v, stop }, .ok v)

def evaluate (session : Session α) (text : List Char) :
    Session α × Except (EvalError α) (Value α) :=
  session.accept text none true

def evaluateAs (session : Session α) (text : List Char) (type : ValueType) :
    Session α × Except (EvalError α) (Value α) :=
  session.accept text (some type) true

def evaluateLogical (session : Session α) (text : List Char) (location : Location) :
    Session α × Except (EvalError α) (Value α) :=
  session.evaluateAs text ⟨.logical, location⟩

def evaluateStart (session : Session α) (text : List Char) :
    Session α × Except (EvalError α) (Value α) :=
  session.accept text none false

/-- The value of the expression at a byte of a text, and the byte where it stops. Constants are not
expanded unless a type is asked for. -/
def argument (session : Session α) (text : List Char) (start : Nat)
    (expected : Option ValueType) : Session α × Except (EvalError α) (Value α × Nat) :=
  let env := session.environment
  let recurse := Run.evaluate env (text.length + 1)
  match Run.argumentAt env recurse text start expected (session.stateAt (.ofText text)) with
  | .error error state => (session.resume state, .error error)
  | .ok answer state => (session.resume state, .ok answer)

def assignFrom (session : Session α) (cursor : Cursor) :
    Nat → Session α × Except (EvalError α) Unit
  | 0 => (session, .error .exhausted)
  | rounds + 1 =>
    match cursor.next? with
    | none => (session, .ok ())
    | some (name, afterName) =>
      if name.kind ≠ .word then (session, .error (name.wanted ["identifier"]))
      else
        let (sign, afterSign) := afterName.read
        if sign.kind ≠ .assign then (session, .error (sign.wanted ["'='"]))
        else
          match Run.expression session.environment (session.stateAt afterSign) with
          | .error error state => (session.resume state, .error error)
          | .ok v state =>
            let session := (session.resume state).setVariable name.word v
            match state.cursor.next? with
            | none => (session, .ok ())
            | some (separator, rest) =>
              if separator.kind = .semicolon then session.assignFrom rest rounds
              else (session, .error (separator.wanted ["';'"]))

/-- Carries out assignments that semicolons separate. Each one sees the ones before it. -/
def assign (session : Session α) (text : List Char) : Session α × Except (EvalError α) Unit :=
  session.assignFrom (.ofText text) (text.length + 1)

def readExpression (session : Session α) (text : List Char) (args : Arguments)
    (expected : Option ValueType) :
    Session α × Except (PluginError α) (Value α × Arguments) :=
  let (session, told) := session.argument text args.offset expected
  (session, args.afterExpression told)

end Session

end MeshLang
