import MeshLang.Generator
import MeshLang.Plugin
import MeshLang.Repository

namespace MeshLang

structure Options where
  trace : Bool
  defaultLocation : Location
  order : MappingOrder
  seed : UInt64
  processor : Nat
  checkDimensions : Bool
deriving DecidableEq, Repr

def Options.default : Options := ⟨false, .volume, .linear, 0, 0, true⟩

structure Environment (α : Type) where
  repository : Repository α
  registry : Registry α
  options : Options
  bindings : OrderedMap String (Value α)

/-- What a step changes, also when it fails: the place in the text, where the texts of active
plugins start, the innermost one first, the generator of random numbers, and the reductions noted so
far. -/
structure State where
  cursor : Cursor
  origins : List Nat
  generator : Generator
  trace : List String
deriving DecidableEq, Repr

abbrev Run (α β : Type) := EStateM (EvalError α) State β

namespace Run

variable {α β : Type}

def lift : Except (EvalError α) β → Run α β
  | .ok answer => pure answer
  | .error error => throw error

def liftField (result : Except (FieldError α) β) : Run α β := lift (result.mapError .field)

def attempt (run : Run α β) : Run α (Except (EvalError α) β) := fun state =>
  match run state with
  | .ok answer state => .ok (.ok answer) state
  | .error error state => .ok (.error error) state

def current : Run α Token := return (← get).cursor.current

def advance : Run α Token := do
  let state ← get
  let (token, cursor) := state.cursor.read
  set { state with cursor }
  return token

def second : Run α TokenKind := return (← get).cursor.advance.current.kind

def jump (cursor : Cursor) : Run α Unit := modify fun state => { state with cursor }

def note (options : Options) (rule : String) : Run α Unit :=
  if options.trace then modify fun state => { state with trace := state.trace ++ [rule] }
  else pure ()

end Run

/-- A value that enters an expression: without its tag if tags are not checked. -/
def Options.adopt {α : Type} (options : Options) (v : Value α) : Value α :=
  if options.checkDimensions then v else v.untagged

end MeshLang
