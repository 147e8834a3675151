import MeshLang.Diagnostic
import MeshLang.Kind
import MeshLang.Mesh.Addressing
import MeshLang.Scalar
import MeshLang.Value

namespace MeshLang

inductive RepositoryError where
  | notFound (name : String)
  | wrongType (name : String) (expected found : ValueType)
  | sizeMismatch (name : String) (expected found : Nat)
  | unlocated (name : String)
  | emptyTable
  | nonFiniteTable
deriving DecidableEq, Repr

def RepositoryError.message : RepositoryError → String
  | .notFound name => s!"field '{name}' not found"
  | .wrongType name expected found =>
    s!"field '{name}' is a {found.text}, not a {expected.text}"
  | .sizeMismatch name expected found =>
    s!"field '{name}' has {found} elements, the mesh needs {expected}"
  | .unlocated name => s!"field '{name}' must be located on the mesh, not a constant"
  | .emptyTable => "lookup table needs at least one point"
  | .nonFiniteTable => "lookup table points must be finite"

mutual

/-- Why an evaluation failed. The last case is the one of an evaluation that ran out of the steps
it was given. -/
inductive EvalError (α : Type) where
  | lexical (diagnostic : Diagnostic)
  | grammar (diagnostic : Diagnostic)
  | field (error : FieldError α)
  | mesh (error : MeshError)
  | repository (error : RepositoryError)
  | unknownField (name : String)
  | unknownFunction (name : String)
  | plugin (name : String) (error : PluginError α)
  | exhausted

/-- Why a plugin failed. Offsets count from the start of the text that the plugin was given. -/
inductive PluginError (α : Type) where
  | expected (what : String) (offset : Nat)
  | argument (offset : Nat) (error : EvalError α)
  | wrongType (expected found : String)
  | overrun (consumed available : Nat)
  | invertedBounds (low high : α)
  | failed (text : String)

end

mutual

def EvalError.message {α : Type} [Numeral α] : EvalError α → String
  | .lexical diagnostic => "lexical error: " ++ diagnostic.text
  | .grammar diagnostic => "syntax error: " ++ diagnostic.text
  | .field error => error.message
  | .mesh error => error.message
  | .repository error => error.message
  | .unknownField name => s!"unknown field '{name}'"
  | .unknownFunction name => s!"unknown function '{name}'"
  | .plugin name error => s!"plugin function '{name}' failed: " ++ error.message
  | .exhausted => "evaluation did not finish"

def PluginError.message {α : Type} [Numeral α] : PluginError α → String
  | .expected what offset => s!"expected {what} at offset {offset}"
  | .argument offset error => s!"argument at offset {offset} failed: " ++ error.message
  | .wrongType expected found => s!"expected {expected} argument, found {found}"
  | .overrun consumed available =>
    s!"consumed {consumed} bytes but only {available} were available"
  | .invertedBounds low high =>
    s!"lower bound {Numeral.write low} exceeds upper bound {Numeral.write high}"
  | .failed text => text

end

namespace EvalError

variable {α : Type}

def ofRepository : RepositoryError → EvalError α
  | .notFound name => .unknownField name
  | error => .repository error

def diagnostic? : EvalError α → Option Diagnostic
  | .lexical diagnostic | .grammar diagnostic => some diagnostic
  | _ => none

def withHint (hint : String) : EvalError α → EvalError α
  | .lexical diagnostic => .lexical (diagnostic.withHint hint)
  | .grammar diagnostic => .grammar (diagnostic.withHint hint)
  | error => error

end EvalError

end MeshLang
