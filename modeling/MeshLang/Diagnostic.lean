namespace MeshLang

inductive Fault where
  | invalidCharacter
  | invalidNumber
  | unclosedParenthesis
  | trailingInput
  | undefinedOperator
  | invalidArgument
  | missingExpression
  | differentLocations
  | invalidComponent
  | wrongResultType
  | unexpectedToken
deriving DecidableEq, Repr

namespace Fault

def all : List Fault :=
  [.invalidCharacter, .invalidNumber, .unclosedParenthesis, .trailingInput, .undefinedOperator,
   .invalidArgument, .missingExpression, .differentLocations, .invalidComponent, .wrongResultType,
   .unexpectedToken]

def code : Fault → String
  | .invalidCharacter => "E0101"
  | .invalidNumber => "E0104"
  | .unclosedParenthesis => "E0203"
  | .trailingInput => "E0208"
  | .undefinedOperator => "E0403"
  | .invalidArgument => "E0405"
  | .missingExpression => "E0406"
  | .differentLocations => "E0407"
  | .invalidComponent => "E0408"
  | .wrongResultType => "E0409"
  | .unexpectedToken => "E0902"

def ofCode? (code : String) : Option Fault := all.find? (·.code == code)

def category : Fault → String
  | .invalidCharacter | .invalidNumber => "lexical error"
  | .unclosedParenthesis | .trailingInput => "structural error"
  | .missingExpression => "expression error"
  | .undefinedOperator | .invalidArgument | .differentLocations | .invalidComponent
  | .wrongResultType => "type error"
  | .unexpectedToken => "syntax error"

def defaultMessage : Fault → String
  | .invalidCharacter => "invalid character"
  | .invalidNumber => "invalid numeric literal"
  | .unclosedParenthesis => "unclosed parenthesis"
  | .trailingInput => "unexpected input after expression"
  | .undefinedOperator => "operator not defined for these kinds"
  | .invalidArgument => "invalid argument"
  | .missingExpression => "expected expression"
  | .differentLocations => "operands at different locations"
  | .invalidComponent => "invalid component"
  | .wrongResultType => "wrong result type"
  | .unexpectedToken => "expected token"

def isLexical : Fault → Bool
  | .invalidCharacter | .invalidNumber => true
  | _ => false

def isTypeError (fault : Fault) : Bool := fault.category == "type error"

end Fault

/-- A message with the bytes from `start` to `stop` that it is about. -/
structure Diagnostic where
  fault : Fault
  message : String
  start : Nat
  stop : Nat
  found : String
  expected : List String
  hint : Option String
deriving DecidableEq, Repr

namespace Diagnostic

def ofFault (fault : Fault) : Diagnostic := ⟨fault, fault.defaultMessage, 0, 0, "", [], none⟩

def ofPlace (message : String) (place : Nat) (fault : Fault) : Diagnostic :=
  { ofFault fault with message, start := place, stop := place }

def withHint (diagnostic : Diagnostic) (hint : String) : Diagnostic :=
  { diagnostic with hint := some hint }

def text (diagnostic : Diagnostic) : String :=
  let found := if diagnostic.found.isEmpty then "" else s!", found '{diagnostic.found}'"
  let expected :=
    if diagnostic.expected.isEmpty then ""
    else ", expecting one of \x7b" ++ ", ".intercalate diagnostic.expected ++ "\x7d"
  s!"{diagnostic.fault.code} at {diagnostic.start}: {diagnostic.message}" ++ found ++ expected

def textWithHint (diagnostic : Diagnostic) : String :=
  match diagnostic.hint with
  | some hint => diagnostic.text ++ "\n  hint: " ++ hint
  | none => diagnostic.text

end Diagnostic

def quoted (texts : List String) : List String := texts.map fun text => "'" ++ text ++ "'"

end MeshLang
