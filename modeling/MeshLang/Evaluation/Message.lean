import MeshLang.Error
import MeshLang.Grammar.Operator
import MeshLang.Token

namespace MeshLang

variable {α : Type}

namespace Token

def shown (token : Token) : String :=
  if token.kind = .finish then token.kind.displayName else token.word

def diagnostic (token : Token) (fault : Fault) (message found : String)
    (expected : List String) : Diagnostic :=
  ⟨fault, message, token.offset, token.stop, found, expected, none⟩

def invalid (token : Token) : EvalError α :=
  .lexical (token.diagnostic .invalidCharacter s!"invalid character '{token.word}'" token.word [])

def unexpected (token : Token) (fault : Fault) (expected : List String) : EvalError α :=
  .grammar (token.diagnostic fault ("unexpected " ++ token.shown) token.shown expected)

def mismatch (token : Token) (fault : Fault) (message : String) (expected : List String) :
    EvalError α :=
  .grammar (token.diagnostic fault message token.word expected)

def wanted (token : Token) (expected : List String) : EvalError α :=
  if token.kind = .invalid then token.invalid else token.unexpected .unexpectedToken expected

def unclosed (token opening : Token) : EvalError α :=
  if token.kind = .invalid then token.invalid
  else
    let fault := if token.kind = .finish then Fault.unclosedParenthesis else .unexpectedToken
    (token.unexpected fault ["')'"]).withHint s!"parenthesis opened at {opening.offset}"

end Token

def checkLocations (symbol : String) (v w : Value α) (place : Token) :
    Except (EvalError α) Unit :=
  match v.location, w.location with
  | some left, some right =>
    if left = right then .ok ()
    else
      .error <| place.mismatch .differentLocations
        s!"'{symbol}' combines {v.describe} with {w.describe}" [left.text ++ " operand"]
  | _, _ => .ok ()

def continuations (kind : Kind) : List String :=
  quoted (BinaryOp.symbolsAfter kind) ++ (if kind = .logical then ["'?'"] else [])
    ++ (if kind.components.isEmpty then [] else ["'.'"]) ++ ["end of input"]

end MeshLang
