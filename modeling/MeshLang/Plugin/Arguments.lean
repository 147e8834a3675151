import MeshLang.Error
import MeshLang.Text.Blank
import MeshLang.Text.Identifier
import MeshLang.Token

namespace MeshLang

inductive Script (α β : Type) where
  | done (answer : β)
  | argument (start : Nat) (expected : Option ValueType)
      (next : Except (EvalError α) (Value α × Nat) → Script α β)

namespace Script

variable {α β γ : Type}

def andThen : Script α β → (β → Script α γ) → Script α γ
  | .done answer, next => next answer
  | .argument start expected further, next =>
    .argument start expected fun told => (further told).andThen next

instance : Monad (Script α) where
  pure := .done
  bind := .andThen

end Script

def Token.number? {α : Type} [Scalar α] (token : Token) : Option α :=
  if token.kind = .piWord then some Scalar.pi
  else if token.kind.isNumber then (Decimal.read? token.text).map Scalar.ofDecimal
  else none

/-- The part of a plugin's text that has not been read, with the bytes read so far. -/
abbrev Arguments := Cursor

namespace Arguments

variable {α : Type}

def ofText (text : List Char) : Arguments := Cursor.ofText text

/-- The failure to find something: it is reported after the blanks that stand at this place. -/
def missing (args : Arguments) (what : String) : PluginError α :=
  let blanks := args.rest.takeWhile Text.isBlank
  .expected what (args.offset + Text.byteSize blanks)

def sign (args : Arguments) (kind : TokenKind) : Except (PluginError α) (Unit × Arguments) :=
  match args.next? with
  | some (token, rest) =>
    if token.kind = kind then .ok ((), rest) else .error (args.missing kind.displayName)
  | none => .error (args.missing kind.displayName)

def openList (args : Arguments) : Except (PluginError α) (Unit × Arguments) := args.sign .openParen

def separator (args : Arguments) : Except (PluginError α) (Unit × Arguments) := args.sign .comma

def closeList (args : Arguments) : Except (PluginError α) (Unit × Arguments) :=
  args.sign .closeParen

def atClose (args : Arguments) : Bool := args.current.kind = .closeParen

def word (args : Arguments) : Except (PluginError α) (String × Arguments) :=
  let blanks := args.rest.takeWhile Text.isBlank
  match args.rest.dropWhile Text.isBlank with
  | [] => .error (args.missing "name")
  | c :: rest =>
    if Text.startsIdentifier c || c == '_' then
      let name := c :: rest.takeWhile Text.continuesIdentifier
      .ok (String.ofList name,
        { args with
          rest := rest.dropWhile Text.continuesIdentifier
          offset := args.offset + Text.byteSize blanks + Text.byteSize name })
    else .error (args.missing "name")

def signed? (args : Arguments) : Option (Bool × Token × Arguments) :=
  match args.next? with
  | none => none
  | some (token, rest) =>
    if token.kind = .minus then rest.next?.map fun (token, rest) => (true, token, rest)
    else some (false, token, rest)

def scalar [Scalar α] (args : Arguments) : Except (PluginError α) (α × Arguments) :=
  match args.signed? with
  | none => .error (args.missing "number")
  | some (negative, token, rest) =>
    match (token.number? : Option α) with
    | some size => .ok (if negative then -size else size, rest)
    | none => .error (args.missing "number")

/-- An integer of 64 bits, with or without a minus. The digits by themselves have to fit, so that
the least integer cannot be written. -/
def integer (args : Arguments) : Except (PluginError α) (Int × Arguments) :=
  match args.signed? with
  | none => .error (args.missing "integer")
  | some (negative, token, rest) =>
    if token.kind = .integer then
      let size := Decimal.natural 0 token.text
      if size < UInt64.size / 2 then .ok (if negative then -(size : Int) else size, rest)
      else .error (args.missing "integer")
    else .error (args.missing "integer")

def afterExpression (args : Arguments) :
    Except (EvalError α) (Value α × Nat) → Except (PluginError α) (Value α × Arguments)
  | .ok (value, stop) =>
    .ok (value, { args with
      rest := (Text.dropBytes? (stop - args.offset) args.rest).getD []
      offset := stop })
  | .error error => .error (.argument args.offset error)

end Arguments

/-- A plugin's way through its arguments, one after the other. Each step either moves past what it
has read or fails and stays where it is. -/
def Reading (α β : Type) : Type :=
  Arguments → Script α (Except (PluginError α) (β × Arguments))

namespace Reading

variable {α β γ : Type}

def fail (error : PluginError α) : Reading α β := fun _ => .done (.error error)

def step (read : Arguments → Except (PluginError α) (β × Arguments)) : Reading α β :=
  fun args => .done (read args)

def andThen (first : Reading α β) (next : β → Reading α γ) : Reading α γ := fun args =>
  (first args).andThen fun
    | .ok (answer, rest) => next answer rest
    | .error error => .done (.error error)

instance : Monad (Reading α) where
  pure answer := fun args => .done (.ok (answer, args))
  bind := andThen

def expression (expected : Option ValueType) : Reading α (Value α) := fun args =>
  .argument args.offset expected fun told => .done (args.afterExpression told)

def consumed : Reading α Nat := fun args => .done (.ok (args.offset, args))

def run (reading : Reading α β) (text : List Char) : Script α (Except (PluginError α) β) :=
  (reading (.ofText text)).andThen fun answer => .done (answer.map (·.1))

end Reading

end MeshLang
