import MeshLang.Session

namespace MeshLang

/-- A reader of arguments in place: a text, how many of its bytes have been consumed, and the
session that evaluates the expressions in it. -/
structure Reader (α : Type) where
  session : Session α
  text : List Char
  consumed : Nat

namespace Reader

inductive Fault (α : Type) where
  | crash
  | failure (error : PluginError α)

abbrev Step (α β : Type) := EStateM (Fault α) (Reader α) β

variable {α β : Type}

def ofText (session : Session α) (text : List Char) : Reader α := ⟨session, text, 0⟩

def ahead (reader : Reader α) : Arguments := Cursor.within 0 reader.text reader.consumed

def cut (start : Nat) : Step α (List Char) := do
  match Text.dropBytes? start (← get).text with
  | some rest => return rest
  | none => throw .crash

def remaining : Step α (List Char) := do cut (← get).consumed

def behindBlanks : Step α Nat := do
  let rest ← remaining
  return (← get).consumed + (Text.byteSize rest - Text.byteSize (Text.trimStart rest))

def consumeTo (stop : Nat) : Step α Unit :=
  modify fun reader => { reader with consumed := stop }

def missing (what : String) : Step α β := do
  throw (.failure (.expected what (← behindBlanks)))

def sign (kind : TokenKind) : Step α Unit := do
  match (← get).ahead.next? with
  | some (token, _) => if token.kind = kind then consumeTo token.stop else missing kind.displayName
  | none => missing kind.displayName

def atClose : Step α Bool :=
  return (← get).ahead.next?.any fun (token, _) => token.kind = .closeParen

def word : Step α String := do
  let start ← behindBlanks
  match ← cut start with
  | [] => missing "name"
  | c :: rest =>
    if Text.startsIdentifier c || c == '_' then
      let name := c :: rest.takeWhile Text.continuesIdentifier
      consumeTo (start + Text.byteSize name)
      return String.ofList name
    else missing "name"

def scalar [Scalar α] : Step α α := do
  match (← get).ahead.signed? with
  | none => missing "number"
  | some (negative, token, _) =>
    match (token.number? : Option α) with
    | none => missing "number"
    | some size =>
      consumeTo token.stop
      return if negative then -size else size

def int64? (digits : List Char) : Option Int64 :=
  let size := Decimal.natural 0 digits
  if size < UInt64.size / 2 then some (Int64.ofNat size) else none

def negate (n : Int64) : Step α Int64 := if n = Int64.minValue then throw .crash else return -n

def integer : Step α Int := do
  match (← get).ahead.signed? with
  | none => missing "integer"
  | some (negative, token, _) =>
    if token.kind = .integer then
      match int64? token.text with
      | none => missing "integer"
      | some size =>
        consumeTo token.stop
        return (← if negative then negate size else pure size).toInt
    else missing "integer"

variable [Scalar α]

def expression (expected : Option ValueType) : Step α (Value α) := do
  let reader ← get
  let (session, told) := reader.session.argument reader.text reader.consumed expected
  set { reader with session }
  match told with
  | .ok (v, stop) =>
    consumeTo stop
    return v
  | .error error => throw (.failure (.argument reader.consumed error))

inductive Call where
  | openList
  | separator
  | closeList
  | atClose
  | word
  | scalar
  | integer
  | expression (expected : Option ValueType)
deriving DecidableEq, Repr

inductive Answer (α : Type) where
  | done
  | truth (holds : Bool)
  | word (name : String)
  | scalar (x : α)
  | integer (n : Int)
  | value (v : Value α)

def Call.step : Call → Step α (Answer α)
  | .openList => do sign .openParen; return .done
  | .separator => do sign .comma; return .done
  | .closeList => do sign .closeParen; return .done
  | .atClose => return .truth (← Reader.atClose)
  | .word => return .word (← Reader.word)
  | .scalar => return .scalar (← Reader.scalar)
  | .integer => return .integer (← Reader.integer)
  | .expression expected => return .value (← Reader.expression expected)

/-- The answer to a call and the reader after it, whether the call fails or not; none for a crash,
which is to cut the text inside a character or to negate the least integer. -/
def perform (reader : Reader α) (call : Call) :
    Option (Except (PluginError α) (Answer α) × Reader α) :=
  match call.step reader with
  | .ok answer after => some (.ok answer, after)
  | .error (.failure error) after => some (.error error, after)
  | .error .crash _ => none

def performAll (reader : Reader α) :
    List Call → Option (List (Except (PluginError α) (Answer α)) × Reader α)
  | [] => some ([], reader)
  | call :: calls => do
    let (answer, after) ← reader.perform call
    let (answers, last) ← after.performAll calls
    return (answer :: answers, last)

end Reader

end MeshLang
