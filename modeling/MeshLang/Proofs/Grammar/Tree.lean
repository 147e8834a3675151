import MeshLang.Evaluation
import MeshLang.Proofs.Token.Lexeme

namespace MeshLang

structure Word where
  text : List Char
  lexed : TokenKind.first text = (.word, text.length)

namespace Word

def name (w : Word) : String := String.ofList w.text

def lexeme (w : Word) : Lexeme := ⟨.word, w.text, w.lexed, rfl⟩

def token (w : Word) : Token := ⟨.word, w.text, 0⟩

end Word

structure Literal where
  kind : TokenKind
  text : List Char
  lexed : TokenKind.first text = (kind, text.length)
  number : kind.isNumber = true

theorem TokenKind.isTrivia_of_isNumber {kind : TokenKind} (number : kind.isNumber = true) :
    kind.isTrivia = false := by
  cases kind <;> first | rfl | cases number

theorem TokenKind.eq_of_isNumber {kind : TokenKind} (number : kind.isNumber = true) :
    kind = .integer ∨ kind = .decimal := by
  cases kind <;> first | exact .inl rfl | exact .inr rfl | cases number

theorem Literal.kind_eq (n : Literal) : n.kind = .integer ∨ n.kind = .decimal :=
  TokenKind.eq_of_isNumber n.number

def Literal.lexeme (n : Literal) : Lexeme :=
  ⟨n.kind, n.text, n.lexed, TokenKind.isTrivia_of_isNumber n.number⟩

inductive Constant where
  | pi
  | true
  | false
deriving DecidableEq, Repr

namespace Constant

def lexeme : Constant → Lexeme
  | .pi => ⟨.piWord, "pi".toList, by decide, rfl⟩
  | .true => ⟨.trueWord, "true".toList, by decide, rfl⟩
  | .false => ⟨.falseWord, "false".toList, by decide, rfl⟩

def value {α : Type} [Scalar α] : Constant → Value α
  | .pi => .constantScalar Scalar.pi
  | .true => .constantLogical Bool.true
  | .false => .constantLogical Bool.false

end Constant

namespace Lexeme

def openParen : Lexeme := ⟨.openParen, ['('], by decide, rfl⟩

def closeParen : Lexeme := ⟨.closeParen, [')'], by decide, rfl⟩

def comma : Lexeme := ⟨.comma, [','], by decide, rfl⟩

def point : Lexeme := ⟨.point, ['.'], by decide, rfl⟩

def question : Lexeme := ⟨.question, ['?'], by decide, rfl⟩

def colon : Lexeme := ⟨.colon, [':'], by decide, rfl⟩

end Lexeme

namespace UnaryOp

def token : UnaryOp → TokenKind
  | .negate => .minus
  | .not => .bang

def lexeme (op : UnaryOp) : Lexeme :=
  ⟨op.token, op.symbol.toList, by cases op <;> decide, by cases op <;> rfl⟩

end UnaryOp

namespace BinaryOp

def token : BinaryOp → TokenKind
  | .add => .plus
  | .sub => .minus
  | .mul => .star
  | .div => .slash
  | .remainder => .percent
  | .inner => .ampersand
  | .cross => .caret
  | .doubleInner | .and => .doubleAmpersand
  | .less => .less
  | .greater => .greater
  | .lessEqual => .lessEqual
  | .greaterEqual => .greaterEqual
  | .equal => .equal
  | .notEqual => .notEqual
  | .or => .doubleBar

def lexeme (op : BinaryOp) : Lexeme :=
  ⟨op.token, op.symbol.toList, by cases op <;> decide, by cases op <;> rfl⟩

/-- The order of precedence, from the weakest: the choice has rank 0, signs before an operand have
rank 7, and what follows an operand has rank 8. -/
def rank : BinaryOp → Nat
  | .or => 1
  | .and => 2
  | .equal | .notEqual => 3
  | .less | .greater | .lessEqual | .greaterEqual => 4
  | .add | .sub => 5
  | .mul | .div | .remainder | .inner | .cross | .doubleInner => 6

end BinaryOp

/-- Expressions. The sign `&&` stands for two operators; which one it is the kind of the left operand
decides. A function may take expressions, a bare name, the name of a field of another mesh one step
back, or a seed. -/
inductive Tree where
  | literal (n : Literal)
  | constant (c : Constant)
  | name (w : Word)
  | sign (op : UnaryOp) (operand : Tree)
  | binary (op : BinaryOp) (left right : Tree)
  | choice (condition first second : Tree)
  | component (operand : Tree) (suffix : Word)
  | tensorPart (operand : Tree) (function : TensorFunction)
  | call (function : Word) (args : List Tree)
  | callNamed (function argument : Word)
  | callOld (mesh field : Word)
  | callSeeded (function : Word) (seed : Option Literal)

namespace Tree

def rank : Tree → Nat
  | .choice .. => 0
  | .binary op .. => op.rank
  | .sign .. => 7
  | .component .. | .tensorPart .. => 8
  | _ => 9

end Tree

def enclose (weak : Bool) (ls : List Lexeme) : List Lexeme :=
  if weak then .openParen :: ls ++ [.closeParen] else ls

def TensorFunction.word (function : TensorFunction) : Word :=
  ⟨function.name.toList, by cases function <;> decide +kernel⟩

def oldTimeWord : Word := ⟨"oldTime".toList, by decide +kernel⟩

mutual

/-- The lexemes of a tree. Operators group to the left, the choice to the right. -/
def Tree.print : Tree → List Lexeme
  | .literal n => [n.lexeme]
  | .constant c => [c.lexeme]
  | .name w => [w.lexeme]
  | .sign op operand => op.lexeme :: enclose (operand.rank < 7) operand.print
  | .binary op left right =>
    enclose (left.rank < op.rank) left.print
      ++ op.lexeme :: enclose (right.rank < op.rank + 1) right.print
  | .choice condition first second =>
    enclose (condition.rank < 1) condition.print
      ++ .question :: (first.print ++ .colon :: second.print)
  | .component operand suffix =>
    enclose (operand.rank < 8) operand.print ++ [.point, suffix.lexeme]
  | .tensorPart operand function =>
    enclose (operand.rank < 8) operand.print
      ++ [.point, function.word.lexeme, .openParen, .closeParen]
  | .call function args => function.lexeme :: .openParen :: (Tree.printAll args ++ [.closeParen])
  | .callNamed function argument => [function.lexeme, .openParen, argument.lexeme, .closeParen]
  | .callOld mesh field =>
    [mesh.lexeme, .openParen, oldTimeWord.lexeme, .openParen, field.lexeme, .closeParen, .closeParen]
  | .callSeeded function seed =>
    function.lexeme :: .openParen :: (seed.toList.map Literal.lexeme ++ [.closeParen])

def Tree.printAll : List Tree → List Lexeme
  | [] => []
  | [tree] => tree.print
  | tree :: next :: rest => tree.print ++ .comma :: Tree.printAll (next :: rest)

end

theorem enclose_start {ls : List Lexeme} (start : ∃ l rest, ls = l :: rest ∧ l.kind ≠ .closeParen)
    (weak : Bool) (behind : List Lexeme) :
    ∃ l rest, enclose weak ls ++ behind = l :: rest ∧ l.kind ≠ .closeParen := by
  obtain ⟨l, rest, rfl, other⟩ := start
  cases weak with
  | true => exact ⟨.openParen, _, rfl, by decide⟩
  | false => exact ⟨l, rest ++ behind, rfl, other⟩

theorem Tree.print_start : ∀ tree : Tree, ∃ l rest, tree.print = l :: rest ∧ l.kind ≠ .closeParen
  | .literal n => ⟨n.lexeme, [], by rw [print], by
      rcases n.kind_eq with kind | kind <;> simp [Literal.lexeme, kind]⟩
  | .constant c => ⟨c.lexeme, [], by rw [print], by cases c <;> decide⟩
  | .name w => ⟨w.lexeme, [], by rw [print], by simp [Word.lexeme]⟩
  | .sign op operand => ⟨op.lexeme, _, by rw [print], by cases op <;> decide⟩
  | .binary op left right => by
    rw [print]
    exact enclose_start left.print_start _ _
  | .choice condition first second => by
    rw [print]
    exact enclose_start condition.print_start _ _
  | .component operand suffix => by
    rw [print]
    exact enclose_start operand.print_start _ _
  | .tensorPart operand function => by
    rw [print]
    exact enclose_start operand.print_start _ _
  | .call function args => ⟨function.lexeme, _, by rw [print], by simp [Word.lexeme]⟩
  | .callNamed function argument => ⟨function.lexeme, _, by rw [print], by simp [Word.lexeme]⟩
  | .callOld mesh field => ⟨mesh.lexeme, _, by rw [print], by simp [Word.lexeme]⟩
  | .callSeeded function seed => ⟨function.lexeme, _, by rw [print], by simp [Word.lexeme]⟩

section Meaning

def Literal.seed? (n : Literal) : Option UInt64 :=
  let seed := Decimal.natural 0 n.text
  if n.kind = .integer && seed < UInt64.size then some (UInt64.ofNat seed) else none

variable {α : Type}

def Value.meets (v w : Value α) : Bool :=
  match v.location, w.location with
  | some left, some right => left = right
  | _, _ => true

variable [Scalar α]

def UnaryOp.reduce? (op : UnaryOp) (v : Value α) : Option (Value α) := do
  let kind ← op.result? v.kind
  let result ← (op.apply v).toOption
  return result.relabel kind

def BinaryOp.reduce? (op : BinaryOp) (v w : Value α) : Option (Value α) := do
  let kind ← op.result? v.kind w.kind
  guard (v.meets w)
  let result ← (op.apply v w).toOption
  return result.relabel kind

def Value.choice? (condition v w : Value α) : Option (Value α) := do
  let kind ← choiceResult? condition.kind v.kind w.kind
  guard (condition.meets v && v.meets w && condition.meets w)
  let result ← (Value.select condition v w).toOption
  return result.relabel kind

def Value.tensorPart? (function : TensorFunction) (v : Value α) : Option (Value α) := do
  guard v.kind.isTensorLike
  (v.applyTensor function).toOption

namespace Environment

variable (env : Environment α)

def name? (w : Word) : Option (Value α) :=
  if w.name = "unitTensor" then some (.constantTensor .tensor Mat3.identity)
  else (env.lookup w.name).toOption.map env.options.adopt

def call? (function : Word) (values : List (Value α)) : Option (Value α) :=
  let args := values.map fun v => (⟨v, function.token⟩ : Argument α)
  match Builtin.ofName? function.name with
  | some builtin =>
    match builtin.shape with
    | .expressions least most =>
      if values.length < least || most < values.length then none
      else (env.apply builtin function.token args).toOption
    | _ => none
  | none =>
    match env.repository.tables.get? function.name with
    | some table => (env.applyTable table function.token args).toOption
    | none => none

def foreign? (mesh field : Word) (old : Bool) : Option (Value α) :=
  match Builtin.ofName? mesh.name, env.repository.tables.get? mesh.name,
    env.repository.foreign.get? mesh.name with
  | none, none, some region => (env.applyForeign region mesh.token field.token old).toOption
  | _, _, _ => none

def callNamed? (function argument : Word) : Option (Value α) :=
  match Builtin.ofName? function.name with
  | some builtin =>
    if builtin.shape = .name then (env.applyNamed builtin argument.token).toOption else none
  | none => env.foreign? function argument false

def random (isNormal : Bool) (seed : Option UInt64) (g : Generator) : Value α × Generator :=
  let sample (g : Generator) : List α × Generator := Generator.sample isNormal env.mesh.cells.length g
  match seed with
  | some seed => (.scalar .volume (sample (.ofSeed seed)).1, g)
  | none => (.scalar .volume (sample g).1, (sample g).2)

def callSeeded? (function : Word) (seed : Option Literal) (g : Generator) :
    Option (Value α × Generator) :=
  match Builtin.ofName? function.name with
  | some (.random isNormal false) =>
    match seed with
    | none => some (env.random isNormal none g)
    | some n => n.seed?.map fun seed => env.random isNormal (some seed) g
  | _ => none

end Environment

mutual

/-- The value of a tree and the generator after it. -/
def Tree.eval (env : Environment α) : Tree → Generator → Option (Value α × Generator)
  | .literal n, g => (Decimal.read? n.text).map fun d => (.constantScalar (Scalar.ofDecimal d), g)
  | .constant c, g => some (c.value, g)
  | .name w, g => (env.name? w).map (·, g)
  | .sign op operand, g => do
    let (v, g) ← operand.eval env g
    return (← op.reduce? v, g)
  | .binary op left right, g => do
    let (v, g) ← left.eval env g
    let (w, g) ← right.eval env g
    return (← op.reduce? v w, g)
  | .choice condition first second, g => do
    let (c, g) ← condition.eval env g
    let (v, g) ← first.eval env g
    let (w, g) ← second.eval env g
    return (← Value.choice? c v w, g)
  | .component operand suffix, g => do
    let (v, g) ← operand.eval env g
    return (← v.component? suffix.name, g)
  | .tensorPart operand function, g => do
    let (v, g) ← operand.eval env g
    return (← v.tensorPart? function, g)
  | .call function args, g => do
    let (values, g) ← Tree.evalAll env args g
    return (← env.call? function values, g)
  | .callNamed function argument, g => (env.callNamed? function argument).map (·, g)
  | .callOld mesh field, g => (env.foreign? mesh field true).map (·, g)
  | .callSeeded function seed, g => env.callSeeded? function seed g

def Tree.evalAll (env : Environment α) : List Tree → Generator → Option (List (Value α) × Generator)
  | [], g => some ([], g)
  | tree :: rest, g => do
    let (v, g) ← tree.eval env g
    let (values, g) ← Tree.evalAll env rest g
    return (v :: values, g)

end

end Meaning

end MeshLang
