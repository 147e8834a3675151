namespace MeshLang

inductive Pattern where
  | never
  | nothing
  | one (accepts : Char → Bool)
  | seq (first second : Pattern)
  | either (first second : Pattern)
  | many (repeated : Pattern)

namespace Pattern

/-- The texts that a pattern describes. -/
inductive Matches : Pattern → List Char → Prop where
  | nothing : Matches .nothing []
  | one {accepts : Char → Bool} {c : Char} (accepted : accepts c = true) :
      Matches (.one accepts) [c]
  | seq {p q : Pattern} {s t : List Char} (left : Matches p s) (right : Matches q t) :
      Matches (.seq p q) (s ++ t)
  | first {p q : Pattern} {s : List Char} (left : Matches p s) : Matches (.either p q) s
  | second {p q : Pattern} {s : List Char} (right : Matches q s) : Matches (.either p q) s
  | done {p : Pattern} : Matches (.many p) []
  | more {p : Pattern} {s t : List Char} (head : Matches p s) (tail : Matches (.many p) t) :
      Matches (.many p) (s ++ t)

def oneOf (members : List Char) : Pattern := .one members.contains

def literal : List Char → Pattern
  | [] => .nothing
  | c :: rest => .seq (oneOf [c]) (literal rest)

def atLeastOne (p : Pattern) : Pattern := .seq p (.many p)

def optional (p : Pattern) : Pattern := .either p .nothing

def andThen : Pattern → Pattern → Pattern
  | .never, _ => .never
  | .nothing, q => q
  | p, q => .seq p q

def orElse : Pattern → Pattern → Pattern
  | .never, q => q
  | p, .never => p
  | p, q => .either p q

def isNever : Pattern → Bool
  | .never => true
  | _ => false

def matchesEmpty : Pattern → Bool
  | .never | .one _ => false
  | .nothing | .many _ => true
  | .seq p q => p.matchesEmpty && q.matchesEmpty
  | .either p q => p.matchesEmpty || q.matchesEmpty

def derivative (c : Char) : Pattern → Pattern
  | .never | .nothing => .never
  | .one accepts => if accepts c then .nothing else .never
  | .seq p q =>
    let first := (p.derivative c).andThen q
    if p.matchesEmpty then first.orElse (q.derivative c) else first
  | .either p q => (p.derivative c).orElse (q.derivative c)
  | .many p => (p.derivative c).andThen (.many p)

/-- The number of characters of the longest start of a text that a pattern matches. -/
def longest? (p : Pattern) : List Char → Option Nat
  | [] => if p.matchesEmpty then some 0 else none
  | c :: rest =>
    let next := p.derivative c
    let further := if next.isNever then none else next.longest? rest
    match further with
    | some count => some (count + 1)
    | none => if p.matchesEmpty then some 0 else none

end Pattern

end MeshLang
