import MeshLang.Scalar
import MeshLang.Text.Blank

namespace MeshLang

/-- Exponents of the seven base quantities, written `[mass length time temperature moles current
luminous]`. -/
structure Dimensions (α : Type) where
  mass : α
  length : α
  time : α
  temperature : α
  moles : α
  current : α
  luminous : α
deriving DecidableEq, Repr

inductive DimensionsError where
  | missingBrackets
  | wrongCount (found : Nat)
  | invalidExponent (part : String)
deriving DecidableEq, Repr

def DimensionsError.message : DimensionsError → String
  | .missingBrackets => "dimension set must be enclosed in '[' and ']'"
  | .wrongCount found => "expected 7 exponents, found " ++ toString found
  | .invalidExponent part => "invalid exponent '" ++ part ++ "'"

namespace Dimensions

variable {α : Type}

def exponents (d : Dimensions α) : List α :=
  [d.mass, d.length, d.time, d.temperature, d.moles, d.current, d.luminous]

def map (f : α → α) (d : Dimensions α) : Dimensions α :=
  ⟨f d.mass, f d.length, f d.time, f d.temperature, f d.moles, f d.current, f d.luminous⟩

def zipWith (f : α → α → α) (d e : Dimensions α) : Dimensions α :=
  ⟨f d.mass e.mass, f d.length e.length, f d.time e.time, f d.temperature e.temperature,
   f d.moles e.moles, f d.current e.current, f d.luminous e.luminous⟩

section Arithmetic

variable [Scalar α]

def dimensionless : Dimensions α :=
  ⟨Scalar.zero, Scalar.zero, Scalar.zero, Scalar.zero, Scalar.zero, Scalar.zero, Scalar.zero⟩

def isDimensionless (d : Dimensions α) : Bool := d.exponents.all (Scalar.eq · Scalar.zero)

def agrees (d e : Dimensions α) : Bool :=
  (d.exponents.zip e.exponents).all fun (a, b) => Scalar.eq a b

def multiply (d e : Dimensions α) : Dimensions α := zipWith (· + ·) d e

def divide (d e : Dimensions α) : Dimensions α := zipWith (· - ·) d e

def pow (d : Dimensions α) (exponent : α) : Dimensions α := d.map (· * exponent)

end Arithmetic

section Writing

variable [Numeral α]

def text (d : Dimensions α) : String :=
  "[" ++ " ".intercalate (d.exponents.map Numeral.write) ++ "]"

def readExponents : List (List Char) → Except DimensionsError (List α)
  | [] => .ok []
  | part :: rest =>
    match Numeral.read? part with
    | none => .error (.invalidExponent (String.ofList part))
    | some exponent => (readExponents rest).map (exponent :: ·)

def insideBrackets? : List Char → Option (List Char)
  | '[' :: rest =>
    match rest.reverse with
    | ']' :: inner => some inner.reverse
    | _ => none
  | _ => none

/-- Seven numbers in brackets, separated by white space. Missing brackets are reported first, then a
wrong count, then the first part that is no number. -/
def ofText (source : List Char) : Except DimensionsError (Dimensions α) :=
  match insideBrackets? (Text.trim source) with
  | none => .error .missingBrackets
  | some inner =>
    let parts := Text.words inner
    if parts.length ≠ 7 then .error (.wrongCount parts.length)
    else
      match readExponents parts with
      | .error e => .error e
      | .ok [mass, length, time, temperature, moles, current, luminous] =>
        .ok ⟨mass, length, time, temperature, moles, current, luminous⟩
      | .ok exponents => .error (.wrongCount exponents.length)

end Writing

end Dimensions

end MeshLang
