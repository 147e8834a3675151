import MeshLang.Decimal
import MeshLang.Scalar.Binary64

namespace MeshLang.Decimal

def significant (count numerator denominator : Nat) : Nat × Int :=
  let exponent := leadingExponent numerator denominator
  let (scaled, unit) := shift numerator denominator (exponent - (count - 1 : Nat))
  let digits := Binary64.roundQuotient scaled unit
  if digits = tenTo count then (tenTo (count - 1), exponent + 1) else (digits, exponent)

/-- A first digit, a point if more digits follow, and a signed exponent. Digits are rounded from the
exact value, a tie to the even neighbour, and zeros at the end are dropped. -/
def scientificText (digits : List Char) (exponent : Int) : String :=
  let mantissa := match withoutTrailingZeros digits with
    | [] => ['0']
    | [first] => [first]
    | first :: rest => first :: '.' :: rest
  let sign := if exponent < 0 then "e-" else "e+"
  String.ofList mantissa ++ sign ++ toString exponent.natAbs

def scientific (count numerator denominator : Nat) : String :=
  let (digits, exponent) := significant (max count 1) numerator denominator
  scientificText (naturalText digits) exponent

end MeshLang.Decimal
