import MeshLang.Decimal
import MeshLang.Scalar.Binary64

namespace MeshLang.Decimal

/-- The numbers that round to a double, scaled to naturals over one denominator: `low` and `high`
are the ends, which belong to it when the mantissa is even. -/
structure Interval where
  low : Nat
  value : Nat
  high : Nat
  denominator : Nat
  closed : Bool

/-- The neighbour below a power of two is half as far away as the one above it. -/
def Interval.ofDyadic (mantissa : Nat) (exponent : Int) : Interval :=
  let narrow := mantissa == Binary64.twoTo 52 && exponent != Binary64.leastExponent
  let (unit, denominator) := Binary64.unscale 1 1 (2 - exponent)
  ⟨(4 * mantissa - if narrow then 1 else 2) * unit, 4 * mantissa * unit,
   (4 * mantissa + 2) * unit, denominator, mantissa % 2 == 0⟩

def Interval.holds (range : Interval) (numerator denominator : Nat) : Bool :=
  let point := numerator * range.denominator
  if range.closed then range.low * denominator ≤ point && point ≤ range.high * denominator
  else range.low * denominator < point && point < range.high * denominator

/-- The number of a decimal grid that lies in the interval nearest to its value, if one does. The
grid has `count` digits for a number whose first digit has the given exponent. -/
def Interval.gridPoint? (range : Interval) (leading : Int) (count : Nat) : Option (Nat × Int) :=
  let exponent := leading - (count - 1 : Nat)
  let (scaled, unit) := shift range.value range.denominator exponent
  let below := scaled / unit
  let inside (digits : Nat) : Bool :=
    if exponent < 0 then range.holds digits (tenTo (-exponent).toNat)
    else range.holds (digits * tenTo exponent.toNat) 1
  let nearer := if 2 * (scaled % unit) < unit then below else below + 1
  let farther := if 2 * (scaled % unit) < unit then below + 1 else below
  if inside nearer then some (nearer, exponent)
  else if inside farther then some (farther, exponent)
  else none

/-- The coarsest grid that has a number in the interval gives the digits; seventeen always do. -/
def shortest (mantissa : Nat) (exponent : Int) : Nat × Int :=
  let range := Interval.ofDyadic mantissa exponent
  let leading := leadingExponent range.value range.denominator
  let counts := (List.range 17).map (· + 1)
  (counts.findSome? (range.gridPoint? leading)).getD (mantissa, exponent)

def plainText (digits : List Char) (exponent : Int) : List Char :=
  if 0 ≤ exponent then digits ++ List.replicate exponent.toNat '0'
  else
    let places := (-exponent).toNat
    if places < digits.length then
      digits.take (digits.length - places) ++ '.' :: digits.drop (digits.length - places)
    else '0' :: '.' :: (List.replicate (places - digits.length) '0' ++ digits)

/-- The shortest text that reads back as the double, of several the nearest one, without an exponent
and without a point that nothing follows; the sign is written even before zero. -/
def shortestText (x : Float) : String :=
  match Binary64.decode x with
  | .undefined => "NaN"
  | .infinity negative => if negative then "-inf" else "inf"
  | .finite negative mantissa exponent =>
    let body := if mantissa = 0 then ['0']
      else
        let (number, scale) := shortest mantissa exponent
        let digits := naturalText number
        let kept := withoutTrailingZeros digits
        plainText kept (scale + (digits.length - kept.length : Nat))
    String.ofList (if negative then '-' :: body else body)

end MeshLang.Decimal
