import MeshLang.Decimal

namespace MeshLang.Binary64

def twoTo (exponent : Nat) : Nat := Nat.pow 2 exponent

/-- What a double stands for. A finite one is `± mantissa · 2 ^ exponent`. -/
inductive Datum where
  | finite (negative : Bool) (mantissa : Nat) (exponent : Int)
  | infinity (negative : Bool)
  | undefined
deriving DecidableEq, Repr

def leastExponent : Int := -1074

def decodeWord (word : Nat) : Datum :=
  let negative := word / twoTo 63 % 2 == 1
  let field := word / twoTo 52 % twoTo 11
  let fraction := word % twoTo 52
  if field = 0x7FF then
    if fraction = 0 then .infinity negative else .undefined
  else if field = 0 then .finite negative fraction leastExponent
  else .finite negative (fraction + twoTo 52) (leastExponent + (field - 1 : Nat))

def decode (x : Float) : Datum := decodeWord x.toBits.toNat

def roundQuotient (numerator denominator : Nat) : Nat :=
  let floor := numerator / denominator
  let twice := 2 * (numerator % denominator)
  if twice > denominator || (twice == denominator && floor % 2 == 1) then floor + 1 else floor

def unscale (numerator denominator : Nat) (exponent : Int) : Nat × Nat :=
  if exponent < 0 then (numerator * twoTo (-exponent).toNat, denominator)
  else (numerator, denominator * twoTo exponent.toNat)

/-- Exponent of the last place of the double nearest to a positive quotient: the quotient then has
53 bits before the point, or fewer at the least exponent. -/
def lastPlace (numerator denominator : Nat) : Int :=
  let low := max leastExponent ((numerator.log2 : Int) - denominator.log2 - 53)
  let (scaled, unit) := unscale numerator denominator low
  if scaled / unit < twoTo 53 then low else low + 1

/-- The word of the double nearest to a quotient; a magnitude past the largest double is infinite.
Counting words upward from zero counts the doubles in order, so a carry out of the last bit of the
mantissa needs no case of its own. -/
def nearestWord (negative : Bool) (numerator denominator : Nat) : Nat :=
  let sign := if negative then twoTo 63 else 0
  if numerator = 0 then sign
  else
    let exponent := lastPlace numerator denominator
    let (scaled, unit) := unscale numerator denominator exponent
    let magnitude := (exponent - leastExponent).toNat * twoTo 52 + roundQuotient scaled unit
    sign + min magnitude (0x7FF * twoTo 52)

def nearest (negative : Bool) (numerator denominator : Nat) : Float :=
  Float.ofBits (UInt64.ofNat (nearestWord negative numerator denominator))

def ofDyadic (negative : Bool) (mantissa : Nat) (exponent : Int) : Float :=
  let (numerator, denominator) := unscale mantissa 1 (-exponent)
  nearest negative numerator denominator

/-- Decimal exponents outside of this range decide the result on their own. -/
def decimalReach : Int := 400

def ofDecimal (negative : Bool) (d : Decimal) : Float :=
  if d.digits = 0 then nearest negative 0 1
  else if d.exponent > decimalReach then nearest negative (twoTo 1024) 1
  else if d.exponent + (d.digits.log2 / 3 + 1 : Nat) < -decimalReach then nearest negative 0 1
  else if d.exponent < 0 then nearest negative d.digits (Decimal.tenTo (-d.exponent).toNat)
  else nearest negative (d.digits * Decimal.tenTo d.exponent.toNat) 1

def remainder (x y : Float) : Float :=
  match decode x, decode y with
  | .finite negative m p, .finite _ n q =>
    if n = 0 then 0.0 / 0.0
    else
      let unit := min p q
      let dividend := m * twoTo (p - unit).toNat
      let divisor := n * twoTo (q - unit).toNat
      ofDyadic negative (dividend % divisor) unit
  | .finite .., .infinity _ => x
  | _, _ => 0.0 / 0.0

/-- The order of doubles in which `-0` comes before `0` and undefined numbers come last, or first if
their sign is set. -/
def totalKey (x : Float) : Int :=
  let word := x.toBits.toNat
  if word < twoTo 63 then word else -(word - twoTo 63 : Nat) - 1

end MeshLang.Binary64
