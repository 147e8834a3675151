namespace MeshLang.Special

def polynomial (coefficients : List Float) (x : Float) : Float :=
  coefficients.foldr (fun coefficient sum => coefficient + x * sum) 0

/-- A quotient of polynomials; the denominator's constant coefficient is one and is not listed. -/
structure Rational where
  numerator : List Float
  denominator : List Float

def Rational.value (r : Rational) (x : Float) : Float :=
  polynomial r.numerator x / (1 + x * polynomial r.denominator x)

def erfNearZero : Rational where
  numerator := [1.28379167095512558561e-01, -3.25042107247001499370e-01,
    -2.84817495755985104766e-02, -5.77027029648944159157e-03, -2.37630166566501626084e-05]
  denominator := [3.97917223959155352819e-01, 6.50222499887672944485e-02,
    5.08130628187576562776e-03, 1.32494738004321644526e-04, -3.96022827877536812320e-06]

def erfNearOne : Rational where
  numerator := [-2.36211856075265944077e-03, 4.14856118683748331666e-01,
    -3.72207876035701323847e-01, 3.18346619901161753674e-01, -1.10894694282396677476e-01,
    3.54783043256182359371e-02, -2.16637559486879084300e-03]
  denominator := [1.06420880400844228286e-01, 5.40397917702171048937e-01,
    7.18286544141962662868e-02, 1.26171219808761642112e-01, 1.36370839120290507362e-02,
    1.19844998467991074170e-02]

def erfNearOneOffset : Float := 8.45062911510467529297e-01

def erfcMiddle : Rational where
  numerator := [-9.86494403484714822705e-03, -6.93858572707181764372e-01,
    -1.05586262253232909814e+01, -6.23753324503260060396e+01, -1.62396669462573470355e+02,
    -1.84605092906711035994e+02, -8.12874355063065934246e+01, -9.81432934416914548592e+00]
  denominator := [1.96512716674392571292e+01, 1.37657754143519042600e+02,
    4.34565877475229228821e+02, 6.45387271733267880336e+02, 4.29008140027567833386e+02,
    1.08635005541779435134e+02, 6.57024977031928170135e+00, -6.04244152148580987438e-02]

def erfcFar : Rational where
  numerator := [-9.86494292470009928597e-03, -7.99283237680523006574e-01,
    -1.77579549177547519889e+01, -1.60636384855821916062e+02, -6.37566443368389627722e+02,
    -1.02509513161107724954e+03, -4.83519191608651397019e+02]
  denominator := [3.03380607434824582924e+01, 3.25792512996573918826e+02,
    1.53672958608443695994e+03, 3.19985821950859553908e+03, 2.55305040643316442583e+03,
    4.74528541206955367215e+02, -2.24409524465858183362e+01]

def upperHalf (x : Float) : Float := Float.ofBits (x.toBits &&& 0xFFFFFFFF00000000)

/-- The complement for a magnitude `x` from 0.84375 to 28. Far out the square is taken in two parts,
of which the first is exact. -/
def erfcPositive (x : Float) : Float :=
  if x < 1.25 then 1 - erfNearOneOffset - erfNearOne.value (x - 1)
  else
    let approximation := if x < 1 / 0.35 then erfcMiddle else erfcFar
    let head := upperHalf x
    Float.exp (-head * head - 0.5625)
      * Float.exp ((head - x) * (head + x) + approximation.value (1 / (x * x))) / x

def erf (x : Float) : Float :=
  let size := x.abs
  if x.isNaN then x
  else if size < 0.84375 then
    if size < 3.725290298461914e-09 then 0.125 * (8 * x + 1.02703333676410069053e+00 * x)
    else x + x * erfNearZero.value (x * x)
  else
    let tail := if size < 6 then 1 - erfcPositive size else 1
    if x < 0 then -tail else tail

def erfc (x : Float) : Float :=
  let size := x.abs
  if x.isNaN then x
  else if size < 0.84375 then
    let ratio := erfNearZero.value (x * x)
    if x < 0.25 then 1 - (x + x * ratio) else 0.5 - (x - 0.5 + x * ratio)
  else if size < 28 then
    if x < 0 then 2 - erfcPositive size else erfcPositive size
  else if x < 0 then 2 else 0

def gammaNearTwoEven : List Float :=
  [7.72156649015328655494e-02, 6.73523010531292681824e-02, 7.38555086081402883957e-03,
   1.19270763183362067845e-03, 2.20862790713908385557e-04, 2.52144565451257326939e-05]

def gammaNearTwoOdd : List Float :=
  [3.22467033424113591611e-01, 2.05808084325167332806e-02, 2.89051383673415629091e-03,
   5.10069792153511336608e-04, 1.08011567247583939954e-04, 4.48640949618915160150e-05]

def gammaLeastAt : Float := 1.46163214496836224576e+00

def gammaLeast : Float := -1.21486290535849611461e-01

def gammaLeastRest : Float := -3.63867699703950536541e-18

def gammaNearLeastFirst : List Float :=
  [4.83836122723810047042e-01, -3.27885410759859649565e-02, 6.10053870246291332635e-03,
   -1.40346469989232843813e-03, 3.15632070903625950361e-04]

def gammaNearLeastSecond : List Float :=
  [-1.47587722994593911752e-01, 1.79706750811820387126e-02, -3.68452016781138256760e-03,
   8.81081882437654011382e-04, -3.12754168375120860518e-04]

def gammaNearLeastThird : List Float :=
  [6.46249402391333854778e-02, -1.03142241298341437450e-02, 2.25964780900612472250e-03,
   -5.38595305356740546715e-04, 3.35529192635519073543e-04]

def gammaNearOne : Rational where
  numerator := [-7.72156649015328655494e-02, 6.32827064025093366517e-01,
    1.45492250137234768737e+00, 9.77717527963372745603e-01, 2.28963728064692451092e-01,
    1.33810918536787660377e-02]
  denominator := [2.45597793713041134822e+00, 2.12848976379893395361e+00,
    7.69285150456672783825e-01, 1.04222645593369134254e-01, 3.21709242282423911810e-03]

def gammaUnitTop : List Float :=
  [-7.72156649015328655494e-02, 2.14982415960608852501e-01, 3.25778796408930981787e-01,
   1.46350472652464452805e-01, 2.66422703033638609560e-02, 1.84028451407337715652e-03,
   3.19475326584100867617e-05]

def gammaUnitBottom : List Float :=
  [1.39200533467621045958e+00, 7.21935547567138069525e-01, 1.71933865632803078993e-01,
   1.86459191715652901344e-02, 7.77942496381893596434e-04, 7.32668430744625636189e-06]

def gammaStirling : List Float :=
  [8.33333333333329678849e-02, -2.77777777728775536470e-03, 7.93650558643019558500e-04,
   -5.95187557450339963135e-04, 8.36339918996282139126e-04, -1.63092934096575273989e-03]

def gammaStirlingConstant : Float := 4.18938533204672725052e-01

def gammaBelowTwo (y : Float) : Float :=
  let z := y * y
  y * polynomial gammaNearTwoEven z + z * polynomial gammaNearTwoOdd z - 0.5 * y

def gammaAroundLeast (y : Float) : Float :=
  let z := y * y
  let w := z * y
  let first := polynomial gammaNearLeastFirst w
  let second := polynomial gammaNearLeastSecond w
  let third := polynomial gammaNearLeastThird w
  gammaLeast + (z * first - (gammaLeastRest - w * (second + y * third)))

def gammaAboveOne (y : Float) : Float := -0.5 * y + y * gammaNearOne.value y

/-- `log Γ` below two, by the range that the number lies in; below 0.9 one step of the recurrence
leads there. -/
def gammaSmall (x : Float) : Float :=
  if x <= 0.9 then
    let shifted :=
      if x >= 0.7316 then gammaBelowTwo (1 - x)
      else if x >= 0.23164 then gammaAroundLeast (x - (gammaLeastAt - 1))
      else gammaAboveOne x
    shifted - Float.log x
  else if x >= 1.7316 then gammaBelowTwo (2 - x)
  else if x >= 1.23 then gammaAroundLeast (x - gammaLeastAt)
  else gammaAboveOne (x - 1)

def gammaPositive (x : Float) : Float :=
  if x == 1 || x == 2 then 0
  else if x < 2 then gammaSmall x
  else if x < 8 then
    let whole := x.floor
    let y := x - whole
    let base := 0.5 * y + y * polynomial gammaUnitTop y / (1 + y * polynomial gammaUnitBottom y)
    let steps := (List.range (whole.toUInt64.toNat - 2)).map fun k => y + (k + 2 : Nat).toFloat
    base + Float.log (steps.foldr (fun factor product => product * factor) 1)
  else if x < 288230376151711744 then
    let z := 1 / x
    (x - 0.5) * (Float.log x - 1) + (gammaStirlingConstant + z * polynomial gammaStirling (z * z))
  else x * (Float.log x - 1)

def sinPi (x : Float) : Float :=
  let pi := Float.ofBits 0x400921FB54442D18
  let reduced := 2 * (x * 0.5 - (x * 0.5).floor)
  let quarter := (((reduced * 4).toUInt64.toNat + 1) / 2)
  let angle := (reduced - quarter.toFloat * 0.5) * pi
  match quarter % 4 with
  | 0 => Float.sin angle
  | 1 => Float.cos angle
  | 2 => Float.sin (-angle)
  | _ => -Float.cos angle

def lgamma (x : Float) : Float :=
  let pi := Float.ofBits 0x400921FB54442D18
  let size := x.abs
  if x.isNaN || x.isInf then x * x
  else if size < 8.470329472543003e-22 then -Float.log size
  else if x < 0 then
    let reflected := sinPi size
    if reflected == 0 then 1 / 0
    else Float.log (pi / (reflected * size).abs) - gammaPositive size
  else gammaPositive x

end MeshLang.Special
