import MeshLang.Special

namespace MeshLang.Special

def besselAmplitudeZeroFar : Rational where
  numerator := [0.0, -7.03124999999900357484e-02, -8.08167041275349795626e+00,
    -2.57063105679704847262e+02, -2.48521641009428822144e+03, -5.25304380490729545272e+03]
  denominator := [1.16534364619668181717e+02, 3.83374475364121826715e+03,
    4.05978572648472545552e+04, 1.16752972564375915681e+05, 4.76277284146730962675e+04]

def besselAmplitudeZeroWide : Rational where
  numerator := [-1.14125464691894502584e-11, -7.03124940873599280078e-02,
    -4.15961064470587782438e+00, -6.76747652265167261021e+01, -3.31231299649172967747e+02,
    -3.46433388365604912451e+02]
  denominator := [6.07539382692300335975e+01, 1.05125230595704579173e+03,
    5.97897094333855784498e+03, 9.62544514357774460223e+03, 2.40605815922939109441e+03]

def besselAmplitudeZeroMiddle : Rational where
  numerator := [-2.54704601771951915620e-09, -7.03119616381481654654e-02,
    -2.40903221549529611423e+00, -2.19659774734883086467e+01, -5.80791704701737572236e+01,
    -3.14479470594888503854e+01]
  denominator := [3.58560338055209726349e+01, 3.61513983050303863820e+02,
    1.19360783792111533330e+03, 1.12799679856907414432e+03, 1.73580930813335754692e+02]

def besselAmplitudeZeroNear : Rational where
  numerator := [-8.87534333032526411254e-08, -7.03030995483624743247e-02,
    -1.45073846780952986357e+00, -7.63569613823527770791e+00, -1.11931668860356747786e+01,
    -3.23364579351335335033e+00]
  denominator := [2.22202997532088808441e+01, 1.36206794218215208048e+02,
    2.70470278658083486789e+02, 1.53875394208320329881e+02, 1.46576176948256193810e+01]

def besselPhaseZeroFar : Rational where
  numerator := [0.0, 7.32421874999935051953e-02, 1.17682064682252693899e+01,
    5.57673380256401856059e+02, 8.85919720756468632317e+03, 3.70146267776887834771e+04]
  denominator := [1.63776026895689824414e+02, 8.09834494656449805916e+03,
    1.42538291419120476348e+05, 8.03309257119514397345e+05, 8.40501579819060512818e+05,
    -3.43899293537866615225e+05]

def besselPhaseZeroWide : Rational where
  numerator := [1.84085963594515531381e-11, 7.32421766612684765896e-02, 5.83563508962056953777e+00,
    1.35111577286449829671e+02, 1.02724376596164097464e+03, 1.98997785864605384631e+03]
  denominator := [8.27766102236537761883e+01, 2.07781416421392987104e+03,
    1.88472887785718085070e+04, 5.67511122894947329769e+04, 3.59767538425114471465e+04,
    -5.35434275601944773371e+03]

def besselPhaseZeroMiddle : Rational where
  numerator := [4.37741014089738620906e-09, 7.32411180042911447163e-02, 3.34423137516170720929e+00,
    4.26218440745412650017e+01, 1.70808091340565596283e+02, 1.66733948696651168575e+02]
  denominator := [4.87588729724587182091e+01, 7.09689221056606015736e+02,
    3.70414822620111362994e+03, 6.46042516752568917582e+03, 2.51633368920368957333e+03,
    -1.49247451836156386662e+02]

def besselPhaseZeroNear : Rational where
  numerator := [1.50444444886983272379e-07, 7.32234265963079278272e-02, 1.99819174093815998816e+00,
    1.44956029347885735348e+01, 3.16662317504781540833e+01, 1.62527075710929267416e+01]
  denominator := [3.03655848355219184498e+01, 2.69348118608049844624e+02,
    8.44783757595320139444e+02, 8.82935845112488550512e+02, 2.12666388511798828631e+02,
    -5.31095493882666946917e+00]

def besselAmplitudeOneFar : Rational where
  numerator := [0.0, 1.17187499999988647970e-01, 1.32394806593073575129e+01,
    4.12051854307378562225e+02, 3.87474538913960532227e+03, 7.91447954031891731574e+03]
  denominator := [1.14207370375678408436e+02, 3.65093083420853463394e+03,
    3.69562060269033463555e+04, 9.76027935934950801311e+04, 3.08042720627888811578e+04]

def besselAmplitudeOneWide : Rational where
  numerator := [1.31990519556243522749e-11, 1.17187493190614097638e-01, 6.80275127868432871736e+00,
    1.08308182990189109773e+02, 5.17636139533199752805e+02, 5.28715201363337541807e+02]
  denominator := [5.92805987221131331921e+01, 9.91401418733614377743e+02,
    5.35326695291487976647e+03, 7.84469031749551231769e+03, 1.50404688810361062679e+03]

def besselAmplitudeOneMiddle : Rational where
  numerator := [3.02503916137373618024e-09, 1.17186865567253592491e-01, 3.93297750033315640650e+00,
    3.51194035591636932736e+01, 9.10550110750781271918e+01, 4.85590685197364919645e+01]
  denominator := [3.47913095001251519989e+01, 3.36762458747825746741e+02,
    1.04687139975775130551e+03, 8.90811346398256432622e+02, 1.03787932439639277504e+02]

def besselAmplitudeOneNear : Rational where
  numerator := [1.07710830106873743082e-07, 1.17176219462683348094e-01, 2.36851496667608785174e+00,
    1.22426109148261232917e+01, 1.76939711271687727390e+01, 5.07352312588818499250e+00]
  denominator := [2.14364859363821409488e+01, 1.25290227168402751090e+02,
    2.32276469057162813669e+02, 1.17679373287147100768e+02, 8.36463893371618283368e+00]

def besselPhaseOneFar : Rational where
  numerator := [0.0, -1.02539062499992714161e-01, -1.62717534544589987888e+01,
    -7.59601722513950107896e+02, -1.18498066702429587167e+04, -4.84385124285750353010e+04]
  denominator := [1.61395369700722909556e+02, 7.82538599923348465381e+03,
    1.33875336287249578163e+05, 7.19657723683240939863e+05, 6.66601232617776375264e+05,
    -2.94490264303834643215e+05]

def besselPhaseOneWide : Rational where
  numerator := [-2.08979931141764104297e-11, -1.02539050241375426231e-01,
    -8.05644828123936029840e+00, -1.83669607474888380239e+02, -1.37319376065508163265e+03,
    -2.61244440453215656817e+03]
  denominator := [8.12765501384335777857e+01, 1.99179873460485964642e+03,
    1.74684851924908907677e+04, 4.98514270910352279316e+04, 2.79480751638918118260e+04,
    -4.71918354795128470869e+03]

def besselPhaseOneMiddle : Rational where
  numerator := [-5.07831226461766561369e-09, -1.02537829820837089745e-01,
    -4.61011581139473403113e+00, -5.78472216562783643212e+01, -2.28244540737631695038e+02,
    -2.19210128478909325622e+02]
  denominator := [4.76651550323729509273e+01, 6.73865112676699709482e+02,
    3.38015286679526343505e+03, 5.54772909720722782367e+03, 1.90311919338810798763e+03,
    -1.35201191444307340817e+02]

def besselPhaseOneNear : Rational where
  numerator := [-1.78381727510958865572e-07, -1.02517042607985553460e-01,
    -2.75220568278187460720e+00, -1.96636162643703720221e+01, -4.23253133372830490089e+01,
    -2.13719211703704061733e+01]
  denominator := [2.95333629060523854548e+01, 2.52981549982190529136e+02,
    7.57502834868645436472e+02, 7.39393205320467245656e+02, 1.55949003336666123687e+02,
    -4.95949898822628210127e+00]

def besselJ0Small : Rational where
  numerator := [1.56249999999999947958e-02, -1.89979294238854721751e-04, 1.82954049532700665670e-06,
    -4.61832688532103189199e-09]
  denominator := [1.56191029464890010492e-02, 1.16926784663337450260e-04,
    5.13546550207318111446e-07, 1.16614003333790000205e-09]

def besselY0Small : Rational where
  numerator := [-7.38042951086872317523e-02, 1.76666452509181115538e-01,
    -1.38185671945596898896e-02, 3.47453432093683650238e-04, -3.81407053724364161125e-06,
    1.95590137035022920206e-08, -3.98205194132103398453e-11]
  denominator := [1.27304834834123699328e-02, 7.60068627350353253702e-05,
    2.59150851840457805467e-07, 4.41110311332675467403e-10]

def besselJ1Small : Rational where
  numerator := [-6.25000000000000000000e-02, 1.40705666955189706048e-03,
    -1.59955631084035597520e-05, 4.96727999609584448412e-08]
  denominator := [1.91537599538363460805e-02, 1.85946785588630915560e-04,
    1.17718464042623683263e-06, 5.04636257076217042715e-09, 1.23542274426137913908e-11]

def besselY1Small : Rational where
  numerator := [-1.96057090646238940668e-01, 5.04438716639811282616e-02,
    -1.91256895875763547298e-03, 2.35252600561610495928e-05, -9.19099158039878874504e-08]
  denominator := [1.99167318236649903973e-02, 2.02552581025135171496e-04,
    1.35608801097516229404e-06, 6.22741452364621501295e-09, 1.66559246207992079114e-11]

/-- One approximation for each range from two on. -/
structure Ranges where
  far : Rational
  wide : Rational
  middle : Rational
  near : Rational

def Ranges.value (ranges : Ranges) (x : Float) : Float :=
  let chosen := if x >= 8 then ranges.far else if x >= 4.545452117919922 then ranges.wide
    else if x >= 2.8571414947509766 then ranges.middle else ranges.near
  chosen.value (1 / (x * x))

def amplitudeZero (x : Float) : Float :=
  1 + (Ranges.mk besselAmplitudeZeroFar besselAmplitudeZeroWide besselAmplitudeZeroMiddle
    besselAmplitudeZeroNear).value x

def phaseZero (x : Float) : Float :=
  (-0.125 + (Ranges.mk besselPhaseZeroFar besselPhaseZeroWide besselPhaseZeroMiddle
    besselPhaseZeroNear).value x) / x

def amplitudeOne (x : Float) : Float :=
  1 + (Ranges.mk besselAmplitudeOneFar besselAmplitudeOneWide besselAmplitudeOneMiddle
    besselAmplitudeOneNear).value x

def phaseOne (x : Float) : Float :=
  (0.375 + (Ranges.mk besselPhaseOneFar besselPhaseOneWide besselPhaseOneMiddle
    besselPhaseOneNear).value x) / x

def inverseRootPi : Float := 5.64189583547756279280e-01

def twoOverPi : Float := 6.36619772367581382433e-01

def doublingLimit : Float := 8.98846567431157953865e307

def correctionLimit : Float := 6.80564733841876926927e38

/-- Order zero from two on. The sum and the difference of sine and cosine are computed from each
other where one of them cancels. -/
def waveZero (second : Bool) (x : Float) : Float :=
  let s := Float.sin x
  let c := if second then -Float.cos x else Float.cos x
  let wave :=
    if x < doublingLimit then
      let product := -Float.cos (2 * x)
      let (sum, difference) := if s * c < 0 then (product / (s - c), s - c)
        else (s + c, product / (s + c))
      if x < correctionLimit then
        amplitudeZero x * sum - phaseZero x * (if second then -difference else difference)
      else sum
    else s + c
  inverseRootPi * wave / x.sqrt

def waveOne (second : Bool) (x : Float) : Float :=
  let s := if second then -Float.sin x else Float.sin x
  let c := Float.cos x
  let wave :=
    if x < doublingLimit then
      let product := Float.cos (2 * x)
      let (difference, sum) := if s * c > 0 then (product / (-s - c), -s - c)
        else (s - c, product / (s - c))
      if x < correctionLimit then
        amplitudeOne x * difference - phaseOne x * (if second then -sum else sum)
      else difference
    else s - c
  inverseRootPi * wave / x.sqrt

def besselJ0 (x : Float) : Float :=
  let size := x.abs
  if x.isNaN || x.isInf then 1 / (x * x)
  else if size >= 2 then waveZero false size
  else if size >= 1.220703125e-04 then
    let z := size * size
    (1 + size / 2) * (1 - size / 2) + z * (z * besselJ0Small.value z)
  else 1 - (if size >= 5.877471754111438e-39 then 0.25 * size * size else size)

def besselY0 (x : Float) : Float :=
  if x == 0 then -1 / 0
  else if x < 0 then 0 / 0
  else if x.isNaN || x.isInf then 1 / x
  else if x >= 2 then waveZero true x
  else if x >= 7.450580596923828e-09 then
    besselY0Small.value (x * x) + twoOverPi * (besselJ0 x * Float.log x)
  else -7.38042951086872317523e-02 + twoOverPi * Float.log x

def besselJ1 (x : Float) : Float :=
  let size := x.abs
  if x.isNaN || x.isInf then 1 / (x * x)
  else if size >= 2 then
    let wave := waveOne false size
    if x < 0 then -wave else wave
  else if size >= 5.877471754111438e-39 then
    let z := x * x
    (0.5 + z * besselJ1Small.value z) * x
  else (0.5 + x) * x

def besselY1 (x : Float) : Float :=
  if x == 0 then -1 / 0
  else if x < 0 then 0 / 0
  else if x.isNaN || x.isInf then 1 / x
  else if x >= 2 then waveOne true x
  else if x < 5.551115123125783e-17 then -twoOverPi / x
  else x * besselY1Small.value (x * x) + twoOverPi * (besselJ1 x * Float.log x - 1 / x)

end MeshLang.Special
