import MeshLang.Decimal.Shortest
import MeshLang.Proofs.Scalar.Double
import MeshLang.Proofs.Scalar.Rounding

namespace MeshLang

namespace Decimal

open Binary64

theorem shift_quotient (n d : Nat) (e : Int) :
    ((shift n d e).1 : ℚ) / (shift n d e).2 = n / d / 10 ^ e := by
  unfold shift
  split
  · rw [zpow_of_neg ‹_›, Nat.cast_mul, cast_tenTo, div_inv_eq_mul, mul_div_right_comm]
  · rw [zpow_of_nonneg ‹_›, Nat.cast_mul, cast_tenTo, div_div]

theorem shift_pos {n d : Nat} (positive : 0 < d) (e : Int) : 0 < (shift n d e).2 := by
  unfold shift
  split
  · exact positive
  · exact Nat.mul_pos positive (Nat.pow_pos (by decide))

theorem reaches_iff {n d : Nat} (positive : 0 < d) (e : Int) :
    reaches n d e = true ↔ (10 : ℚ) ^ e ≤ n / d := by
  have unit : (0 : ℚ) < (shift n d e).2 := Nat.cast_pos.mpr (shift_pos positive e)
  have power : (0 : ℚ) < 10 ^ e := by positivity
  unfold reaches
  dsimp only
  rw [decide_eq_true_eq, ← Nat.cast_le (α := ℚ), ← one_le_div unit, shift_quotient, one_le_div power]

theorem pow_le_pow_of_ratio {a b p q k j : Nat} (filled : p ≠ 0) (positive : 0 < b) (ratio : a ^ p ≤ b ^ q)
    (below : q * k ≤ p * j) : a ^ k ≤ b ^ j := by
  refine (Nat.pow_le_pow_iff_left filled).mp ?_
  calc (a ^ k) ^ p = (a ^ p) ^ k := by rw [← pow_mul, ← pow_mul, mul_comm]
    _ ≤ (b ^ q) ^ k := Nat.pow_le_pow_left ratio k
    _ = b ^ (q * k) := (pow_mul b q k).symm
    _ ≤ b ^ (p * j) := Nat.pow_le_pow_right positive below
    _ = (b ^ j) ^ p := by rw [← pow_mul, mul_comm]

/-- The guess of a decimal exponent is too large by less than one. -/
theorem ten_zpow_le {g d : Int} (guess : g * 100000 ≤ d * 30103) (near : -10000 ≤ d) (far : d ≤ 10000) :
    (10 : ℚ) ^ (g - 1) ≤ 2 ^ (d - 1) := by
  -- `2 ^ 93 ≤ 10 ^ 28` and `10 ^ 31 ≤ 2 ^ 103` come close enough to the ratio of the two logarithms.
  by_cases negative : g - 1 < 0
  · have power : 2 ^ (1 - d).toNat ≤ 10 ^ (-(g - 1)).toNat :=
      pow_le_pow_of_ratio (p := 93) (q := 28) (by decide) (by decide) (by norm_num) (by omega)
    have power : (2 : ℚ) ^ (1 - d).toNat ≤ 10 ^ (-(g - 1)).toNat := by exact_mod_cast power
    rw [zpow_of_neg negative]
    calc ((10 : ℚ) ^ (-(g - 1)).toNat)⁻¹ ≤ (2 ^ (1 - d).toNat)⁻¹ := inv_anti₀ (by positivity) power
      _ = 2 ^ (-((1 - d).toNat : Int)) := by rw [zpow_neg, zpow_natCast]
      _ ≤ 2 ^ (d - 1) := zpow_le_zpow_right₀ one_le_two (by omega)
  · have power : 10 ^ (g - 1).toNat ≤ 2 ^ (d - 1).toNat :=
      pow_le_pow_of_ratio (p := 31) (q := 103) (by decide) (by decide) (by norm_num) (by omega)
    rw [zpow_of_nonneg negative, zpow_of_nonneg (by omega : ¬ d - 1 < 0)]
    exact_mod_cast power

theorem ten_zpow_leadingExponent_le {n d : Nat} (above : 0 < n) (below : 0 < d)
    (near : -10000 ≤ (n.log2 : Int) - d.log2) (far : (n.log2 : Int) - d.log2 ≤ 10000) :
    (10 : ℚ) ^ leadingExponent n d ≤ n / d := by
  have guess := Int.ediv_mul_le (((n.log2 : Int) - d.log2) * 30103) (by decide : (100000 : Int) ≠ 0)
  have reached := (ten_zpow_le guess near far).trans (quotient_bounds above below).1.le
  unfold leadingExponent
  dsimp only
  cases found : List.find? (reaches n d) _ with
  | some e => exact (reaches_iff below e).mp (List.find?_some found)
  | none =>
    have missed := List.find?_eq_none.mp found _
      (List.mem_cons_of_mem _ (List.mem_cons_of_mem _ List.mem_cons_self))
    exact absurd ((reaches_iff below _).mpr reached) missed

theorem ofDyadic_scale (m : Nat) (e : Int) :
    ∃ unit : Nat, 0 < unit ∧ 0 < (Interval.ofDyadic m e).denominator ∧
      (Interval.ofDyadic m e).value = 4 * m * unit ∧ (Interval.ofDyadic m e).high = (4 * m + 2) * unit ∧
      (Interval.ofDyadic m e).low =
        (4 * m - if m == twoTo 52 && e != leastExponent then 1 else 2) * unit ∧
      4 * (unit : ℚ) = 2 ^ e * (Interval.ofDyadic m e).denominator := by
  have size : (0 : ℚ) < (unscale 1 1 (2 - e)).2 := Nat.cast_pos.mpr (unscale_pos Nat.one_pos _)
  have quotient := unscale_quotient 1 1 (2 - e)
  have power : (1 : ℚ) / 2 ^ (2 - e) = 2 ^ e / 4 := by
    rw [zpow_sub₀ two_ne_zero, one_div_div]
    norm_num
  rw [Nat.cast_one, div_one, power, div_eq_div_iff size.ne' four_ne_zero] at quotient
  refine ⟨(unscale 1 1 (2 - e)).1, ?_, unscale_pos Nat.one_pos _, rfl, rfl, rfl, ?_⟩
  · rw [← Nat.cast_pos (α := ℚ)]
    have : (0 : ℚ) < 2 ^ e := by positivity
    nlinarith
  · rw [mul_comm, quotient]
    rfl

theorem value_ofDyadic (m : Nat) (e : Int) :
    ((Interval.ofDyadic m e).value : ℚ) / (Interval.ofDyadic m e).denominator = m * 2 ^ e := by
  obtain ⟨unit, -, positive, value, -, -, scale⟩ := ofDyadic_scale m e
  have size : (0 : ℚ) < (Interval.ofDyadic m e).denominator := Nat.cast_pos.mpr positive
  rw [value, div_eq_iff size.ne', mul_assoc (m : ℚ), ← scale]
  push_cast
  ring

theorem cross_le {a b c d : Nat} (left : 0 < b) (right : 0 < d) :
    a * d ≤ c * b ↔ (a : ℚ) / b ≤ c / d := by
  rw [div_le_div_iff₀ (Nat.cast_pos.mpr left) (Nat.cast_pos.mpr right)]
  exact_mod_cast Iff.rfl

theorem cross_lt {a b c d : Nat} (left : 0 < b) (right : 0 < d) :
    a * d < c * b ↔ (a : ℚ) / b < c / d := by
  rw [div_lt_div_iff₀ (Nat.cast_pos.mpr left) (Nat.cast_pos.mpr right)]
  exact_mod_cast Iff.rfl

theorem holds_ofDyadic {m n d : Nat} {e : Int} (filled : 0 < m) (positive : 0 < d) :
    (Interval.ofDyadic m e).holds n d = true ↔ RoundsTo (n / d) m e := by
  obtain ⟨unit, above, below, -, high, low, scale⟩ := ofDyadic_scale m e
  have parts : (0 : ℚ) < (Interval.ofDyadic m e).denominator := Nat.cast_pos.mpr below
  have lowest : ((Interval.ofDyadic m e).low : ℚ) / (Interval.ofDyadic m e).denominator =
      (m - reach m e) * 2 ^ e := by
    rw [div_eq_iff parts.ne', mul_assoc, ← scale, low, Nat.cast_mul, Nat.cast_sub (by split <;> omega)]
    unfold reach
    split <;> push_cast <;> ring
  have highest : ((Interval.ofDyadic m e).high : ℚ) / (Interval.ofDyadic m e).denominator =
      (m + 1 / 2) * 2 ^ e := by
    rw [div_eq_iff parts.ne', mul_assoc, ← scale, high]
    push_cast
    ring
  have closed : (Interval.ofDyadic m e).closed = (m % 2 == 0) := rfl
  unfold Interval.holds
  dsimp only
  rw [closed]
  by_cases even : m % 2 = 0
  · simp only [even, beq_self_eq_true, if_true, Bool.and_eq_true, decide_eq_true_eq,
      cross_le below positive, cross_le positive below, lowest, highest]
    exact ⟨fun inside => ⟨inside.1, inside.2, fun _ => even⟩, fun rounds => ⟨rounds.low, rounds.high⟩⟩
  · simp only [beq_iff_eq, even, if_false, Bool.and_eq_true, decide_eq_true_eq,
      cross_lt below positive, cross_lt positive below, lowest, highest]
    refine ⟨fun inside => ⟨inside.1.le, inside.2.le, ?_⟩, fun rounds => ⟨?_, ?_⟩⟩
    · rintro (here | here)
      · exact absurd here inside.1.ne'
      · exact absurd here inside.2.ne
    · exact lt_of_le_of_ne rounds.low fun here => even (rounds.tie (.inl here.symm))
    · exact lt_of_le_of_ne rounds.high fun here => even (rounds.tie (.inr here))

def Interval.inside (range : Interval) (x : Int) (digits : Nat) : Bool :=
  if x < 0 then range.holds digits (tenTo (-x).toNat) else range.holds (digits * tenTo x.toNat) 1

def nearer (n d : Nat) : Nat := if 2 * (n % d) < d then n / d else n / d + 1

theorem gridPoint?_eq (range : Interval) (leading : Int) (count : Nat) :
    ∃ other, range.gridPoint? leading count =
      let x := leading - (count - 1 : Nat)
      let point := shift range.value range.denominator x
      if range.inside x (nearer point.1 point.2) then some (nearer point.1 point.2, x)
      else if range.inside x other then some (other, x) else none :=
  ⟨_, rfl⟩

theorem inside_iff {m digits : Nat} {e x : Int} (filled : 0 < m) :
    (Interval.ofDyadic m e).inside x digits = true ↔ RoundsTo (digits * 10 ^ x) m e := by
  have power (k : Nat) : 0 < tenTo k := Nat.pow_pos (by decide)
  unfold Interval.inside
  split
  · rw [holds_ofDyadic filled (power _), cast_tenTo, zpow_of_neg ‹_›, div_eq_mul_inv]
  · rw [holds_ofDyadic filled Nat.one_pos, zpow_of_nonneg ‹_›, Nat.cast_mul, cast_tenTo, Nat.cast_one,
      div_one]

theorem gridPoint?_roundsTo {m count : Nat} {e leading : Int} {answer : Nat × Int} (filled : 0 < m)
    (found : (Interval.ofDyadic m e).gridPoint? leading count = some answer) :
    RoundsTo (answer.1 * 10 ^ answer.2) m e := by
  obtain ⟨other, grid⟩ := gridPoint?_eq (Interval.ofDyadic m e) leading count
  rw [grid] at found
  dsimp only at found
  split at found
  · cases found
    exact (inside_iff filled).mp ‹_›
  · split at found
    · cases found
      exact (inside_iff filled).mp ‹_›
    · cases found

theorem nearer_bounds {n d : Nat} (positive : 0 < d) :
    (nearer n d : ℚ) - 1 / 2 ≤ n / d ∧ (n : ℚ) / d ≤ nearer n d + 1 / 2 := by
  have size : (0 : ℚ) < d := Nat.cast_pos.mpr positive
  have split : ((n / d : Nat) : ℚ) * d + (n % d : Nat) = n := by exact_mod_cast Nat.div_add_mod' n d
  have proper : ((n % d : Nat) : ℚ) < d := by exact_mod_cast Nat.mod_lt n positive
  have rest : (0 : ℚ) ≤ (n % d : Nat) := Nat.cast_nonneg _
  rw [le_div_iff₀ size, div_le_iff₀ size]
  unfold nearer
  split
  · rename_i half
    have half : 2 * ((n % d : Nat) : ℚ) < d := by exact_mod_cast half
    constructor <;> linarith
  · rename_i half
    have half : (d : ℚ) ≤ 2 * ((n % d : Nat) : ℚ) := by exact_mod_cast not_lt.mp half
    push_cast
    constructor <;> linarith

theorem gridPoint?_isSome {m count : Nat} {e leading : Int} (filled : 0 < m)
    (fine : (10 : ℚ) ^ (leading - (count - 1 : Nat)) < 2 * (reach m e * 2 ^ e)) :
    ((Interval.ofDyadic m e).gridPoint? leading count).isSome := by
  obtain ⟨other, grid⟩ := gridPoint?_eq (Interval.ofDyadic m e) leading count
  obtain ⟨-, -, below, -⟩ := ofDyadic_scale m e
  rw [grid]
  dsimp only
  generalize leading - ((count - 1 : Nat) : Int) = x at fine ⊢
  generalize same : shift (Interval.ofDyadic m e).value (Interval.ofDyadic m e).denominator x = point
  have unit : 0 < point.2 := same ▸ shift_pos below x
  have quotient : (point.1 : ℚ) / point.2 = m * 2 ^ e / 10 ^ x := by
    rw [← same, shift_quotient, value_ofDyadic]
  have power : (0 : ℚ) < 10 ^ x := by positivity
  have size : (0 : ℚ) < 2 ^ e := by positivity
  obtain ⟨low, high⟩ := @nearer_bounds point.1 point.2 unit
  rw [quotient, le_div_iff₀ power] at low
  rw [quotient, div_le_iff₀ power] at high
  have near := reach_le m e
  -- The nearest number of the grid is at most half a step away, and half a step is less than the reach.
  have inside : (Interval.ofDyadic m e).inside x (nearer point.1 point.2) = true := by
    rw [inside_iff filled]
    refine ⟨by linarith, by nlinarith, ?_⟩
    rintro (here | here) <;> exfalso <;> nlinarith
  rw [if_pos inside]
  rfl

theorem ten_zpow_leading_le {m : Nat} {e : Int} (finite : IsFinite m e) :
    (10 : ℚ) ^ leadingExponent (Interval.ofDyadic m e).value (Interval.ofDyadic m e).denominator ≤
      m * 2 ^ e := by
  obtain ⟨unit, above, below, value, -⟩ := ofDyadic_scale m e
  have filled : 0 < (Interval.ofDyadic m e).value := by
    rw [value]
    exact Nat.mul_pos (Nat.mul_pos four_pos finite.positive) above
  obtain ⟨low, high⟩ := quotient_bounds filled below
  have size : (0 : ℚ) < 2 ^ e := by positivity
  have bits : (m : ℚ) < 2 ^ 53 := by
    rw [← cast_twoTo]
    exact_mod_cast finite.bits
  have one : (1 : ℚ) ≤ m := by exact_mod_cast finite.positive
  have greatest := finite.greatest
  have least := finite.least
  rw [← value_ofDyadic]
  rw [value_ofDyadic] at low high
  apply ten_zpow_leadingExponent_le filled below
  · have far := (le_mul_of_one_le_left size.le one).trans_lt high
    rw [zpow_lt_zpow_iff_right₀ one_lt_two] at far
    unfold leastExponent at least
    omega
  · have far := low.trans (mul_lt_mul_of_pos_right bits size)
    rw [← zpow_natCast, ← zpow_add₀ two_ne_zero] at far
    rw [zpow_lt_zpow_iff_right₀ one_lt_two] at far
    omega

/-- Seventeen digits tell every two doubles apart. -/
theorem seventeen_digits {m : Nat} {e : Int} (finite : IsFinite m e) :
    (10 : ℚ) ^ (leadingExponent (Interval.ofDyadic m e).value (Interval.ofDyadic m e).denominator -
      (17 - 1 : Nat)) < 2 * (reach m e * 2 ^ e) := by
  have size : (0 : ℚ) < 2 ^ e := by positivity
  have enough : (m : ℚ) < 2 * reach m e * 10 ^ 16 := by
    unfold reach
    split
    · rename_i narrow
      have single : m = twoTo 52 := by simpa using (Bool.and_eq_true_iff.mp narrow).1
      rw [single, cast_twoTo]
      norm_num
    · have bits : (m : ℚ) < 2 ^ 53 := by
        rw [← cast_twoTo]
        exact_mod_cast finite.bits
      linarith
  have leading := ten_zpow_leading_le finite
  rw [zpow_sub₀ (by norm_num), div_lt_iff₀ (by positivity)]
  calc _ ≤ (m : ℚ) * 2 ^ e := leading
    _ < 2 * reach m e * 10 ^ 16 * 2 ^ e := mul_lt_mul_of_pos_right enough size
    _ = _ := by
      rw [zpow_natCast]
      ring

theorem shortest_roundsTo {m : Nat} {e : Int} (finite : IsFinite m e) :
    RoundsTo ((shortest m e).1 * 10 ^ (shortest m e).2) m e := by
  have some := gridPoint?_isSome finite.positive (seventeen_digits finite)
  unfold shortest
  dsimp only
  cases found : List.findSome? _ ((List.range 17).map (· + 1)) with
  | some answer =>
    obtain ⟨count, -, here⟩ := List.exists_of_findSome?_eq_some found
    exact gridPoint?_roundsTo finite.positive here
  | none =>
    have missed := List.findSome?_eq_none_iff.mp found 17 (by decide)
    rw [missed] at some
    cases some

theorem exists_whole {digits : List Char} (filled : digits ≠ []) (all : ∀ c ∈ digits, c.isDigit = true) :
    ∃ written : Written, written.text = digits ∧ written.value = ⟨natural 0 digits, 0⟩ := by
  refine ⟨⟨digits, none, none, all, nofun, .inl filled⟩, List.append_nil _, ?_⟩
  exact congrArg (Decimal.mk · 0) (congrArg (natural 0) (List.append_nil digits))

theorem exists_pointed {whole fraction : List Char} (filled : whole ≠ [])
    (wholeDigits : ∀ c ∈ whole, c.isDigit = true) (digits : ∀ c ∈ fraction, c.isDigit = true) :
    ∃ written : Written, written.text = whole ++ '.' :: fraction ∧
      written.value = ⟨natural 0 (whole ++ fraction), -fraction.length⟩ := by
  refine ⟨⟨whole, some fraction, none, wholeDigits, digits, .inl filled⟩, ?_, ?_⟩
  · exact congrArg (whole ++ '.' :: ·) (List.append_nil fraction)
  · exact congrArg (Decimal.mk _) (Int.zero_sub _)

theorem exists_plainText {digits : List Char} (filled : digits ≠ [])
    (all : ∀ c ∈ digits, c.isDigit = true) (exponent : Int) :
    ∃ written : Written, written.text = plainText digits exponent ∧ written.value.exponent ≤ 0 ∧
      (written.value.digits : ℚ) * 10 ^ written.value.exponent = natural 0 digits * 10 ^ exponent := by
  have zeros (count : Nat) : ∀ c ∈ List.replicate count '0', c.isDigit = true :=
    fun c here => by rw [List.eq_of_mem_replicate here]; rfl
  unfold plainText
  by_cases above : 0 ≤ exponent
  · obtain ⟨written, text, value⟩ := exists_whole (List.append_ne_nil_of_left_ne_nil filled _)
      (List.forall_mem_append.mpr ⟨all, zeros exponent.toNat⟩)
    refine ⟨written, by rw [text, if_pos above], by rw [value], ?_⟩
    rw [value, natural_append, natural_zeros, zpow_zero, mul_one, Nat.cast_mul, cast_tenTo,
      zpow_of_nonneg (not_lt.mpr above)]
  · rw [if_neg above]
    dsimp only
    generalize size : (-exponent).toNat = places
    by_cases within : places < digits.length
    · have first : digits.take (digits.length - places) ≠ [] := by
        simp [filled]
        omega
      obtain ⟨written, text, value⟩ := exists_pointed first
        (fun c here => all c (List.mem_of_mem_take here))
        (fun c here => all c (List.mem_of_mem_drop here : c ∈ digits))
      have same : written.value = ⟨natural 0 digits, exponent⟩ := by
        rw [value, List.take_append_drop, List.length_drop]
        congr 1
        omega
      refine ⟨written, by rw [text, if_pos within], ?_, by rw [same]⟩
      rw [same]
      exact (not_le.mp above).le
    · obtain ⟨written, text, value⟩ := exists_pointed (List.cons_ne_nil '0' []) (zeros 1)
        (List.forall_mem_append.mpr ⟨zeros (places - digits.length), all⟩)
      have same : written.value = ⟨natural 0 digits, exponent⟩ := by
        have zero : ['0'] = List.replicate 1 '0' := rfl
        rw [value, zero, natural_append, natural_append, natural_zeros, natural_zeros, Nat.zero_mul,
          Nat.zero_mul, List.length_append, List.length_replicate]
        congr 1
        omega
      refine ⟨written, by rw [text, if_neg within]; rfl, ?_, by rw [same]⟩
      rw [same]
      exact (not_le.mp above).le

def finiteText (m : Nat) (e : Int) : List Char :=
  if m = 0 then ['0']
  else
    let digits := naturalText (shortest m e).1
    plainText (withoutTrailingZeros digits)
      ((shortest m e).2 + (digits.length - (withoutTrailingZeros digits).length : Nat))

theorem shortestText_finite {x : Float} {negative : Bool} {m : Nat} {e : Int}
    (finite : decode x = .finite negative m e) :
    (shortestText x).toList = if negative then '-' :: finiteText m e else finiteText m e := by
  unfold shortestText
  rw [finite]
  exact String.toList_ofList

theorem natural_withoutTrailingZeros (digits : List Char) (scale : Int) :
    (natural 0 (withoutTrailingZeros digits) : ℚ) *
      10 ^ (scale + (digits.length - (withoutTrailingZeros digits).length : Nat)) =
        natural 0 digits * 10 ^ scale := by
  obtain ⟨count, split⟩ := withoutTrailingZeros_append digits
  generalize withoutTrailingZeros digits = kept at split ⊢
  subst split
  rw [natural_append, natural_zeros, Nat.cast_mul, cast_tenTo, List.length_append,
    List.length_replicate, Nat.add_sub_cancel_left, zpow_add₀ (by norm_num), zpow_natCast]
  ring

theorem exists_finiteText {m : Nat} {e : Int} (finite : m = 0 ∧ e = leastExponent ∨ IsFinite m e) :
    ∃ written : Written, written.text = finiteText m e ∧ ofDecimal false written.value =
      Float.ofBits (UInt64.ofNat ((e - leastExponent).toNat * twoTo 52 + m)) := by
  rcases finite with ⟨rfl, rfl⟩ | finite
  · refine ⟨⟨['0'], none, none, by simp, nofun, .inl (by simp)⟩, rfl, ?_⟩
    rfl
  · have rounds := shortest_roundsTo finite
    have above := (rounds.least finite).trans_le' (by positivity : (0 : ℚ) ≤ _)
    rw [finiteText, if_neg finite.positive.ne']
    generalize shortest m e = answer at rounds above ⊢
    have value := natural_withoutTrailingZeros (naturalText answer.1) answer.2
    have digits : ∀ c ∈ withoutTrailingZeros (naturalText answer.1), c.isDigit = true := by
      obtain ⟨count, split⟩ := withoutTrailingZeros_append (naturalText answer.1)
      intro c here
      apply isDigit_of_mem_naturalText c
      rw [split]
      exact List.mem_append_left _ here
    have filled : withoutTrailingZeros (naturalText answer.1) ≠ [] := by
      intro none
      have zero : natural 0 [] = 0 := rfl
      rw [none, natural_naturalText, zero, Nat.cast_zero, zero_mul] at value
      exact above.ne value
    rw [natural_naturalText] at value
    obtain ⟨written, text, small, size⟩ := exists_plainText filled digits
      (answer.2 + ((naturalText answer.1).length -
        (withoutTrailingZeros (naturalText answer.1)).length : Nat))
    refine ⟨written, text, ofDecimal_eq finite ?_ (small.trans (by decide))⟩
    rw [size, value]
    exact rounds

theorem read?_infinity (negative : Bool) :
    Double.read? (if negative then "-inf" else "inf").toList = some (Float.ofBits (UInt64.ofNat
      ((if negative then twoTo 63 else 0) + 0x7FF * twoTo 52))) := by
  cases negative <;> rfl

/-- Only an undefined number is lost when it is written. -/
theorem read?_shortestText {x : Float} (defined : decode x ≠ .undefined) :
    Double.read? (shortestText x).toList = some x := by
  have fits : x.toBits.toNat < twoTo 64 := x.toBits.toNat_lt
  have whole {n : Nat} (word : x.toBits.toNat = n) : x = Float.ofBits (UInt64.ofNat n) := by
    rw [← word, UInt64.ofNat_toNat, Float.ofBits_toBits]
  cases kind : decode x with
  | undefined => exact absurd kind defined
  | infinity negative =>
    have text : shortestText x = if negative then "-inf" else "inf" := by
      unfold shortestText
      rw [kind]
    rw [text, read?_infinity]
    exact congrArg some (whole (word_of_infinity fits kind)).symm
  | finite negative m e =>
    obtain ⟨word, finite⟩ := word_of_finite fits kind
    obtain ⟨written, text, value⟩ := exists_finiteText finite
    rw [shortestText_finite kind, ← text]
    cases negative with
    | false =>
      rw [if_neg Bool.false_ne_true] at word ⊢
      rw [Nat.zero_add] at word
      rw [Double.read?_text, value, ← whole word]
    | true =>
      rw [if_pos rfl] at word ⊢
      change (Double.readUnsigned? written.text).map (- ·) = _
      rw [Double.readUnsigned?_text, value, Option.map_some, whole word]
      rw [word] at fits
      apply congrArg some (neg_ofBits (.inl _))
      rw [UInt64.toNat_ofNat_of_lt' fits,
        UInt64.toNat_ofNat_of_lt' (Nat.lt_of_le_of_lt (Nat.le_add_left _ _) fits), Nat.add_comm]

end Decimal

end MeshLang
