import Mathlib.Algebra.Order.Field.Power
import Mathlib.Algebra.Order.Field.Rat
import Mathlib.Data.Nat.Cast.Order.Field
import Mathlib.Tactic.Linarith
import Mathlib.Tactic.NormNum
import Mathlib.Tactic.FieldSimp
import Mathlib.Tactic.Positivity
import Mathlib.Tactic.Ring
import MeshLang.Scalar.Binary64

namespace MeshLang.Binary64

theorem roundQuotient_eq {n d r : Nat} (positive : 0 < d) (low : 2 * (r * d) ≤ 2 * n + d)
    (high : 2 * n ≤ 2 * (r * d) + d)
    (tie : 2 * (r * d) = 2 * n + d ∨ 2 * n = 2 * (r * d) + d → r % 2 = 0) :
    roundQuotient n d = r := by
  have split : n / d * d + n % d = n := Nat.div_add_mod' n d
  have proper : n % d < d := Nat.mod_lt n positive
  have up : r < n / d + 2 := by
    refine Nat.lt_of_mul_lt_mul_right (a := d) ?_
    rw [Nat.add_mul]
    omega
  have down : n / d < r + 1 := by
    refine Nat.lt_of_mul_lt_mul_right (a := d) ?_
    rw [Nat.add_mul]
    omega
  have cases : r = n / d ∨ r = n / d + 1 := by omega
  unfold roundQuotient
  rcases cases with same | next
  · rw [← same] at split ⊢
    have stays : ¬ (2 * (n % d) > d ∨ 2 * (n % d) = d ∧ r % 2 = 1) := by omega
    simp only [Bool.or_eq_true, decide_eq_true_eq, Bool.and_eq_true, beq_iff_eq, if_neg stays]
  · have fraction : (n / d + 1) * d = n / d * d + d := Nat.succ_mul _ _
    rw [next, fraction] at low high tie
    have rises : 2 * (n % d) > d ∨ 2 * (n % d) = d ∧ n / d % 2 = 1 := by omega
    simp only [Bool.or_eq_true, decide_eq_true_eq, Bool.and_eq_true, beq_iff_eq, if_pos rises, next]

theorem roundQuotient_near {n d r : Nat} (positive : 0 < d) (low : (r : ℚ) - 1 / 2 ≤ n / d)
    (high : (n : ℚ) / d ≤ r + 1 / 2)
    (tie : (n : ℚ) / d = r - 1 / 2 ∨ (n : ℚ) / d = r + 1 / 2 → r % 2 = 0) :
    roundQuotient n d = r := by
  have size : (0 : ℚ) < d := Nat.cast_pos.mpr positive
  rw [le_div_iff₀ size] at low
  rw [div_le_iff₀ size] at high
  rw [div_eq_iff size.ne', div_eq_iff size.ne'] at tie
  refine roundQuotient_eq positive ?_ ?_ fun here => tie ?_
  · exact_mod_cast (by push_cast; linarith : ((2 * (r * d) : Nat) : ℚ) ≤ (2 * n + d : Nat))
  · exact_mod_cast (by push_cast; linarith : ((2 * n : Nat) : ℚ) ≤ (2 * (r * d) + d : Nat))
  · refine here.imp (fun here => ?_) fun here => ?_
    all_goals
      have size := congrArg (Nat.cast : Nat → ℚ) here
      push_cast at size
      linarith

theorem cast_twoTo (n : Nat) : ((twoTo n : Nat) : ℚ) = 2 ^ n := by
  change ((2 ^ n : Nat) : ℚ) = _
  exact_mod_cast rfl

theorem zpow_of_neg {b : ℚ} {e : Int} (below : e < 0) : b ^ e = (b ^ (-e).toNat)⁻¹ := by
  rw [← zpow_natCast, Int.toNat_of_nonneg (by omega), zpow_neg, inv_inv]

theorem zpow_of_nonneg {b : ℚ} {e : Int} (above : ¬ e < 0) : b ^ e = b ^ e.toNat := by
  rw [← zpow_natCast, Int.toNat_of_nonneg (by omega)]

theorem unscale_quotient (n d : Nat) (e : Int) :
    ((unscale n d e).1 : ℚ) / (unscale n d e).2 = n / d / 2 ^ e := by
  unfold unscale
  split
  · rw [zpow_of_neg ‹_›, Nat.cast_mul, cast_twoTo, div_inv_eq_mul, mul_div_right_comm]
  · rw [zpow_of_nonneg ‹_›, Nat.cast_mul, cast_twoTo, div_div]

theorem unscale_pos {n d : Nat} (positive : 0 < d) (e : Int) : 0 < (unscale n d e).2 := by
  unfold unscale
  split
  · exact positive
  · exact Nat.mul_pos positive (Nat.pow_pos (by decide))

theorem log2_bounds {n : Nat} (positive : 0 < n) :
    (2 : ℚ) ^ (n.log2 : Int) ≤ n ∧ (n : ℚ) < 2 ^ (n.log2 + 1 : Int) := by
  have low := Nat.log2_self_le positive.ne'
  have high := @Nat.lt_log2_self n
  exact ⟨by exact_mod_cast low, by exact_mod_cast high⟩

theorem quotient_bounds {n d : Nat} (above : 0 < n) (below : 0 < d) :
    (2 : ℚ) ^ (n.log2 - d.log2 - 1 : Int) < n / d ∧ (n : ℚ) / d < 2 ^ (n.log2 - d.log2 + 1 : Int) := by
  have size : (0 : ℚ) < d := Nat.cast_pos.mpr below
  obtain ⟨lowN, highN⟩ := log2_bounds above
  obtain ⟨lowD, highD⟩ := log2_bounds below
  constructor
  · rw [lt_div_iff₀ size]
    calc (2 : ℚ) ^ (n.log2 - d.log2 - 1 : Int) * d
        < 2 ^ (n.log2 - d.log2 - 1 : Int) * 2 ^ (d.log2 + 1 : Int) :=
          mul_lt_mul_of_pos_left highD (by positivity)
      _ = 2 ^ (n.log2 : Int) := by rw [← zpow_add₀ two_ne_zero]; congr 1; ring
      _ ≤ n := lowN
  · rw [div_lt_iff₀ size]
    calc (n : ℚ) < 2 ^ (n.log2 + 1 : Int) := highN
      _ = 2 ^ (n.log2 - d.log2 + 1 : Int) * 2 ^ (d.log2 : Int) := by
          rw [← zpow_add₀ two_ne_zero]; congr 1; ring
      _ ≤ 2 ^ (n.log2 - d.log2 + 1 : Int) * d := mul_le_mul_of_nonneg_left lowD (by positivity)

/-- The last place of a number: 53 bits stand before it, or fewer at the least exponent. -/
structure IsLastPlace (q : ℚ) (e : Int) : Prop where
  least : leastExponent ≤ e
  below : q < 2 ^ (e + 53)
  full : e = leastExponent ∨ 2 ^ (e + 52) ≤ q

theorem IsLastPlace.le {q : ℚ} {e f : Int} (here : IsLastPlace q e) (there : IsLastPlace q f) :
    e ≤ f := by
  by_contra less
  rcases here.full with least | full
  · have := there.least
    omega
  · have far := (full.trans_lt there.below)
    rw [zpow_lt_zpow_iff_right₀ one_lt_two] at far
    omega

theorem lastPlace_isLastPlace {n d : Nat} (above : 0 < n) (below : 0 < d) :
    IsLastPlace (n / d) (lastPlace n d) := by
  obtain ⟨low, high⟩ := quotient_bounds above below
  generalize first : max leastExponent ((n.log2 : Int) - d.log2 - 53) = e
  have quotient := unscale_quotient n d e
  have unit : (0 : ℚ) < (unscale n d e).2 := Nat.cast_pos.mpr (unscale_pos below e)
  have test : (unscale n d e).1 / (unscale n d e).2 < twoTo 53 ↔ (n : ℚ) / d < 2 ^ (e + 53) := by
    rw [Nat.div_lt_iff_lt_mul (unscale_pos below e), ← Nat.cast_lt (α := ℚ), Nat.cast_mul, cast_twoTo,
      ← div_lt_iff₀ unit, quotient, div_lt_iff₀ (by positivity), add_comm e, zpow_add₀ two_ne_zero]
    exact Iff.rfl
  unfold lastPlace
  dsimp only
  rw [first]
  split
  · refine ⟨by omega, test.mp ‹_›, ?_⟩
    by_cases least : e = leastExponent
    · exact .inl least
    · right
      have same : e + 52 = n.log2 - d.log2 - 1 := by omega
      rw [same]
      exact low.le
  · rename_i exceeds
    rw [test, not_lt] at exceeds
    refine ⟨by omega, high.trans_le ?_, .inr ?_⟩
    · exact zpow_le_zpow_right₀ one_le_two (by omega)
    · rwa [add_assoc]

theorem lastPlace_eq {n d : Nat} {e : Int} (above : 0 < n) (below : 0 < d)
    (place : IsLastPlace (n / d) e) : lastPlace n d = e := by
  have found := lastPlace_isLastPlace above below
  exact le_antisymm (found.le place) (place.le found)

structure IsFinite (m : Nat) (e : Int) : Prop where
  positive : 0 < m
  bits : m < twoTo 53
  full : twoTo 52 ≤ m ∨ e = leastExponent
  least : leastExponent ≤ e
  greatest : e ≤ 971

def reach (m : Nat) (e : Int) : ℚ := if m == twoTo 52 && e != leastExponent then 1 / 4 else 1 / 2

/-- The numbers that round to a double: around it, up to half of its last place above and below, or
a quarter below the powers of two, both ends only if its mantissa is even. -/
structure RoundsTo (q : ℚ) (m : Nat) (e : Int) : Prop where
  low : (m - reach m e) * 2 ^ e ≤ q
  high : q ≤ (m + 1 / 2) * 2 ^ e
  tie : q = (m - reach m e) * 2 ^ e ∨ q = (m + 1 / 2) * 2 ^ e → m % 2 = 0

theorem reach_le (m : Nat) (e : Int) : reach m e ≤ 1 / 2 := by
  unfold reach
  split <;> norm_num

theorem nearestWord_of_place {n d r : Nat} {e : Int} (above : 0 < n) (below : 0 < d)
    (place : IsLastPlace (n / d) e) (rounds : roundQuotient (unscale n d e).1 (unscale n d e).2 = r)
    (greatest : e ≤ 971) (bits : r ≤ twoTo 53) :
    nearestWord false n d = (e - leastExponent).toNat * twoTo 52 + r := by
  have fits : (e - leastExponent).toNat * twoTo 52 + r ≤ 0x7FF * twoTo 52 := by
    unfold leastExponent twoTo at *
    simp only [Nat.pow_eq] at *
    omega
  unfold nearestWord
  rw [if_neg above.ne', lastPlace_eq above below place]
  dsimp only
  rw [rounds, min_eq_left fits, if_neg Bool.false_ne_true, Nat.zero_add]

theorem round_unscale {n d r : Nat} {e : Int} (below : 0 < d) (low : (r - 1 / 2) * 2 ^ e ≤ (n : ℚ) / d)
    (high : (n : ℚ) / d ≤ (r + 1 / 2) * 2 ^ e)
    (tie : (n : ℚ) / d = (r - 1 / 2) * 2 ^ e ∨ (n : ℚ) / d = (r + 1 / 2) * 2 ^ e → r % 2 = 0) :
    roundQuotient (unscale n d e).1 (unscale n d e).2 = r := by
  have size : (0 : ℚ) < 2 ^ e := by positivity
  rw [← le_div_iff₀ size, ← unscale_quotient] at low
  rw [← div_le_iff₀ size, ← unscale_quotient] at high
  rw [← div_eq_iff size.ne', ← div_eq_iff size.ne', ← unscale_quotient] at tie
  exact roundQuotient_near (unscale_pos below e) low high tie

theorem nearestWord_carry {n d : Nat} {e : Int} (above : 0 < n) (below : 0 < d)
    (least : leastExponent < e) (greatest : e ≤ 971) (low : (2 ^ 52 - 1 / 4) * 2 ^ e ≤ (n : ℚ) / d)
    (high : (n : ℚ) / d < 2 ^ (e + 52)) :
    nearestWord false n d = (e - leastExponent).toNat * twoTo 52 + twoTo 52 := by
  have half : (2 : ℚ) ^ e = 2 ^ (e - 1) * 2 := by
    rw [← zpow_add_one₀ two_ne_zero, sub_add_cancel]
  have size : (0 : ℚ) < 2 ^ (e - 1) := by positivity
  have whole : ((twoTo 53 : Nat) : ℚ) = 2 ^ 53 := cast_twoTo 53
  have top : (2 : ℚ) ^ (e + 52) = 2 ^ 53 * 2 ^ (e - 1) := by
    rw [mul_comm, ← zpow_natCast, ← zpow_add₀ two_ne_zero]
    congr 1
    push_cast
    ring
  have place : IsLastPlace ((n : ℚ) / d) (e - 1) := by
    refine ⟨by omega, by rwa [show e - 1 + 53 = e + 52 by ring], .inr ?_⟩
    refine le_trans ?_ low
    rw [half, zpow_add₀ two_ne_zero, mul_comm]
    nlinarith
  rw [half] at low
  rw [top] at high
  have rounds : roundQuotient (unscale n d (e - 1)).1 (unscale n d (e - 1)).2 = twoTo 53 := by
    apply round_unscale below
    · rw [whole]
      linarith
    · rw [whole]
      linarith
    · exact fun _ => by decide
  rw [nearestWord_of_place above below place rounds (by omega) le_rfl]
  unfold leastExponent twoTo at *
  simp only [Nat.pow_eq] at *
  omega

theorem nearestWord_eq {n d m : Nat} {e : Int} (above : 0 < n) (below : 0 < d) (finite : IsFinite m e)
    (rounds : RoundsTo (n / d) m e) :
    nearestWord false n d = (e - leastExponent).toNat * twoTo 52 + m := by
  have bits := finite.bits
  have full := finite.full
  have least := finite.least
  have greatest := finite.greatest
  have low := rounds.low
  have size : (0 : ℚ) < 2 ^ e := by positivity
  have near := reach_le m e
  by_cases place : e = leastExponent ∨ (2 : ℚ) ^ (e + 52) ≤ n / d
  · have top : (m : ℚ) + 1 ≤ 2 ^ 53 := by
      rw [← cast_twoTo]
      exact_mod_cast bits
    have small : (n : ℚ) / d < 2 ^ (e + 53) := by
      rw [zpow_add₀ two_ne_zero, mul_comm]
      refine rounds.high.trans_lt (mul_lt_mul_of_pos_right ?_ size)
      exact (by linarith : (m : ℚ) + 1 / 2 < 2 ^ 53)
    refine nearestWord_of_place above below ⟨least, small, place⟩ ?_ greatest bits.le
    refine round_unscale below (by nlinarith) rounds.high ?_
    rintro (here | here)
    · exact rounds.tie (.inl (by nlinarith))
    · exact rounds.tie (.inr here)
  -- Too small for 53 bits at this place, and yet close enough: it is just below a power of two.
  · rw [not_or, not_le] at place
    have under : (m : ℚ) < 2 ^ 52 + 1 / 2 := by
      have far := low.trans_lt place.2
      rw [zpow_add₀ two_ne_zero, mul_comm, mul_lt_mul_iff_right₀ size] at far
      have far : (m : ℚ) - reach m e < 2 ^ 52 := far
      linarith
    have single : m = twoTo 52 := by
      refine le_antisymm ?_ (full.resolve_right place.1)
      have fits : m < twoTo 52 + 1 := by
        rw [← Nat.cast_lt (α := ℚ), Nat.cast_succ, cast_twoTo]
        linarith
      exact Nat.le_of_lt_succ fits
    have quarter : reach m e = 1 / 4 := if_pos (by simp [single, place.1])
    rw [quarter, single, cast_twoTo] at low
    rw [single]
    exact nearestWord_carry above below (lt_of_le_of_ne least (Ne.symm place.1)) greatest low place.2

theorem word_of_finite {word m : Nat} {e : Int} {negative : Bool} (fits : word < twoTo 64)
    (finite : decodeWord word = .finite negative m e) :
    word = (if negative then twoTo 63 else 0) + ((e - leastExponent).toNat * twoTo 52 + m) ∧
      (m = 0 ∧ e = leastExponent ∨ IsFinite m e) := by
  unfold decodeWord at finite
  dsimp only at finite
  split at finite
  · split at finite <;> cases finite
  · split at finite
    all_goals
      rename_i infinite field
      cases finite
      simp only [beq_iff_eq, and_true, sub_self, Int.toNat_zero, add_sub_cancel_left, Int.toNat_natCast]
      unfold twoTo at *
      simp only [Nat.pow_eq] at *
      have bits : twoTo 53 = 2 ^ 53 ∧ twoTo 52 = 2 ^ 52 := ⟨rfl, rfl⟩
      have least : leastExponent = -1074 := rfl
      refine ⟨by split <;> omega, or_iff_not_imp_left.mpr fun nonzero => ?_⟩
      constructor <;> omega

theorem word_of_infinity {word : Nat} {negative : Bool} (fits : word < twoTo 64)
    (infinite : decodeWord word = .infinity negative) :
    word = (if negative then twoTo 63 else 0) + 0x7FF * twoTo 52 := by
  unfold decodeWord at infinite
  dsimp only at infinite
  split at infinite
  · split at infinite <;> cases infinite
    simp only [beq_iff_eq]
    unfold twoTo at *
    simp only [Nat.pow_eq] at *
    split <;> omega
  · split at infinite <;> cases infinite

theorem cast_tenTo (n : Nat) : ((Decimal.tenTo n : Nat) : ℚ) = 10 ^ n := by
  change ((10 ^ n : Nat) : ℚ) = _
  exact_mod_cast rfl

theorem lt_ten_pow (digits : Nat) : digits < 10 ^ (digits.log2 / 3 + 1) :=
  calc digits < 2 ^ (digits.log2 + 1) := Nat.lt_log2_self
    _ ≤ 2 ^ (3 * (digits.log2 / 3 + 1)) := Nat.pow_le_pow_right Nat.two_pos (by omega)
    _ = 8 ^ (digits.log2 / 3 + 1) := Nat.pow_mul 2 3 _
    _ ≤ 10 ^ (digits.log2 / 3 + 1) := Nat.pow_le_pow_left (by decide) _

theorem tenTo_pos (n : Nat) : 0 < Decimal.tenTo n := Nat.pow_pos (by decide)

theorem RoundsTo.least {q : ℚ} {m : Nat} {e : Int} (finite : IsFinite m e) (rounds : RoundsTo q m e) :
    (10 : ℚ) ^ (-decimalReach - 1) < q := by
  have one : (1 : ℚ) ≤ m := by exact_mod_cast finite.positive
  have near := reach_le m e
  have size : (0 : ℚ) < 2 ^ e := by positivity
  have power : 2 ^ 1075 < 10 ^ 401 := by decide +kernel
  have power : (2 : ℚ) ^ 1075 < 10 ^ 401 := by exact_mod_cast power
  calc (10 : ℚ) ^ (-decimalReach - 1) = (10 ^ 401)⁻¹ := by rw [zpow_of_neg (by decide)]; rfl
    _ < (2 ^ 1075)⁻¹ := inv_strictAnti₀ (by positivity) power
    _ = 2 ^ (leastExponent - 1) := by rw [zpow_of_neg (by decide)]; rfl
    _ ≤ 2 ^ (e - 1) := zpow_le_zpow_right₀ one_le_two (by have := finite.least; omega)
    _ = 1 / 2 * 2 ^ e := by rw [zpow_sub_one₀ two_ne_zero]; ring
    _ ≤ (m - reach m e) * 2 ^ e := mul_le_mul_of_nonneg_right (by linarith) size.le
    _ ≤ q := rounds.low

theorem ofDecimal_eq {d : Decimal} {m : Nat} {e : Int} (finite : IsFinite m e)
    (rounds : RoundsTo (d.digits * 10 ^ d.exponent) m e) (reached : d.exponent ≤ decimalReach) :
    ofDecimal false d = Float.ofBits (UInt64.ofNat ((e - leastExponent).toNat * twoTo 52 + m)) := by
  have least := rounds.least finite
  have filled : d.digits ≠ 0 := by
    intro none
    rw [none, Nat.cast_zero, zero_mul] at least
    exact absurd least (not_lt.mpr (by positivity))
  have above : 0 < d.digits := Nat.pos_of_ne_zero filled
  have regarded : ¬ d.exponent + (d.digits.log2 / 3 + 1 : Nat) < -decimalReach := by
    intro tiny
    have bound : (d.digits : ℚ) < 10 ^ (d.digits.log2 / 3 + 1) := by
      exact_mod_cast lt_ten_pow d.digits
    have size : (0 : ℚ) < 10 ^ d.exponent := by positivity
    apply absurd least (not_lt.mpr _)
    calc (d.digits : ℚ) * 10 ^ d.exponent ≤ 10 ^ (d.digits.log2 / 3 + 1) * 10 ^ d.exponent :=
          mul_le_mul_of_nonneg_right bound.le size.le
      _ = 10 ^ (d.exponent + (d.digits.log2 / 3 + 1 : Nat)) := by
          rw [← zpow_natCast, ← zpow_add₀ (by norm_num), add_comm]
      _ ≤ 10 ^ (-decimalReach - 1) := zpow_le_zpow_right₀ (by norm_num) (by omega)
  unfold ofDecimal nearest
  rw [if_neg filled, if_neg (not_lt.mpr reached), if_neg regarded]
  split
  · rw [nearestWord_eq above (tenTo_pos _) finite]
    rwa [cast_tenTo, div_eq_mul_inv, ← zpow_of_neg ‹_›]
  · rw [nearestWord_eq (Nat.mul_pos above (tenTo_pos _)) Nat.one_pos finite]
    rwa [Nat.cast_one, div_one, Nat.cast_mul, cast_tenTo, ← zpow_of_nonneg ‹_›]

end MeshLang.Binary64
