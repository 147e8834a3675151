import Mathlib
import MeshLang.Scalar.Double

namespace MeshLang.Binary64

open Float.Model (UnpackedFloat Format)
open Float.Model.UnpackedFloat

abbrev format : Format := .binary64

theorem decodeWord_eq_undefined {word : Nat} :
    decodeWord word = .undefined ↔ word / twoTo 52 % twoTo 11 = 0x7FF ∧ word % twoTo 52 ≠ 0 := by
  unfold decodeWord
  grind

theorem isNaNBits_iff (bits : BitVec format.numBits) :
    isNaNBits bits = true ↔ decodeWord bits.toNat = .undefined := by
  have exponent : (unpackExponent bits).toNat = bits.toNat / twoTo 52 % twoTo 11 := by
    rw [unpackExponent_def, BitVec.extractLsb'_toNat, Nat.shiftRight_eq_div_pow]
    rfl
  have mantissa : (unpackMantissa bits).toNat = bits.toNat % twoTo 52 := by
    rw [unpackMantissa_def, BitVec.extractLsb'_toNat, Nat.shiftRight_zero]
    rfl
  have full : unpackExponent bits = -1#_ ↔ bits.toNat / twoTo 52 % twoTo 11 = 0x7FF := by
    rw [← BitVec.toNat_inj, exponent]
    rfl
  have filled : unpackMantissa bits = 0#_ ↔ bits.toNat % twoTo 52 = 0 := by
    rw [← BitVec.toNat_inj, mantissa]
    rfl
  simp only [isNaNBits, full, filled, decide_eq_true_eq, ne_eq, decodeWord_eq_undefined]

theorem eq_nan_iff {x : Float} : x = Float.nan ↔ decode x = .undefined := by
  constructor
  · rintro rfl
    decide
  · intro undefined
    have bits := (isNaNBits_iff x.toBits.toBitVec).mpr undefined
    simp only [isNaNBits, decide_eq_true_eq] at bits
    have canonical := x.toModel.valid.eq_packedNaN bits.1 bits.2
    exact Float.toBits_inj.mp (UInt64.toBitVec_inj.mp canonical)

theorem isUndefined_iff {x : Float} : Scalar.isUndefined x = true ↔ decode x = .undefined := by
  rw [← eq_nan_iff]
  change (!(x == x)) = true ↔ _
  rw [Bool.not_eq_true', Float.beq_self_eq_false_iff]

theorem toBits_ofBits {word : UInt64} (defined : decodeWord word.toNat ≠ .undefined) :
    (Float.ofBits word).toBits = word := by
  have bits : @isNaNBits format word.toBitVec = false :=
    Bool.eq_false_iff.mpr (mt (isNaNBits_iff word.toBitVec).mp defined)
  apply UInt64.toBitVec_inj.mp
  have packed := @pack_unpack format word.toBitVec
  rw [bits] at packed
  exact packed

theorem decode_ofBits {word : UInt64} (defined : decodeWord word.toNat ≠ .undefined) :
    decode (Float.ofBits word) = decodeWord word.toNat := by
  rw [decode, toBits_ofBits defined]

theorem unpack_pack_unpack (bits : BitVec format.numBits) :
    unpack format (pack format (unpack format bits)) = unpack format bits := by
  rw [pack_unpack]
  split
  · rename_i undefined
    simp only [isNaNBits, decide_eq_true_eq] at undefined
    rw [unpack_packedNaN, unpack]
    simp [undefined]
  · rfl

theorem unpack_neg (sign : Sign) (exponent : BitVec 11) (mantissa : BitVec 52) :
    (unpack format (packComponents format sign exponent mantissa)).neg =
      unpack format (packComponents format (-sign) exponent mantissa) := by
  unfold unpack
  simp only [unpackExponent_packComponents, unpackMantissa_packComponents,
    unpackSign_packComponents, Sign.ofBitVec_toBitVec]
  split
  · split <;> rfl
  · split
    · split <;> rfl
    · rfl

theorem toNat_packComponents (sign : Sign) (exponent : BitVec 11) (mantissa : BitVec 52) :
    (packComponents format sign exponent mantissa).toNat =
      sign.toBitVec.toNat * 2 ^ 63 + exponent.toNat * 2 ^ 52 + mantissa.toNat := by
  unfold packComponents
  rw [BitVec.toNat_append, BitVec.toNat_append, ← Nat.shiftLeft_add_eq_or_of_lt mantissa.isLt,
    ← Nat.shiftLeft_add_eq_or_of_lt exponent.isLt]
  simp only [Nat.shiftLeft_eq]
  omega

theorem neg_ofBits {word other : UInt64}
    (turned : word.toNat + twoTo 63 = other.toNat ∨ other.toNat + twoTo 63 = word.toNat) :
    -Float.ofBits word = Float.ofBits other := by
  obtain ⟨sign, exponent, mantissa, split⟩ :
      ∃ sign exponent mantissa, word.toBitVec = packComponents format sign exponent mantissa :=
    ⟨_, _, _,
      (@packComponents_unpackSign_unpackExponent_unpackMantissa format word.toBitVec).symm⟩
  have size : word.toNat = _ := (congrArg BitVec.toNat split).trans (toNat_packComponents _ _ _)
  have low : mantissa.toNat < 2 ^ 52 := mantissa.isLt
  have middle : exponent.toNat < 2 ^ 11 := exponent.isLt
  have fits := other.toNat_lt
  have flipped : other.toBitVec = packComponents format (-sign) exponent mantissa := by
    rw [← BitVec.toNat_inj, toNat_packComponents]
    change other.toNat = _
    unfold twoTo at turned
    simp only [Nat.pow_eq] at turned
    cases sign with
    | negative =>
      change word.toNat = 1 * 2 ^ 63 + _ + _ at size
      change _ = 0 * 2 ^ 63 + _ + _
      omega
    | positive =>
      change word.toNat = 0 * 2 ^ 63 + _ + _ at size
      change _ = 1 * 2 ^ 63 + _ + _
      omega
  change Float.ofModel (Float.Model.pack (UnpackedFloat.neg (unpack format (pack format
    (unpack format word.toBitVec))))) = Float.ofModel (Float.Model.pack (unpack format other.toBitVec))
  rw [unpack_pack_unpack, split, unpack_neg, flipped]

theorem decode_neg_defined {x : Float} (defined : decode x ≠ .undefined) :
    decode (-x) ≠ .undefined := by
  have fits := x.toBits.toNat_lt
  obtain ⟨other, turned⟩ : ∃ other : UInt64,
      x.toBits.toNat + twoTo 63 = other.toNat ∨ other.toNat + twoTo 63 = x.toBits.toNat := by
    have size : twoTo 63 = 2 ^ 63 := rfl
    rw [size]
    by_cases high : x.toBits.toNat < 2 ^ 63
    · refine ⟨UInt64.ofNat (x.toBits.toNat + 2 ^ 63), .inl ?_⟩
      rw [UInt64.toNat_ofNat_of_lt' (by change _ < 2 ^ 64; omega)]
    · refine ⟨UInt64.ofNat (x.toBits.toNat - 2 ^ 63), .inr ?_⟩
      rw [UInt64.toNat_ofNat_of_lt' (by change _ < 2 ^ 64; omega)]
      omega
  have same : decodeWord other.toNat ≠ .undefined := by
    unfold decode at defined
    rw [ne_eq, decodeWord_eq_undefined] at defined ⊢
    unfold twoTo at *
    simp only [Nat.pow_eq] at *
    omega
  have negated : -x = Float.ofBits other := by
    rw [← neg_ofBits turned, Float.ofBits_toBits]
  rw [negated, decode_ofBits same]
  exact same

theorem compare_swap (x y : UnpackedFloat) : y.compare x = (x.compare y).map Ordering.swap := by
  have exponents (e f : Int) : (compare e f).swap = compare f e := Std.OrientedCmp.eq_swap.symm
  have mantissas (m n : Nat) : (compare m n).swap = compare n m := Std.OrientedCmp.eq_swap.symm
  have signs (s t : Sign) : compare t s = (compare s t).swap := by cases s <;> cases t <;> rfl
  cases x with
  | notANumber => cases y <;> rfl
  | infinity s =>
    cases y with
    | infinity t => exact congrArg some (signs s t)
    | _ => cases s <;> rfl
  | zero s =>
    cases y with
    | infinity t | finite t => cases t <;> rfl
    | _ => rfl
  | finite s =>
    cases y with
    | finite t =>
      cases s <;> cases t <;>
        simp [UnpackedFloat.compare, Ordering.swap_then, exponents, mantissas]
    | infinity t => cases t <;> rfl
    | _ => cases s <;> rfl

theorem compare_isSome {x y : UnpackedFloat} (left : x ≠ .notANumber) (right : y ≠ .notANumber) :
    (x.compare y).isSome := by
  fun_cases UnpackedFloat.compare x y <;> first | rfl | contradiction

theorem unpack_ne_notANumber {x : Float} (defined : decode x ≠ .undefined) :
    x.toModel.unpack ≠ .notANumber := by
  intro undefined
  apply defined
  rw [← eq_nan_iff, ← Float.toBits_inj, ← UInt64.toBitVec_inj]
  exact (unpack_eq_notANumber_iff_of_valid x.toModel.valid).mp undefined

theorem le_of_not_lt {x y : Float} (left : decode x ≠ .undefined) (right : decode y ≠ .undefined)
    (above : Scalar.lt y x = false) : Scalar.le x y = true := by
  obtain ⟨order, compared⟩ := Option.isSome_iff_exists.mp
    (compare_isSome (unpack_ne_notANumber left) (unpack_ne_notANumber right))
  have swapped := compare_swap x.toModel.unpack y.toModel.unpack
  rw [compared] at swapped
  -- both comparisons of doubles are one of their parts
  change decide (y < x) = false at above
  rw [decide_eq_false_iff_not] at above
  change ¬ decide (y.toModel < x.toModel) = true at above
  rw [decide_eq_true_eq] at above
  change ¬ (y.toModel.unpack.compare x.toModel.unpack == some .lt) = true at above
  change decide (x ≤ y) = true
  rw [decide_eq_true_eq]
  change decide (x.toModel ≤ y.toModel) = true
  rw [decide_eq_true_eq]
  change (x.toModel.unpack.compare y.toModel.unpack).any (·.isLE) = true
  rw [compared]
  rw [swapped] at above
  cases order with
  | gt => exact absurd rfl above
  | _ => rfl

theorem decode_nearest (negative : Bool) (n d : Nat) : decode (nearest negative n d) ≠ .undefined := by
  obtain ⟨size, bounded, word⟩ : ∃ size ≤ 0x7FF * twoTo 52,
      nearestWord negative n d = (if negative then twoTo 63 else 0) + size := by
    unfold nearestWord
    dsimp only
    split
    · exact ⟨0, Nat.zero_le _, rfl⟩
    · exact ⟨_, Nat.min_le_right _ _, rfl⟩
  have defined : decodeWord (nearestWord negative n d) ≠ .undefined ∧
      nearestWord negative n d < 2 ^ 64 := by
    rw [word, ne_eq, decodeWord_eq_undefined]
    unfold twoTo at *
    simp only [Nat.pow_eq] at *
    split <;> omega
  have fits : (UInt64.ofNat (nearestWord negative n d)).toNat = nearestWord negative n d :=
    UInt64.toNat_ofNat_of_lt' defined.2
  rw [nearest, decode_ofBits (by rw [fits]; exact defined.1), fits]
  exact defined.1

theorem decode_ofDecimal (negative : Bool) (d : Decimal) :
    decode (ofDecimal negative d) ≠ .undefined := by
  unfold ofDecimal
  repeat' split
  all_goals exact decode_nearest _ _ _

end MeshLang.Binary64

namespace MeshLang

theorem Decimal.Written.text_eq_cons (written : Decimal.Written) :
    ∃ c rest, written.text = c :: rest ∧ (c.isDigit = true ∨ c = '.') := by
  obtain ⟨whole, fraction?, scale?, wholeDigits, fractionDigits, filled⟩ := written
  cases whole with
  | cons c whole => exact ⟨c, _, rfl, .inl (wholeDigits c List.mem_cons_self)⟩
  | nil =>
    cases fraction? with
    | some fraction => exact ⟨'.', _, rfl, .inr rfl⟩
    | none => simp at filled

namespace Double

theorem named?_eq_none {c : Char} (rest : List Char) (plain : c.isDigit = true ∨ c = '.') :
    named? (c :: rest) = none := by
  have same : c.toLower = c := by
    rcases plain with digit | rfl
    · simp only [Char.isDigit, Bool.and_eq_true, decide_eq_true_eq] at digit
      exact dif_neg fun upper => absurd (UInt32.le_trans upper.1 digit.2) (by decide)
    · rfl
  have apart (first : Char) {others : List Char} (other : ¬ (first.isDigit = true ∨ first = '.')) :
      String.ofList ((c :: rest).map Char.toLower) ≠ String.ofList (first :: others) := by
    intro here
    have heads := congrArg List.head? (String.ofList_injective here)
    rw [List.map_cons, same] at heads
    cases heads
    exact other plain
  unfold named?
  split
  · exact absurd ‹_› (apart 'i' (by decide))
  · exact absurd ‹_› (apart 'i' (by decide))
  · exact absurd ‹_› (apart 'n' (by decide))
  · rfl

theorem readUnsigned?_text (written : Decimal.Written) :
    readUnsigned? written.text = some (Binary64.ofDecimal false written.value) := by
  obtain ⟨c, rest, text, plain⟩ := written.text_eq_cons
  have unnamed := named?_eq_none rest plain
  rw [← text] at unnamed
  rw [readUnsigned?, unnamed, Decimal.read?_text]
  rfl

theorem read?_text (written : Decimal.Written) :
    read? written.text = some (Binary64.ofDecimal false written.value) := by
  obtain ⟨c, rest, text, plain⟩ := written.text_eq_cons
  have unsigned : read? written.text = readUnsigned? written.text := by
    rw [text]
    unfold read?
    split
    · rename_i here
      cases here
      exact absurd plain (by decide)
    · rename_i here
      cases here
      exact absurd plain (by decide)
    · rfl
  rw [unsigned, readUnsigned?_text]

end Double

end MeshLang
