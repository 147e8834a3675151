namespace MeshLang

/-- The number `digits · 10 ^ exponent`. -/
structure Decimal where
  digits : Nat
  exponent : Int
deriving DecidableEq, Repr

namespace Decimal

def tenTo (exponent : Nat) : Nat := Nat.pow 10 exponent

def digitValue (c : Char) : Nat := c.toNat - '0'.toNat

def natural (read : Nat) : List Char → Nat
  | [] => read
  | c :: rest => natural (read * 10 + digitValue c) rest

theorem natural_eq_ofDigitChars (read : Nat) (text : List Char) :
    natural read text = Nat.ofDigitChars 10 text read := by
  induction text generalizing read with
  | nil => rfl
  | cons c rest ih =>
    rw [Nat.ofDigitChars_cons, Nat.mul_comm]
    exact ih _

theorem natural_append (read : Nat) (first second : List Char) :
    natural read (first ++ second) = natural (natural read first) second := by
  induction first generalizing read with
  | nil => rfl
  | cons c rest ih => exact ih _

theorem natural_zeros (read count : Nat) :
    natural read (List.replicate count '0') = read * tenTo count := by
  induction count generalizing read with
  | zero => exact (Nat.mul_one read).symm
  | succ count ih =>
    have next : tenTo (count + 1) = 10 * tenTo count := Nat.pow_succ'
    rw [next, ← Nat.mul_assoc]
    exact ih _

def spanDigits (text : List Char) : List Char × List Char :=
  (text.takeWhile Char.isDigit, text.dropWhile Char.isDigit)

def readExponent? (text : List Char) : Option Int :=
  let (negative, digits) : Bool × List Char :=
    match text with
    | '+' :: rest => (false, rest)
    | '-' :: rest => (true, rest)
    | _ => (false, text)
  if digits.isEmpty || !digits.all Char.isDigit then none
  else some (if negative then -(natural 0 digits : Int) else natural 0 digits)

def readScale? : List Char → Option Int
  | [] => some 0
  | c :: rest => if c = 'e' || c = 'E' then readExponent? rest else none

def read? (text : List Char) : Option Decimal :=
  let (whole, afterWhole) := spanDigits text
  let (fraction, afterFraction) : List Char × List Char :=
    match afterWhole with
    | '.' :: rest => spanDigits rest
    | _ => ([], afterWhole)
  if whole.isEmpty && fraction.isEmpty then none
  else
    (readScale? afterFraction).map fun scale =>
      ⟨natural 0 (whole ++ fraction), scale - fraction.length⟩

def shift (numerator denominator : Nat) (exponent : Int) : Nat × Nat :=
  if exponent < 0 then (numerator * tenTo (-exponent).toNat, denominator)
  else (numerator, denominator * tenTo exponent.toNat)

def reaches (numerator denominator : Nat) (exponent : Int) : Bool :=
  let (scaled, unit) := shift numerator denominator exponent
  unit ≤ scaled

/-- Exponent of the first digit of a positive quotient. Binary logarithms give it up to one, so the
largest of a few candidates that the quotient reaches is the one. -/
def leadingExponent (numerator denominator : Nat) : Int :=
  let guess := ((numerator.log2 : Int) - denominator.log2) * 30103 / 100000
  let candidates := [guess + 1, guess, guess - 1]
  (candidates.find? (reaches numerator denominator)).getD (guess - 2)

def naturalText (n : Nat) : List Char := Nat.toDigits 10 n

theorem natural_naturalText (n : Nat) : natural 0 (naturalText n) = n := by
  rw [natural_eq_ofDigitChars]
  exact Nat.ofDigitChars_toDigits (by decide) (by decide)

theorem isDigit_of_mem_naturalText {n : Nat} : ∀ c ∈ naturalText n, c.isDigit = true := by
  intro c here
  exact Nat.isDigit_of_mem_toDigits (by decide) (by decide) here

def withoutTrailingZeros (text : List Char) : List Char :=
  (text.reverse.dropWhile (· == '0')).reverse

theorem withoutTrailingZeros_append (text : List Char) :
    ∃ count, text = withoutTrailingZeros text ++ List.replicate count '0' := by
  refine ⟨(text.reverse.takeWhile (· == '0')).length, ?_⟩
  have zeros : text.reverse.takeWhile (· == '0') =
      List.replicate (text.reverse.takeWhile (· == '0')).length '0' :=
    List.eq_replicate_of_mem fun c here => by simpa using List.all_eq_true.mp List.all_takeWhile c here
  have split := @List.takeWhile_append_dropWhile _ (· == '0') text.reverse
  rw [zeros] at split
  have turned := congrArg List.reverse split
  rw [List.reverse_append, List.reverse_replicate, List.reverse_reverse] at turned
  exact turned.symm

structure Scale where
  mark : Char
  sign : Option Char
  digits : List Char
  marked : mark = 'e' ∨ mark = 'E'
  signed : ∀ c ∈ sign, c = '+' ∨ c = '-'
  filled : digits ≠ []
  areDigits : ∀ c ∈ digits, c.isDigit = true

namespace Scale

def text (scale : Scale) : List Char := scale.mark :: (scale.sign.toList ++ scale.digits)

def value (scale : Scale) : Int :=
  if scale.sign = some '-' then -(natural 0 scale.digits : Int) else natural 0 scale.digits

end Scale

/-- An unsigned decimal number as it may be written: digits with an optional point that has a digit
on at least one side, then an optional exponent. -/
structure Written where
  whole : List Char
  fraction? : Option (List Char)
  scale? : Option Scale
  wholeDigits : ∀ c ∈ whole, c.isDigit = true
  fractionDigits : ∀ c ∈ fraction?.getD [], c.isDigit = true
  filled : whole ≠ [] ∨ fraction?.getD [] ≠ []

namespace Written

def fraction (written : Written) : List Char := written.fraction?.getD []

def tail (written : Written) : List Char :=
  written.fraction?.elim [] ('.' :: ·) ++ written.scale?.elim [] Scale.text

def text (written : Written) : List Char := written.whole ++ written.tail

def value (written : Written) : Decimal :=
  ⟨natural 0 (written.whole ++ written.fraction),
   written.scale?.elim 0 Scale.value - written.fraction.length⟩

end Written

theorem spanDigits_append {digits rest : List Char} (all : ∀ c ∈ digits, c.isDigit = true)
    (ends : ∀ c ∈ rest.head?, c.isDigit = false) : spanDigits (digits ++ rest) = (digits, rest) := by
  have stops : rest.takeWhile Char.isDigit = [] ∧ rest.dropWhile Char.isDigit = rest := by
    cases rest with
    | nil => exact ⟨rfl, rfl⟩
    | cons c rest => simp [ends c rfl]
  rw [spanDigits, List.takeWhile_append_of_pos all, List.dropWhile_append_of_pos all, stops.1,
    stops.2, List.append_nil]

theorem readScale?_text (scale : Scale) : readScale? scale.text = some scale.value := by
  obtain ⟨mark, sign, digits, marked, signed, filled, areDigits⟩ := scale
  have isMark : (mark = 'e' || mark = 'E') = true := by simpa using marked
  have read (negative : Bool) : (if digits.isEmpty || !digits.all Char.isDigit then none
      else some (if negative then -(natural 0 digits : Int) else natural 0 digits)) =
        some (if negative then -(natural 0 digits : Int) else natural 0 digits) := by
    rw [if_neg]
    simpa [filled] using areDigits
  change (if (mark = 'e' || mark = 'E') = true then readExponent? (sign.toList ++ digits) else none) = _
  rw [if_pos isMark]
  cases sign with
  | some c =>
    rcases signed c rfl with rfl | rfl
    · exact read false
    · exact read true
  | none =>
    cases digits with
    | nil => exact absurd rfl filled
    | cons c digits =>
      have digit := areDigits c List.mem_cons_self
      have apart : c ≠ '+' ∧ c ≠ '-' := by
        constructor <;> rintro rfl <;> exact absurd digit (by decide)
      have unsigned : readExponent? (c :: digits) = _ := readExponent?.eq_def _
      split at unsigned
      rename_i negative rest same
      split at same
      · rename_i here
        exact absurd (List.cons.inj here).1 apart.1
      · rename_i here
        exact absurd (List.cons.inj here).1 apart.2
      · cases same
        exact unsigned.trans (read false)

def spanFraction : List Char → List Char × List Char
  | '.' :: rest => spanDigits rest
  | rest => ([], rest)

theorem read?_of_parts {text whole rest fraction after : List Char}
    (first : spanDigits text = (whole, rest)) (second : spanFraction rest = (fraction, after)) :
    read? text = if whole.isEmpty && fraction.isEmpty then none
      else (readScale? after).map fun scale =>
        ⟨natural 0 (whole ++ fraction), scale - fraction.length⟩ := by
  unfold read?
  rw [first]
  unfold spanFraction at second
  split at second
  · simp only [second]
  · cases second
    simp

theorem spanFraction_append {fraction? : Option (List Char)} {after : List Char}
    (all : ∀ c ∈ fraction?.getD [], c.isDigit = true)
    (ends : ∀ c ∈ after.head?, c.isDigit = false ∧ c ≠ '.') :
    spanFraction (fraction?.elim [] ('.' :: ·) ++ after) = (fraction?.getD [], after) := by
  cases fraction? with
  | some fraction => exact spanDigits_append all fun c here => (ends c here).1
  | none =>
    change spanFraction after = ([], after)
    unfold spanFraction
    split
    · exact absurd rfl (ends '.' rfl).2
    · rfl

theorem read?_text (written : Written) : read? written.text = some written.value := by
  obtain ⟨whole, fraction?, scale?, wholeDigits, fractionDigits, filled⟩ := written
  have scaled : readScale? (scale?.elim [] Scale.text) = some (scale?.elim 0 Scale.value) := by
    cases scale? with
    | none => rfl
    | some scale => exact readScale?_text scale
  have ends : ∀ c ∈ (scale?.elim [] Scale.text).head?, c.isDigit = false ∧ c ≠ '.' := by
    cases scale? with
    | none => nofun
    | some scale =>
      rintro c ⟨⟩
      rcases scale.marked with mark | mark <;> rw [mark] <;> decide
  have stops : ∀ c ∈ (fraction?.elim [] ('.' :: ·) ++ scale?.elim [] Scale.text).head?,
      c.isDigit = false := by
    cases fraction? with
    | none => exact fun c here => (ends c here).1
    | some fraction => rintro c ⟨⟩; rfl
  have some : ¬ (whole.isEmpty && (fraction?.getD []).isEmpty) = true := by
    simpa [Decidable.imp_iff_not_or] using filled
  refine (read?_of_parts (spanDigits_append wholeDigits stops)
    (spanFraction_append fractionDigits ends)).trans ?_
  rw [if_neg some, scaled]
  rfl

theorem exists_scale {text : List Char} {n : Int} (read : readScale? text = some n) :
    ∃ scale? : Option Scale, scale?.elim [] Scale.text = text ∧ scale?.elim 0 Scale.value = n := by
  cases text with
  | nil =>
    cases read
    exact ⟨none, rfl, rfl⟩
  | cons mark rest =>
    simp only [readScale?] at read
    split at read
    · rename_i marked
      have marked : mark = 'e' ∨ mark = 'E' := by simpa using marked
      obtain ⟨sign, digits, signed, rfl, value⟩ : ∃ sign digits, (∀ c ∈ sign, c = '+' ∨ c = '-') ∧
          rest = sign.toList ++ digits ∧ readExponent? rest =
            if digits.isEmpty || !digits.all Char.isDigit then none
            else some (if sign = some '-' then -(natural 0 digits : Int) else natural 0 digits) := by
        unfold readExponent?
        split
        rename_i negative digits same
        split at same <;> cases same
        · exact ⟨some '+', digits, by simp, rfl, rfl⟩
        · exact ⟨some '-', digits, by simp, rfl, rfl⟩
        · exact ⟨none, _, by simp, rfl, rfl⟩
      rw [value] at read
      split at read
      · cases read
      · rename_i proper
        cases read
        have proper : digits ≠ [] ∧ ∀ c ∈ digits, c.isDigit = true := by simpa using proper
        exact ⟨some ⟨mark, sign, digits, marked, signed, proper.1, proper.2⟩, rfl, rfl⟩
    · cases read

theorem isDigit_of_mem_takeWhile {text : List Char} :
    ∀ c ∈ text.takeWhile Char.isDigit, c.isDigit = true :=
  List.all_eq_true.mp List.all_takeWhile

theorem exists_fraction (rest : List Char) :
    ∃ fraction? : Option (List Char), (spanFraction rest).1 = fraction?.getD [] ∧
      rest = fraction?.elim [] ('.' :: ·) ++ (spanFraction rest).2 ∧
      ∀ c ∈ fraction?.getD [], c.isDigit = true := by
  unfold spanFraction
  split
  · rename_i rest
    exact ⟨some (rest.takeWhile Char.isDigit), rfl,
      congrArg ('.' :: ·) List.takeWhile_append_dropWhile.symm, isDigit_of_mem_takeWhile⟩
  · exact ⟨none, rfl, rfl, by simp⟩

/-- The reader reads the numbers that can be written, and nothing else. -/
theorem read?_eq_some_iff {text : List Char} {d : Decimal} :
    read? text = some d ↔ ∃ written : Written, written.text = text ∧ written.value = d := by
  constructor
  · intro read
    obtain ⟨fraction?, fraction, after, fractionDigits⟩ := exists_fraction (spanDigits text).2
    have parts := @read?_of_parts text (spanDigits text).1 (spanDigits text).2
      (spanFraction (spanDigits text).2).1 (spanFraction (spanDigits text).2).2 rfl rfl
    rw [read, fraction] at parts
    split at parts
    · cases parts
    · rename_i filled
      obtain ⟨n, scaled, value⟩ := Option.map_eq_some_iff.mp parts.symm
      obtain ⟨scale?, scale, size⟩ := exists_scale scaled
      refine ⟨⟨(spanDigits text).1, fraction?, scale?, isDigit_of_mem_takeWhile, fractionDigits,
        by simpa [Decidable.imp_iff_not_or] using filled⟩, ?_, ?_⟩
      · change (spanDigits text).1 ++ (fraction?.elim [] ('.' :: ·) ++ scale?.elim [] Scale.text) = text
        rw [scale, ← after]
        exact List.takeWhile_append_dropWhile
      · rw [← value, ← size]
        rfl
  · rintro ⟨written, rfl, rfl⟩
    exact read?_text written

end Decimal

end MeshLang
