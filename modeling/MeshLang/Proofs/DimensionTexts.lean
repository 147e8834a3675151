import MeshLang.Dimensions
import MeshLang.Proofs.Scalar.ShortestTexts

namespace MeshLang

namespace Text

theorem isBlank_of_isDigit {c : Char} (digit : c.isDigit = true) : isBlank c = false := by
  simp only [Char.isDigit, Bool.and_eq_true, decide_eq_true_eq] at digit
  have low : 48 ≤ c.toNat := digit.1
  have high : c.toNat ≤ 57 := digit.2
  simp only [isBlank, inRanges, blankRanges, List.any_cons, List.any_nil, Bool.or_false,
    Bool.or_eq_false_iff, Bool.and_eq_false_iff, decide_eq_false_iff_not]
  omega

/-- A text that white space does not separate. -/
structure Solid (text : List Char) : Prop where
  filled : text ≠ []
  solid : ∀ c ∈ text, isBlank c = false

theorem Parts.intercalate {parts : List (List Char)} (solid : ∀ part ∈ parts, Solid part) :
    Parts ([' '].intercalate parts) parts := by
  induction parts with
  | nil => exact .none .nil
  | cons part parts ih =>
    obtain ⟨first, others⟩ := List.forall_mem_cons.mp solid
    cases parts with
    | nil =>
      have alone : [' '].intercalate [part] = part ++ [] := by simp [List.intercalate]
      rw [alone]
      exact .cons_part first.filled first.solid nofun (.none .nil)
    | cons next parts =>
      rw [List.intercalate_cons_cons, List.append_assoc]
      refine .cons_part first.filled first.solid ?_ ((ih others).cons_blank rfl)
      rintro _ ⟨⟩
      rfl

theorem Solid.cons {c : Char} {text : List Char} (first : isBlank c = false) (rest : Solid text) :
    Solid (c :: text) :=
  ⟨List.cons_ne_nil c text, List.forall_mem_cons.mpr ⟨first, rest.solid⟩⟩

theorem solid_written (written : Decimal.Written) : Solid written.text := by
  obtain ⟨first, rest, text, -⟩ := written.text_eq_cons
  refine ⟨by rw [text]; exact List.cons_ne_nil first rest, ?_⟩
  obtain ⟨whole, fraction?, scale?, wholeDigits, fractionDigits, -⟩ := written
  refine List.forall_mem_append.mpr ⟨fun c here => isBlank_of_isDigit (wholeDigits c here), ?_⟩
  refine List.forall_mem_append.mpr ⟨?_, ?_⟩
  · cases fraction? with
    | none => nofun
    | some fraction =>
      exact List.forall_mem_cons.mpr ⟨rfl, fun c here => isBlank_of_isDigit (fractionDigits c here)⟩
  · cases scale? with
    | none => nofun
    | some scale =>
      obtain ⟨mark, sign, digits, marked, signed, -, areDigits⟩ := scale
      refine List.forall_mem_cons.mpr ⟨by rcases marked with rfl | rfl <;> rfl, ?_⟩
      refine List.forall_mem_append.mpr ⟨?_, fun c here => isBlank_of_isDigit (areDigits c here)⟩
      intro c here
      rcases signed c (Option.mem_toList.mp here) with rfl | rfl <;> rfl

theorem solid_shortestText (x : Float) : Solid (Decimal.shortestText x).toList := by
  cases kind : Binary64.decode x with
  | undefined =>
    have text : (Decimal.shortestText x).toList = ['N', 'a', 'N'] := by
      rw [Decimal.shortestText, kind]
      rfl
    rw [text]
    exact ⟨by decide, by simp [isBlank, inRanges, blankRanges]⟩
  | infinity negative =>
    have text : (Decimal.shortestText x).toList =
        if negative then ['-', 'i', 'n', 'f'] else ['i', 'n', 'f'] := by
      rw [Decimal.shortestText, kind]
      cases negative <;> rfl
    rw [text]
    cases negative <;> exact ⟨by decide, by simp [isBlank, inRanges, blankRanges]⟩
  | finite negative m e =>
    obtain ⟨-, finite⟩ := Binary64.word_of_finite x.toBits.toNat_lt kind
    obtain ⟨written, text, -⟩ := Decimal.exists_finiteText finite
    rw [Decimal.shortestText_finite kind, ← text]
    split
    · exact (solid_written written).cons rfl
    · exact solid_written written

end Text

namespace Dimensions

def Bracketed (source inner : List Char) : Prop :=
  ∃ before after, Text.Blank before ∧ Text.Blank after ∧
    source = before ++ '[' :: (inner ++ [']']) ++ after

section Reading

variable {α : Type} [Numeral α]

/-- What a text is read as: a dimension set, or the first of the three things that can be wrong. -/
inductive Reads (source : List Char) : Except DimensionsError (Dimensions α) → Prop
  | missingBrackets (bare : ∀ inner, ¬ Bracketed source inner) : Reads source (.error .missingBrackets)
  | wrongCount {inner : List Char} {parts : List (List Char)} (bracketed : Bracketed source inner)
      (cut : Text.Parts inner parts) (count : parts.length ≠ 7) :
      Reads source (.error (.wrongCount parts.length))
  | invalidExponent {inner bad : List Char} {before after : List (List Char)}
      (bracketed : Bracketed source inner) (cut : Text.Parts inner (before ++ bad :: after))
      (count : (before ++ bad :: after).length = 7)
      (numbers : ∀ part ∈ before, (Numeral.read? part : Option α).isSome)
      (other : (Numeral.read? bad : Option α) = none) :
      Reads source (.error (.invalidExponent (String.ofList bad)))
  | ok {inner : List Char} {parts : List (List Char)} {d : Dimensions α}
      (bracketed : Bracketed source inner) (cut : Text.Parts inner parts)
      (numbers : List.Forall₂ (fun part x => Numeral.read? part = some x) parts d.exponents) :
      Reads source (.ok d)

theorem insideBrackets?_eq_some_iff {text inner : List Char} :
    insideBrackets? text = some inner ↔ text = '[' :: (inner ++ [']']) := by
  unfold insideBrackets?
  constructor
  · intro found
    split at found
    · split at found
      · rename_i turned
        cases found
        rw [← List.reverse_cons, ← turned, List.reverse_reverse]
      · cases found
    · cases found
  · rintro rfl
    simp

theorem insideBrackets?_trim_eq_some_iff {source inner : List Char} :
    insideBrackets? (Text.trim source) = some inner ↔ Bracketed source inner := by
  rw [insideBrackets?_eq_some_iff]
  constructor
  · intro trimmed
    obtain ⟨before, after, blank, blank', split⟩ := Text.exists_trim source
    rw [trimmed] at split
    exact ⟨before, after, blank, blank', split⟩
  · rintro ⟨before, after, blank, blank', rfl⟩
    refine Text.trim_append blank blank' ?_ ?_ (List.cons_ne_nil _ _)
    · rintro _ ⟨⟩
      rfl
    · rw [← List.cons_append, List.getLast?_concat]
      rintro _ ⟨⟩
      rfl

theorem readExponents_eq_ok {parts : List (List Char)} {xs : List α} :
    readExponents parts = .ok xs ↔ List.Forall₂ (fun part x => Numeral.read? part = some x) parts xs := by
  induction parts generalizing xs with
  | nil =>
    rw [List.forall₂_nil_left_iff]
    exact ⟨fun same => (Except.ok.inj same).symm, fun same => congrArg _ same.symm⟩
  | cons part parts ih =>
    unfold readExponents
    cases read : (Numeral.read? part : Option α) with
    | none =>
      refine ⟨nofun, fun all => ?_⟩
      cases all with
      | cons here _ => cases read.symm.trans here
    | some x =>
      dsimp only
      constructor
      · intro made
        cases rest : (readExponents parts : Except DimensionsError (List α)) with
        | error e =>
          rw [rest] at made
          cases made
        | ok others =>
          rw [rest] at made
          cases made
          exact .cons read (ih.mp rest)
      · intro all
        cases all with
        | cons here others =>
          cases read.symm.trans here
          rw [ih.mpr others]
          rfl

theorem readExponents_eq_error {parts : List (List Char)} {e : DimensionsError} :
    (readExponents parts : Except DimensionsError (List α)) = .error e ↔
      ∃ before bad after, parts = before ++ bad :: after ∧
        (∀ part ∈ before, (Numeral.read? part : Option α).isSome) ∧
        (Numeral.read? bad : Option α) = none ∧ e = .invalidExponent (String.ofList bad) := by
  induction parts with
  | nil =>
    refine ⟨nofun, ?_⟩
    rintro ⟨before, bad, after, split, -⟩
    cases before <;> cases split
  | cons part parts ih =>
    unfold readExponents
    cases read : (Numeral.read? part : Option α) with
    | none =>
      dsimp only
      constructor
      · intro failed
        cases failed
        exact ⟨[], part, parts, rfl, nofun, read, rfl⟩
      · rintro ⟨before, bad, after, split, numbers, other, rfl⟩
        cases before with
        | nil =>
          cases split
          rfl
        | cons first before =>
          cases split
          have := numbers part List.mem_cons_self
          rw [read] at this
          cases this
    | some x =>
      dsimp only
      have passed : (readExponents parts).map (x :: ·) = .error e ↔
          (readExponents parts : Except DimensionsError (List α)) = .error e := by
        cases (readExponents parts : Except DimensionsError (List α)) <;> simp [Except.map]
      rw [passed, ih]
      constructor
      · rintro ⟨before, bad, after, rfl, numbers, other⟩
        refine ⟨part :: before, bad, after, rfl, List.forall_mem_cons.mpr ⟨?_, numbers⟩, other⟩
        rw [read]
        rfl
      · rintro ⟨before, bad, after, split, numbers, other, error⟩
        cases before with
        | nil =>
          cases split
          cases read.symm.trans other
        | cons first before =>
          cases split
          exact ⟨before, bad, after, rfl, (List.forall_mem_cons.mp numbers).2, other, error⟩

omit [Numeral α] in
theorem exists_exponents {xs : List α} (count : xs.length = 7) : ∃ d : Dimensions α, d.exponents = xs := by
  match xs, count with
  | [mass, length, time, temperature, moles, current, luminous], _ =>
    exact ⟨⟨mass, length, time, temperature, moles, current, luminous⟩, rfl⟩

theorem reads_ofText (source : List Char) :
    Reads source (ofText source : Except DimensionsError (Dimensions α)) := by
  unfold ofText
  cases inside : insideBrackets? (Text.trim source) with
  | none =>
    refine .missingBrackets fun inner bracketed => ?_
    rw [← insideBrackets?_trim_eq_some_iff, inside] at bracketed
    cases bracketed
  | some inner =>
    have bracketed := insideBrackets?_trim_eq_some_iff.mp inside
    dsimp only
    generalize same : Text.words inner = parts
    have cut := Text.words_eq_iff.mp same
    by_cases count : parts.length = 7
    · rw [if_neg (not_not.mpr count)]
      cases read : (readExponents parts : Except DimensionsError (List α)) with
      | error e =>
        obtain ⟨before, bad, after, rfl, numbers, other, rfl⟩ := readExponents_eq_error.mp read
        exact .invalidExponent bracketed cut count numbers other
      | ok xs =>
        have numbers := readExponents_eq_ok.mp read
        obtain ⟨d, rfl⟩ := exists_exponents (numbers.length_eq.symm.trans count)
        exact .ok bracketed cut numbers
    · rw [if_pos count]
      exact .wrongCount bracketed cut count

theorem ofText_eq_iff {source : List Char} {answer : Except DimensionsError (Dimensions α)} :
    ofText source = answer ↔ Reads source answer := by
  refine ⟨fun same => same ▸ reads_ofText source, fun reads => ?_⟩
  unfold ofText
  cases reads with
  | missingBrackets bare =>
    cases inside : insideBrackets? (Text.trim source) with
    | none => rfl
    | some inner => exact absurd (insideBrackets?_trim_eq_some_iff.mp inside) (bare inner)
  | wrongCount bracketed cut count =>
    simp only [insideBrackets?_trim_eq_some_iff.mpr bracketed, Text.words_eq_iff.mpr cut, if_pos count]
  | invalidExponent bracketed cut count numbers other =>
    simp only [insideBrackets?_trim_eq_some_iff.mpr bracketed, Text.words_eq_iff.mpr cut, count,
      ne_eq, not_true_eq_false, if_false,
      readExponents_eq_error.mpr ⟨_, _, _, rfl, numbers, other, rfl⟩]
  | ok bracketed cut numbers =>
    have count : _ = 7 := numbers.length_eq
    simp only [insideBrackets?_trim_eq_some_iff.mpr bracketed, Text.words_eq_iff.mpr cut, count,
      ne_eq, not_true_eq_false, if_false, readExponents_eq_ok.mpr numbers]
    rfl

theorem ofText_text {d : Dimensions α}
    (reads : ∀ x ∈ d.exponents, Numeral.read? (Numeral.write x).toList = some x)
    (solid : ∀ x ∈ d.exponents, Text.Solid (Numeral.write x).toList) :
    ofText d.text.toList = .ok d := by
  let parts := d.exponents.map fun x => (Numeral.write x).toList
  have text : d.text.toList = [] ++ '[' :: ([' '].intercalate parts ++ [']']) ++ [] := by
    rw [List.append_nil]
    simp [Dimensions.text, String.toList_intercalate, parts]
    rfl
  have cut : Text.Parts ([' '].intercalate parts) parts := by
    apply Text.Parts.intercalate
    rintro _ here
    obtain ⟨x, member, rfl⟩ := List.mem_map.mp here
    exact solid x member
  refine ofText_eq_iff.mpr (.ok ⟨[], [], .nil, .nil, text⟩ cut ?_)
  rw [List.forall₂_map_left_iff, List.forall₂_same]
  exact reads

end Reading

/-- A dimension set of defined exponents is read from its text again, whatever the exponents are; and
every text is read as what its brackets and its parts make of it. -/
theorem text_read_exactly :
    (∀ d : Dimensions Float, (∀ x ∈ d.exponents, Scalar.isUndefined x = false) →
      ofText d.text.toList = .ok d) ∧
    ∀ (source : List Char) (answer : Except DimensionsError (Dimensions Float)),
      ofText source = answer ↔ Reads source answer := by
  refine ⟨fun d defined => ofText_text (fun x member => ?_) fun x _ => Text.solid_shortestText x,
    fun source answer => ofText_eq_iff⟩
  apply Decimal.read?_shortestText
  rw [ne_eq, ← Binary64.isUndefined_iff, defined x member]
  exact Bool.false_ne_true

def extremes : Dimensions Float :=
  ⟨Float.ofBits 0x8000000000000000, Float.ofBits 1, Float.ofBits 0xFFEFFFFFFFFFFFFF,
    Float.ofBits 0x7FF0000000000000, Float.ofBits 0x44B52D02C7E14AF6, Float.ofBits 0x3FB999999999999A,
    Float.ofBits 0⟩

theorem text_read_exactly_extremes :
    (∀ x ∈ extremes.exponents, Scalar.isUndefined x = false) ∧
      ofText extremes.text.toList = .ok extremes ∧
      Reads " [1 0 ]] ".toList (.error (.wrongCount 3) : Except DimensionsError (Dimensions Float)) := by
  have defined : ∀ x ∈ extremes.exponents, Scalar.isUndefined x = false := by
    simp only [exponents, List.forall_mem_cons]
    refine ⟨?_, ?_, ?_, ?_, ?_, ?_, ?_, nofun⟩ <;> rfl
  exact ⟨defined, text_read_exactly.1 extremes defined, (text_read_exactly.2 _ _).mp rfl⟩

end Dimensions

end MeshLang
