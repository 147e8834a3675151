import Mathlib.Data.Nat.Digits.Defs
import Mathlib.Tactic.Ring
import MeshLang.Proofs.Reader.Elements

namespace MeshLang

variable {α : Type}

open TokenKind

namespace Decimal

def denoted (digits : List Char) : Nat := Nat.ofDigits 10 (digits.reverse.map digitValue)

theorem natural_eq (read : Nat) (digits : List Char) :
    natural read digits = read * 10 ^ digits.length + denoted digits := by
  induction digits generalizing read with
  | nil =>
    change read = read * 1 + 0
    omega
  | cons c digits ih =>
    have first : denoted (c :: digits) = denoted digits + 10 ^ digits.length * digitValue c := by
      simp [denoted, Nat.ofDigits_append]
    have next : natural read (c :: digits) = natural (read * 10 + digitValue c) digits := rfl
    rw [next, ih, first, List.length_cons, Nat.pow_succ']
    ring

end Decimal

theorem TokenKind.first_minus (rest : List Char) : first ('-' :: rest) = (.minus, 1) := by
  have split : patterns = patterns.take 23 ++ (.minus, .literal ['-']) :: patterns.drop 24 := rfl
  have others : ∀ entry ∈ patterns.take 23 ++ patterns.drop 24,
      (entry.2.derivative '-').isNever = true ∧ entry.2.matchesEmpty = false := by decide
  have none (entry : TokenKind × Pattern) (member : entry ∈ patterns.take 23 ++ patterns.drop 24) :
      entry.2.longest? ('-' :: rest) = none := by
    obtain ⟨never, filled⟩ := others entry member
    simp [Pattern.longest?, never, filled]
  rw [first, split, longestMatch_skip fun entry member => none entry (List.mem_append_left _ member),
    longestMatch, sign_longest?, longestMatch_none fun entry member =>
      none entry (List.mem_append_right _ member), if_pos rfl]
  rfl

namespace Reader

/-- An integer as it may be written: with a minus or not, and with blanks and comments before the minus
and before the digits. -/
structure Written where
  negative : Bool
  before : List Char
  between : List Char
  digits : List Char

namespace Written

def sign (written : Written) : List Char := if written.negative then ['-'] else []

def text (written : Written) : List Char :=
  written.before ++ (written.sign ++ (written.between ++ written.digits))

def value (written : Written) : Int :=
  if written.negative then -(Decimal.denoted written.digits) else Decimal.denoted written.digits

/-- Only blanks and comments stand before the minus and before the digits, and where the rest follows
the digits are read as one integer. -/
structure IsRead (written : Written) (rest : List Char) : Prop where
  before : Trivia written.before
  between : Trivia written.between
  digits : first (written.digits ++ rest) = (.integer, written.digits.length)

variable {written : Written} {rest : List Char}

theorem IsRead.filled (isRead : written.IsRead rest) : written.digits ++ rest ≠ [] := by
  intro empty
  have lexed := isRead.digits
  rw [empty] at lexed
  cases lexed

theorem IsRead.signed? (isRead : written.IsRead rest) (taken : List Char) :
    ∃ offset, (args taken (written.text ++ rest)).signed? =
      some (written.negative, ⟨.integer, written.digits, offset⟩,
        ⟨rest, 0, Text.byteSize taken + Text.byteSize written.text⟩) := by
  have filled := isRead.filled
  obtain ⟨negative, before, between, digits⟩ := written
  obtain ⟨isBefore, isBetween, lexed⟩ := isRead
  dsimp only at filled isBefore isBetween lexed
  cases negative with
  | false =>
    have split : text ⟨false, before, between, digits⟩ ++ rest = (before ++ between) ++ (digits ++ rest) := by
      simp [text, sign]
    have next := (isBefore.append isBetween).next?_token rfl lexed filled 0 (Text.byteSize taken)
    have size : Text.byteSize taken + Text.byteSize (before ++ between) + Text.byteSize digits =
        Text.byteSize taken + Text.byteSize (text ⟨false, before, between, digits⟩) := by
      simp only [text, sign, Text.byteSize_append, Bool.false_eq_true, if_false, Text.byteSize_nil]
      omega
    refine ⟨0 + (Text.byteSize taken + Text.byteSize (before ++ between)), ?_⟩
    unfold Arguments.signed? args
    rw [split, next, size]
    rfl
  | true =>
    have split : text ⟨true, before, between, digits⟩ ++ rest =
        before ++ (['-'] ++ (between ++ (digits ++ rest))) := by
      simp [text, sign]
    have minus := @Trivia.next?_token before ['-'] .minus isBefore (between ++ (digits ++ rest)) rfl
      (first_minus _) (List.cons_ne_nil _ _) 0 (Text.byteSize taken)
    have next := isBetween.next?_token rfl lexed filled 0
      (Text.byteSize taken + Text.byteSize before + Text.byteSize ['-'])
    have size : Text.byteSize taken + Text.byteSize before + Text.byteSize ['-'] + Text.byteSize between +
        Text.byteSize digits = Text.byteSize taken + Text.byteSize (text ⟨true, before, between, digits⟩) := by
      simp only [text, sign, Text.byteSize_append, if_true]
      omega
    refine ⟨0 + (Text.byteSize taken + Text.byteSize before + Text.byteSize ['-'] + Text.byteSize between),
      ?_⟩
    unfold Arguments.signed? args
    rw [split, minus]
    dsimp only
    rw [if_pos rfl, next, size]
    rfl

end Written

def InRange (n : Int) : Prop := -2 ^ 63 ≤ n ∧ n ≤ 2 ^ 63 - 1

/-- An integer is found if it is one of 64 bits, and the reader goes to the end of its digits; otherwise
the reader stays where it is. No text makes it crash. -/
structure ReadsInteger [Scalar α] (session : Session α) (taken : List Char) (written : Written)
    (rest : List Char) : Prop where
  found : InRange written.value → ∃ after,
    (facing session taken (written.text ++ rest)).perform .integer =
      some (.ok (.integer written.value), after) ∧
    after.consumed = Text.byteSize taken + Text.byteSize written.text
  refused : ¬ InRange written.value → ∃ error after,
    (facing session taken (written.text ++ rest)).perform .integer = some (.error error, after) ∧
    after.consumed = Text.byteSize taken
  negates : ∀ taken rest, Text.Addressable (taken ++ rest) →
    (facing session taken rest).perform .integer ≠ none

section Outcome

variable [Scalar α] {session : Session α} {written : Written} {rest : List Char}

omit [Scalar α] in
theorem integer_eq (isRead : written.IsRead rest) (taken : List Char) :
    ((args taken (written.text ++ rest)).integer : Except (PluginError α) (Int × Arguments)) =
      if Decimal.denoted written.digits < 2 ^ 63 then
        .ok (written.value, ⟨rest, 0, Text.byteSize taken + Text.byteSize written.text⟩)
      else .error ((args taken (written.text ++ rest)).missing "integer") := by
  obtain ⟨offset, signed⟩ := isRead.signed? taken
  have size : Decimal.natural 0 written.digits = Decimal.denoted written.digits := by
    rw [Decimal.natural_eq, Nat.zero_mul, Nat.zero_add]
  have half : UInt64.size / 2 = 2 ^ 63 := rfl
  unfold Arguments.integer
  rw [signed]
  dsimp only
  rw [if_pos rfl, size, half]
  rfl

theorem integer_negates (session : Session α) (taken rest : List Char) :
    (facing session taken rest).perform .integer ≠ none := by
  rw [perform_eq (facing_stands session taken rest)]
  exact Option.some_ne_none _

theorem integer_found (isRead : written.IsRead rest) (taken : List Char)
    (fits : Decimal.denoted written.digits < 2 ^ 63) : ∃ after,
    (facing session taken (written.text ++ rest)).perform .integer =
        some (.ok (.integer written.value), after) ∧
      after.consumed = Text.byteSize taken + Text.byteSize written.text := by
  rw [perform_eq (facing_stands session taken _), Call.read, integer_eq isRead taken, if_pos fits]
  exact ⟨_, rfl, rfl⟩

theorem integer_refused (isRead : written.IsRead rest) (taken : List Char)
    (large : 2 ^ 63 ≤ Decimal.denoted written.digits) : ∃ error after,
    (facing session taken (written.text ++ rest)).perform .integer = some (.error error, after) ∧
      after.consumed = Text.byteSize taken := by
  rw [perform_eq (facing_stands session taken _), Call.read, integer_eq isRead taken,
    if_neg (Nat.not_lt.mpr large)]
  exact ⟨_, _, rfl, rfl⟩

omit [Scalar α] in
theorem Written.value_cases (written : Written) :
    written.value = Decimal.denoted written.digits ∨ written.value = -(Decimal.denoted written.digits) := by
  unfold value
  split
  · exact .inr rfl
  · exact .inl rfl

/-- In a text whose offsets are numbers of 32 bits, the least integer of 64 bits is not found, and it is
the only one. -/
theorem readsInteger_iff (session : Session α) (taken : List Char)
    (_ : Text.Addressable (taken ++ (written.text ++ rest))) (isRead : written.IsRead rest) :
    ReadsInteger session taken written rest ↔ written.value ≠ -2 ^ 63 := by
  have value := written.value_cases
  constructor
  · intro reads least
    have large : 2 ^ 63 ≤ Decimal.denoted written.digits := by omega
    obtain ⟨after, found, -⟩ := reads.found ⟨by omega, by omega⟩
    obtain ⟨error, after', refused, -⟩ := @integer_refused α _ session _ _ isRead taken large
    rw [found] at refused
    cases refused
  · intro other
    by_cases fits : Decimal.denoted written.digits < 2 ^ 63
    · refine ⟨fun _ => integer_found isRead taken fits, fun outside => absurd ?_ outside,
        fun taken rest _ => integer_negates session taken rest⟩
      unfold InRange
      omega
    · refine ⟨fun inside => absurd inside ?_, fun _ => integer_refused isRead taken (Nat.not_lt.mp fits),
        fun taken rest _ => integer_negates session taken rest⟩
      unfold InRange
      omega

def greatest : List Char := "9223372036854775807".toList

def tooGreat : List Char := "9223372036854775808".toList

/-- The two ends of what is found, with blanks and comments in between. -/
theorem readsInteger_ends :
    let session := Session.overTetrahedron
    let least : Written := ⟨true, [' '], "// c\n".toList, '0' :: greatest⟩
    let less : Written := ⟨true, [], [], tooGreat⟩
    least.IsRead [')'] ∧ least.value = -2 ^ 63 + 1 ∧ ReadsInteger session ['('] least [')'] ∧
      less.IsRead [] ∧ less.value = -2 ^ 63 ∧ ¬ ReadsInteger session [] less [] := by
  intro session least less
  have comment : Trivia "// c\n".toList := @Trivia.comment [' ', 'c'] _ (by decide) .nil
  have isRead : least.IsRead [')'] := ⟨.blank (by decide) .nil, comment, by decide +kernel⟩
  have isRead' : less.IsRead [] := ⟨.nil, .nil, by decide +kernel⟩
  have value : least.value = -2 ^ 63 + 1 := by decide +kernel
  have value' : less.value = -2 ^ 63 := by decide +kernel
  refine ⟨isRead, value, (readsInteger_iff session ['('] (by decide +kernel) isRead).mpr (by rw [value]; decide),
    isRead', value', fun reads => (readsInteger_iff session [] (by decide +kernel) isRead').mp reads value'⟩

/-- The least integer of 64 bits is refused. -/
theorem not_readsInteger_least :
    ¬ ReadsInteger Session.overTetrahedron [] ⟨true, [], [], tooGreat⟩ [] := by
  intro reads
  have inside : InRange (Written.value ⟨true, [], [], tooGreat⟩) := by
    unfold InRange
    decide +kernel
  have refused : ∃ error after, (facing Session.overTetrahedron []
      (Written.text ⟨true, [], [], tooGreat⟩ ++ [])).perform .integer = some (.error error, after) :=
    ⟨_, _, rfl⟩
  obtain ⟨after, found, -⟩ := reads.found inside
  obtain ⟨error, after', refused⟩ := refused
  rw [found] at refused
  cases refused

end Outcome

end Reader

end MeshLang
