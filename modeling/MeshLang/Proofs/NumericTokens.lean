import MeshLang.Proofs.Grammar.Steps
import MeshLang.Proofs.LongestTokens
import MeshLang.Proofs.Reader.Steps
import MeshLang.Proofs.Scalar.Double

namespace MeshLang

open Pattern

namespace TokenKind

theorem matches_digits_iff {text : List Char} :
    digits.Matches text ↔ text ≠ [] ∧ ∀ c ∈ text, c.isDigit = true := by
  simp only [digits, atLeastOne, matches_seq_iff, matches_one_iff, matches_many_one_iff]
  constructor
  · rintro ⟨_, rest, rfl, ⟨c, rfl, digit⟩, others⟩
    exact ⟨List.cons_ne_nil c rest, List.forall_mem_cons.mpr ⟨digit, others⟩⟩
  · rintro ⟨filled, all⟩
    obtain ⟨c, rest, rfl⟩ := List.exists_cons_of_ne_nil filled
    obtain ⟨digit, others⟩ := List.forall_mem_cons.mp all
    exact ⟨[c], rest, rfl, ⟨c, rfl, digit⟩, others⟩

theorem matches_exponent_iff {text : List Char} :
    exponent.Matches text ↔ ∃ scale : Decimal.Scale, scale.text = text := by
  simp only [exponent, Pattern.optional, oneOf, matches_seq_iff, matches_either_iff, matches_one_iff,
    matches_nothing_iff, matches_digits_iff]
  constructor
  · rintro ⟨_, _, rfl, ⟨mark, rfl, marked⟩, _, digits, rfl, sign, filled, all⟩
    have marked : mark = 'e' ∨ mark = 'E' := by simpa using marked
    rcases sign with ⟨c, rfl, signed⟩ | rfl
    · have signed : c = '+' ∨ c = '-' := by simpa using signed
      refine ⟨⟨mark, some c, digits, marked, ?_, filled, all⟩, rfl⟩
      rintro _ ⟨⟩
      exact signed
    · exact ⟨⟨mark, none, digits, marked, by simp, filled, all⟩, rfl⟩
  · rintro ⟨⟨mark, sign, digits, marked, signed, filled, all⟩, rfl⟩
    have sign : (∃ c, sign.toList = [c] ∧ ['+', '-'].contains c = true) ∨ sign.toList = [] := by
      cases sign with
      | none => exact .inr rfl
      | some c => exact .inl ⟨c, rfl, by simpa using signed c rfl⟩
    exact ⟨[mark], _, rfl, ⟨mark, rfl, by simpa using marked⟩, _, digits, rfl, sign, filled, all⟩

/-- Together the patterns of numbers describe just the decimal numbers that can be written. -/
theorem numbers_match_iff {text : List Char} :
    (digits.Matches text ∨ decimalPattern.Matches text) ↔
      ∃ written : Decimal.Written, written.text = text := by
  have scaled {text : List Char} : (Pattern.optional exponent).Matches text ↔
      ∃ scale? : Option Decimal.Scale, scale?.elim [] Decimal.Scale.text = text := by
    rw [Pattern.optional, matches_either_iff, matches_exponent_iff, matches_nothing_iff]
    constructor
    · rintro (⟨scale, rfl⟩ | rfl)
      · exact ⟨some scale, rfl⟩
      · exact ⟨none, rfl⟩
    · rintro ⟨_ | scale, rfl⟩
      · exact .inr rfl
      · exact .inl ⟨scale, rfl⟩
  simp only [decimalPattern, oneOf, matches_either_iff, matches_seq_iff, matches_one_iff,
    matches_many_one_iff, matches_digits_iff, scaled, matches_exponent_iff]
  constructor
  -- Digits alone, digits before a point, digits behind a point only, and digits before an exponent.
  · rintro (⟨filled, all⟩ | both | fraction | scaled)
    · exact ⟨⟨text, none, none, all, by simp, .inl filled⟩, List.append_nil _⟩
    · obtain ⟨whole, _, rfl, ⟨filled, all⟩, _, _, rfl, ⟨c, rfl, point⟩, both⟩ := both
      obtain ⟨fraction, _, rfl, digits, scale?, rfl⟩ := both
      obtain rfl : c = '.' := by simpa using point
      exact ⟨⟨whole, some fraction, scale?, all, digits, .inl filled⟩, rfl⟩
    · obtain ⟨_, _, rfl, ⟨c, rfl, point⟩, fraction, _, rfl, ⟨filled, all⟩, scale?, rfl⟩ := fraction
      obtain rfl : c = '.' := by simpa using point
      exact ⟨⟨[], some fraction, scale?, by simp, all, .inr filled⟩, rfl⟩
    · obtain ⟨whole, _, rfl, ⟨filled, all⟩, scale, rfl⟩ := scaled
      exact ⟨⟨whole, none, some scale, all, by simp, .inl filled⟩, rfl⟩
  · rintro ⟨⟨whole, fraction?, scale?, all, digits, filled⟩, rfl⟩
    cases fraction? with
    | none =>
      have filled : whole ≠ [] := filled.resolve_right (not_not.mpr rfl)
      cases scale? with
      | none =>
        left
        simpa [Decimal.Written.text, Decimal.Written.tail] using ⟨filled, all⟩
      | some scale =>
        right; right; right
        exact ⟨whole, _, rfl, ⟨filled, all⟩, scale, rfl⟩
    | some fraction =>
      have point : ∃ c, ['.'] = [c] ∧ ['.'].contains c = true := ⟨'.', rfl, rfl⟩
      by_cases empty : whole = []
      · subst empty
        have filled : fraction ≠ [] := filled.resolve_left (not_not.mpr rfl)
        right; right; left
        exact ⟨['.'], _, rfl, point, fraction, _, rfl, ⟨filled, digits⟩, scale?, rfl⟩
      · right; left
        exact ⟨whole, _, rfl, ⟨empty, all⟩, ['.'], _, rfl, point, fraction, _, rfl, digits, scale?, rfl⟩

theorem exists_written_of_first {kind : TokenKind} {text rest : List Char}
    (lexed : first (text ++ rest) = (kind, text.length)) (number : kind.isNumber = true) :
    ∃ written : Decimal.Written, written.text = text := by
  have longest := first_longest lexed
  rw [if_neg (by rintro rfl; cases number)] at longest
  obtain ⟨pattern, listed, matched⟩ := longest.listed
  rw [List.take_left] at matched
  apply numbers_match_iff.mp
  cases kind with
  | integer =>
    obtain rfl : pattern = digits := by simpa [patterns, fixed] using listed
    exact .inl matched
  | decimal =>
    obtain rfl : pattern = decimalPattern := by simpa [patterns, fixed] using listed
    exact .inr matched
  | _ => cases number

end TokenKind

/-- A token writes a number, and all that convert its text make the same defined number of it. -/
structure Token.Converts (token : Token) (x : Float) : Prop where
  written : ∃ written : Decimal.Written, written.text = token.text
  read : Numeral.read? token.text = some x
  number : token.number? = some x
  defined : Scalar.isUndefined x = false

theorem Token.number?_of_isNumber {token : Token} (number : token.kind.isNumber = true) :
    (token.number? : Option Float) = (Decimal.read? token.text).map Scalar.ofDecimal := by
  have value : token.kind ≠ .piWord := by
    intro pi
    rw [pi] at number
    cases number
  rw [Token.number?, if_neg value, if_pos number]

theorem Token.converts {token : Token} {rest : List Char}
    (lexed : TokenKind.first (token.text ++ rest) = (token.kind, token.text.length))
    (number : token.kind.isNumber = true) : ∃ x, token.Converts x := by
  obtain ⟨written, text⟩ := TokenKind.exists_written_of_first lexed number
  refine ⟨Scalar.ofDecimal written.value, ⟨written, text⟩, ?_, ?_, ?_⟩
  · rw [← text]
    exact Double.read?_text written
  · rw [number?_of_isNumber number, ← text, Decimal.read?_text]
    rfl
  · rw [Bool.eq_false_iff, ne_eq, Binary64.isUndefined_iff]
    exact Binary64.decode_ofDecimal false written.value

theorem Arguments.signed?_finds {args rest : Arguments} {negative : Bool} {token : Token}
    (found : args.signed? = some (negative, token, rest)) :
    ∃ before : Arguments, Cursor.Finds before token rest := by
  unfold Arguments.signed? at found
  split at found
  · cases found
  · rename_i sign behind first
    split at found
    · obtain ⟨⟨number, after⟩, second, same⟩ := Option.map_eq_some_iff.mp found
      cases same
      exact ⟨behind, Cursor.nextFrom_finds second⟩
    · cases found
      exact ⟨args, Cursor.nextFrom_finds first⟩

theorem Token.number?_defined {token : Token} {x : Float} (number : token.number? = some x) :
    Binary64.decode x ≠ .undefined := by
  unfold Token.number? at number
  split at number
  · cases number
    have word := @Binary64.decode_ofBits 0x400921FB54442D18 (by decide)
    change Binary64.decode (Float.ofBits 0x400921FB54442D18) ≠ _
    rw [word]
    decide
  · split at number
    · obtain ⟨decimal, -, rfl⟩ := Option.map_eq_some_iff.mp number
      exact Binary64.decode_ofDecimal false decimal
    · cases number

theorem Arguments.scalar_defined {args rest : Arguments} {x : Float}
    (read : args.scalar = .ok (x, rest)) : Binary64.decode x ≠ .undefined := by
  unfold Arguments.scalar at read
  split at read
  · cases read
  · split at read
    · rename_i size number
      cases read
      have defined := Token.number?_defined number
      split
      · exact Binary64.decode_neg_defined defined
      · exact defined
    · cases read

section Scripts

variable {α β γ : Type}

/-- An answer that a script may come to, whatever it is told on its way. -/
inductive Script.Yields : Script α β → β → Prop
  | done {answer : β} : Yields (.done answer) answer
  | argument {start : Nat} {expected : Option ValueType}
      {next : Except (EvalError α) (Value α × Nat) → Script α β} {answer : β}
      (told : Except (EvalError α) (Value α × Nat)) (later : Yields (next told) answer) :
      Yields (.argument start expected next) answer

theorem Script.yields_andThen {script : Script α β} {next : β → Script α γ} {answer : γ}
    (yields : (script.andThen next).Yields answer) :
    ∃ between, script.Yields between ∧ (next between).Yields answer := by
  induction script with
  | done between => exact ⟨between, .done, yields⟩
  | argument start expected further ih =>
    cases yields with
    | argument told later =>
      obtain ⟨between, first, second⟩ := ih told later
      exact ⟨between, .argument told first, second⟩

theorem Script.andThen_congr {script : Script α β} {next next' : β → Script α γ}
    (same : ∀ answer, script.Yields answer → next answer = next' answer) :
    script.andThen next = script.andThen next' := by
  induction script with
  | done answer => exact same answer .done
  | argument start expected further ih =>
    rw [Script.andThen, Script.andThen]
    congr 1
    funext told
    exact ih told fun answer later => same answer (.argument told later)

theorem Script.yields_done {answer other : β}
    (yields : (Script.done answer : Script α β).Yields other) : answer = other := by
  cases yields
  rfl

theorem Reading.yields_bind {first : Reading α β} {next : β → Reading α γ} {args rest : Arguments}
    {answer : γ} (yields : ((first >>= next) args).Yields (.ok (answer, rest))) :
    ∃ between middle, (first args).Yields (.ok (between, middle)) ∧
      (next between middle).Yields (.ok (answer, rest)) := by
  obtain ⟨outcome, before, after⟩ := Script.yields_andThen yields
  cases outcome with
  | ok read => exact ⟨read.1, read.2, before, after⟩
  | error error => cases after

theorem Reading.bind_congr {first : Reading α β} {next next' : β → Reading α γ}
    (same : ∀ args answer rest, (first args).Yields (.ok (answer, rest)) → next answer = next' answer) :
    first >>= next = first >>= next' := by
  funext args
  refine Script.andThen_congr fun outcome yields => ?_
  cases outcome with
  | ok read => exact congrFun (same args read.1 read.2 yields) read.2
  | error error => rfl

end Scripts

namespace Plugin

structure Bounded.Ordered (range : Bounded Float) : Prop where
  low : Scalar.isUndefined range.low = false
  high : Scalar.isUndefined range.high = false
  ordered : Scalar.le range.low range.high = true

theorem bounded_ordered {args rest : Arguments} {range : Bounded Float}
    (yields : (bounded args).Yields (.ok (range, rest))) : range.Ordered := by
  unfold bounded at yields
  obtain ⟨_, _, -, yields⟩ := Reading.yields_bind yields
  obtain ⟨value, _, -, yields⟩ := Reading.yields_bind yields
  split at yields
  · cases yields
  · obtain ⟨_, _, -, yields⟩ := Reading.yields_bind yields
    obtain ⟨low, _, lower, yields⟩ := Reading.yields_bind yields
    obtain ⟨_, _, -, yields⟩ := Reading.yields_bind yields
    obtain ⟨high, _, upper, yields⟩ := Reading.yields_bind yields
    obtain ⟨_, _, -, yields⟩ := Reading.yields_bind yields
    have defined := Arguments.scalar_defined (Script.yields_done lower)
    have defined' := Arguments.scalar_defined (Script.yields_done upper)
    split at yields
    · cases yields
    · rename_i upright
      cases yields
      refine ⟨?_, ?_, Binary64.le_of_not_lt defined defined' (Bool.eq_false_iff.mpr upright)⟩
      · rwa [Bool.eq_false_iff, ne_eq, Binary64.isUndefined_iff]
      · rwa [Bool.eq_false_iff, ne_eq, Binary64.isUndefined_iff]

theorem ofBounded_congr {make make' : Bounded Float → Value Float}
    (same : ∀ range : Bounded Float, range.Ordered → make range = make' range) :
    ofBounded make = ofBounded make' := by
  refine Reading.bind_congr fun args range rest yields => ?_
  rw [same range (bounded_ordered yields)]

end Plugin

def Scalar.clampOr {α : Type} [Scalar α] (other : α → α → α → α) (lower upper x : α) : α :=
  if Scalar.le lower upper then Scalar.clamp lower upper x else other lower upper x

def Plugin.clampOr {α : Type} [Scalar α] (other : α → α → α → α) : Plugin α :=
  { (clamp : Plugin α) with
    call := (ofBounded fun range : Bounded α =>
      let values := (range.value.scalars?.getD []).map (Scalar.clampOr other range.low range.high)
      ⟨.scalar, range.value.location, .scalar values, range.value.dimensions⟩).run }

theorem Plugin.clampOr_eq (other : Float → Float → Float → Float) :
    Plugin.clampOr other = Plugin.clamp := by
  have moved : (ofBounded fun range : Bounded Float =>
      let values := (range.value.scalars?.getD []).map (Scalar.clampOr other range.low range.high)
      (⟨.scalar, range.value.location, .scalar values, range.value.dimensions⟩ : Value Float)) =
      ofBounded fun range =>
        let values := (range.value.scalars?.getD []).map (Scalar.clamp range.low range.high)
        ⟨.scalar, range.value.location, .scalar values, range.value.dimensions⟩ := by
    refine ofBounded_congr fun range ordered => ?_
    have same : Scalar.clampOr other range.low range.high = Scalar.clamp range.low range.high :=
      funext fun x => if_pos ordered.ordered
    rw [same]
  unfold clampOr
  rw [moved]
  rfl

/-- Whatever the text, the token of a number is converted, as an operand and as an argument of a plugin; and
where two such arguments bound a range, they are in order, so that clamping may rely on it. -/
structure NumbersConvert : Prop where
  language : ∀ text : List Char,
    TokenKind.digits.Matches text ∨ TokenKind.decimalPattern.Matches text ↔
      ∃ written : Decimal.Written, written.text = text
  reading : ∀ (text : List Char) (value : Decimal), Decimal.read? text = some value ↔
    ∃ written : Decimal.Written, written.text = text ∧ written.value = value
  tokens : ∀ text, ∀ token ∈ tokenize text, token.kind.isNumber = true → ∃ x, token.Converts x
  operand : ∀ (env : Environment Float) (recurse : Recursion Float) (state : State),
    state.cursor.current.kind.isNumber = true →
      ∃ x, state.cursor.current.Converts x ∧ Run.operand env recurse state =
        .ok (.constantScalar x) { state with cursor := state.cursor.advance }
  arguments : ∀ (args : Arguments) (negative : Bool) (token : Token) (rest : Arguments),
    args.signed? = some (negative, token, rest) → token.kind.isNumber = true →
      ∃ x, token.Converts x ∧ args.scalar = .ok (if negative then -x else x, rest)
  reader : ∀ (reader : Reader Float) (negative : Bool) (token : Token) (rest : Arguments),
    reader.ahead.signed? = some (negative, token, rest) → token.kind.isNumber = true →
      ∃ x, token.Converts x ∧
        Reader.scalar reader = .ok (if negative then -x else x) { reader with consumed := token.stop }
  bounds : ∀ (args : Arguments) (range : Plugin.Bounded Float) (rest : Arguments),
    (Plugin.bounded args).Yields (.ok (range, rest)) → range.Ordered
  clamped : ∀ other : Float → Float → Float → Float, Plugin.clampOr other = Plugin.clamp

theorem numbers_convert : NumbersConvert where
  language _ := TokenKind.numbers_match_iff
  reading _ _ := Decimal.read?_eq_some_iff
  tokens text token member number := by
    obtain ⟨before, after, split⟩ := List.append_of_mem member
    exact Token.converts (tokenize_next split).2 number
  operand env recurse state number := by
    have more : state.cursor.current.kind ≠ .finish := by
      intro finish
      rw [finish] at number
      cases number
    obtain ⟨x, converts⟩ := Token.converts (Cursor.finds_of_more more).lexed number
    have value := converts.number
    rw [Token.number?_of_isNumber number] at value
    obtain ⟨decimal, read, rfl⟩ := Option.map_eq_some_iff.mp value
    exact ⟨_, converts, Run.operand_number number read⟩
  arguments args negative token rest found number := by
    obtain ⟨before, finds⟩ := Arguments.signed?_finds found
    obtain ⟨x, converts⟩ := Token.converts finds.lexed number
    refine ⟨x, converts, ?_⟩
    simp only [Arguments.scalar, found, converts.number]
  reader reader negative token rest found number := by
    obtain ⟨before, finds⟩ := Arguments.signed?_finds found
    obtain ⟨x, converts⟩ := Token.converts finds.lexed number
    refine ⟨x, converts, ?_⟩
    unfold Reader.scalar
    rw [Reader.bind_ok (rfl : (get : Reader.Step Float (Reader Float)) reader = .ok reader reader), found]
    simp only [converts.number]
    rfl
  bounds _ _ _ yields := Plugin.bounded_ordered yields
  clamped := Plugin.clampOr_eq

theorem numbers_convert_spellings :
    ((tokenize "2. .5 1.e5 1e-3 07".toList).filter (·.kind.isNumber)).map Token.word =
        ["2.", ".5", "1.e5", "1e-3", "07"] ∧
      ∀ token ∈ (tokenize "2. .5 1.e5 1e-3 07".toList).filter (·.kind.isNumber),
        ∃ x, token.Converts x := by
  refine ⟨by decide +kernel, fun token member => ?_⟩
  obtain ⟨member, number⟩ := List.mem_filter.mp member
  exact numbers_convert.tokens _ token member number

end MeshLang
