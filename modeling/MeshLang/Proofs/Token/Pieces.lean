import MeshLang.Proofs.Token.Lexeme
import MeshLang.Proofs.Token.Significant
import Mathlib.Data.List.TakeWhile

namespace MeshLang

namespace TokenKind

theorem StartsSolid.first_solid {text : List Char} (starts : StartsSolid text) :
    (first text).1.isTrivia = false := by
  obtain ⟨c, rest, rfl, unblank, single⟩ := starts
  unfold first
  cases best : longestMatch (c :: rest) patterns with
  | none => rfl
  | some answer =>
    obtain ⟨kind, count⟩ := answer
    obtain ⟨-, pattern, listed, longest⟩ := longestMatch_listed best
    cases trivia : kind.isTrivia with
    | false => exact trivia
    | true =>
      rcases pattern_of_trivia _ listed trivia with same | same
      · obtain ⟨rfl, rfl⟩ := Prod.mk.inj same
        rw [blankPattern_none unblank] at longest
        cases longest
      · obtain ⟨rfl, rfl⟩ := Prod.mk.inj same
        rw [commentPattern_none single] at longest
        cases longest

theorem StartsSolid.ne_nil {text : List Char} (starts : StartsSolid text) : text ≠ [] := by
  obtain ⟨c, rest, rfl, -, -⟩ := starts
  exact List.cons_ne_nil c rest

/-- A text is empty, or it starts with a blank, with a comment or with a token that counts. -/
theorem text_induction {P : List Char → Prop} (nil : P [])
    (blank : ∀ c rest, c ∈ blanks → P rest → P (c :: rest))
    (comment : ∀ rest, P (rest.dropWhile (· != '\n')) → P ('/' :: '/' :: rest))
    (token : ∀ text, StartsSolid text → P (text.drop (first text).2) → P text) (text : List Char) :
    P text := by
  induction length : text.length using Nat.strongRecOn generalizing text with
  | ind n ih =>
    subst length
    cases text with
    | nil => exact nil
    | cons c rest =>
      by_cases blanks : c ∈ TokenKind.blanks
      · exact blank c rest blanks (ih _ (Nat.lt_succ_self _) rest rfl)
      · by_cases slashes : ∃ more, c :: rest = '/' :: '/' :: more
        · obtain ⟨more, same⟩ := slashes
          have shorter : (more.dropWhile (· != '\n')).length ≤ more.length :=
            (List.dropWhile_suffix _).length_le
          rw [same] at ih ⊢
          exact comment more (ih _ (by simp only [List.length_cons]; omega) _ rfl)
        · have starts : StartsSolid (c :: rest) := ⟨c, rest, rfl, blanks, not_exists.mp slashes⟩
          have positive : 0 < (first (c :: rest)).2 := (first_bounds starts.ne_nil rfl).1
          refine token _ starts (ih _ ?_ _ rfl)
          rw [List.length_drop, List.length_cons]
          omega

end TokenKind

namespace Cursor

open TokenKind

theorem nextFrom_skip (base offset skip : Nat) (text : List Char) :
    nextFrom base offset skip text = nextFrom base (offset + Text.byteSize (text.take skip)) 0 (text.drop skip) := by
  induction text generalizing offset skip with
  | nil => cases skip <;> rfl
  | cons c rest ih =>
    cases skip with
    | zero => rfl
    | succ skip =>
      rw [List.take_succ_cons, List.drop_succ_cons, Text.byteSize_cons, ← Nat.add_assoc]
      exact ih _ skip

theorem nextFrom_blank {c : Char} (blank : c ∈ blanks) (base offset : Nat) (rest : List Char) :
    nextFrom base offset 0 (c :: rest) = nextFrom base (offset + c.utf8Size) 0 rest := by
  have step {c : Char} (blank : c ∈ blanks) (offset : Nat) (rest : List Char) :
      nextFrom base offset 0 (c :: rest) =
        nextFrom base (offset + c.utf8Size) (rest.takeWhile blanks.contains).length rest := by
    simp [nextFrom, first_blank blank, TokenKind.isTrivia]
  rw [step blank]
  cases rest with
  | nil => rfl
  | cons d rest =>
    by_cases more : d ∈ blanks
    · rw [step more, List.takeWhile_cons_of_pos (by simpa using more)]
      rfl
    · rw [List.takeWhile_cons_of_neg (by simpa using more)]
      rfl

theorem nextFrom_comment (base offset : Nat) (rest : List Char) :
    nextFrom base offset 0 ('/' :: '/' :: rest) =
      nextFrom base (offset + Text.byteSize ('/' :: '/' :: rest.takeWhile (· != '\n'))) 0
        (rest.dropWhile (· != '\n')) := by
  have step : nextFrom base offset 0 ('/' :: '/' :: rest) =
      nextFrom base (offset + 1) ((rest.takeWhile (· != '\n')).length + 1) ('/' :: rest) := by
    simp [nextFrom, first_comment, TokenKind.isTrivia]
    rfl
  obtain ⟨body, after, isBody, isAfter, split⟩ : ∃ body after, rest.takeWhile (· != '\n') = body ∧
      rest.dropWhile (· != '\n') = after ∧ body ++ after = rest :=
    ⟨_, _, rfl, rfl, List.takeWhile_append_dropWhile⟩
  rw [step, isBody, isAfter, nextFrom_skip, List.take_succ_cons, List.drop_succ_cons, ← split,
    List.take_left, List.drop_left, Text.byteSize_cons, Text.byteSize_cons, Text.byteSize_cons,
    Nat.add_assoc]
  rfl

theorem nextFrom_solid {text : List Char} (starts : StartsSolid text) (base offset : Nat) :
    nextFrom base offset 0 text =
      some (⟨(first text).1, text.take (first text).2, base + offset⟩,
        ⟨text.drop (first text).2, base, offset + Text.byteSize (text.take (first text).2)⟩) := by
  have solid := starts.first_solid
  obtain ⟨c, rest, rfl, -, -⟩ := starts
  simp only [nextFrom, solid, Bool.false_eq_true, if_false]

theorem nextFrom_lexeme (l : Lexeme) {c : Char} (ends : c ∈ breaks) (rest : List Char)
    (base offset : Nat) :
    nextFrom base offset 0 (l.text ++ c :: rest) =
      some (⟨l.kind, l.text, base + offset⟩, ⟨c :: rest, base, offset + Text.byteSize l.text⟩) := by
  have noSlash : c ≠ '/' := by
    rintro rfl
    exact absurd ends (by decide)
  rw [nextFrom_solid (l.starts.append noSlash rest), first_append_break l.starts ends, l.lexed,
    List.take_left, List.drop_left]

theorem read_lexeme (l : Lexeme) {c : Char} (ends : c ∈ breaks) {rest : List Char} {cursor : Cursor}
    (here : cursor.rest = l.text ++ c :: rest) :
    cursor.read =
      (⟨l.kind, l.text, cursor.place⟩,
        ⟨c :: rest, cursor.base, cursor.offset + Text.byteSize l.text⟩) := by
  have found := nextFrom_lexeme l ends rest cursor.base cursor.offset
  rw [← here] at found
  unfold read next?
  rw [found]
  rfl

theorem significant_blank {c : Char} (blank : c ∈ blanks) (rest : List Char) :
    significant (c :: rest) = significant rest := by
  have here := nextFrom_significant 0 0 0 (c :: rest)
  have there := nextFrom_significant 0 (0 + c.utf8Size) 0 rest
  rw [List.drop_zero] at here there
  rw [here, there, nextFrom_blank blank]

theorem dropWhile_line {taken : List Char} (ends : taken.dropWhile (· != '\n') ≠ []) (rest : List Char) :
    (taken ++ rest).takeWhile (· != '\n') = taken.takeWhile (· != '\n') ∧
      (taken ++ rest).dropWhile (· != '\n') = taken.dropWhile (· != '\n') ++ rest := by
  induction taken with
  | nil => exact absurd rfl ends
  | cons c taken ih =>
    by_cases line : c = '\n'
    · simp [line]
    · have inner : taken.dropWhile (· != '\n') ≠ [] := by simpa [List.dropWhile_cons, line] using ends
      simp [line, ih inner]

theorem takeWhile_break (rest line : List Char) :
    (rest ++ '\n' :: line).takeWhile (· != '\n') = rest.takeWhile (· != '\n') ∧
      (rest ++ '\n' :: line).dropWhile (· != '\n') = rest.dropWhile (· != '\n') ++ '\n' :: line := by
  induction rest with
  | nil => exact ⟨rfl, rfl⟩
  | cons c rest ih =>
    constructor
    · rw [List.cons_append, List.takeWhile_cons, List.takeWhile_cons, ih.1]
    · rw [List.cons_append, List.dropWhile_cons, List.dropWhile_cons, ih.2]
      split <;> rfl

theorem byteSize_comment (rest : List Char) :
    Text.byteSize ('/' :: '/' :: rest) =
      Text.byteSize ('/' :: '/' :: rest.takeWhile (· != '\n')) +
        Text.byteSize (rest.dropWhile (· != '\n')) := by
  rw [← Text.byteSize_append, List.cons_append, List.cons_append, List.takeWhile_append_dropWhile]

theorem nextFrom_append_break {c : Char} (breaks : c ∈ TokenKind.breaks) (rest : List Char)
    {taken : List Char} {base offset : Nat} {token : Token} {after : Cursor}
    (found : nextFrom base offset 0 taken = some (token, after)) :
    nextFrom base offset 0 (taken ++ c :: rest) =
      some (token, { after with rest := after.rest ++ c :: rest }) := by
  induction taken using text_induction generalizing offset with
  | nil => cases found
  | blank d taken blank ih =>
    rw [nextFrom_blank blank] at found
    rw [List.cons_append, nextFrom_blank blank]
    exact ih found
  | comment taken ih =>
    rw [nextFrom_comment] at found
    have ends : taken.dropWhile (· != '\n') ≠ [] := by
      intro none
      rw [none] at found
      cases found
    obtain ⟨line, further⟩ := dropWhile_line ends (c :: rest)
    rw [List.cons_append, List.cons_append, nextFrom_comment, line, further]
    exact ih found
  | token taken starts ih =>
    have noSlash : c ≠ '/' := by
      rintro rfl
      exact absurd breaks (by decide)
    have fits : (first taken).2 ≤ taken.length := (first_bounds starts.ne_nil rfl).2.1
    rw [nextFrom_solid starts, Option.some.injEq, Prod.mk.injEq] at found
    obtain ⟨rfl, rfl⟩ := found
    rw [nextFrom_solid (starts.append noSlash rest), first_append_break starts breaks,
      List.take_append_of_le_length fits, List.drop_append_of_le_length fits]

def andMore (more : List Char) (cursor : Cursor) : Cursor :=
  { cursor with rest := cursor.rest ++ more }

section AndMore

variable {c : Char} {more : List Char} {cursor : Cursor}

theorem read_andMore (breaks : c ∈ TokenKind.breaks) (has : cursor.current.kind ≠ .finish) :
    (cursor.andMore (c :: more)).read = (cursor.current, cursor.advance.andMore (c :: more)) := by
  have next := nextFrom_append_break breaks more (next?_of_more has)
  unfold read next?
  change ((nextFrom cursor.base cursor.offset 0 (cursor.rest ++ c :: more)).getD _) = _
  rw [next]
  rfl

theorem next?_semicolon (last : cursor.current.kind = .finish) :
    (cursor.andMore [';']).next? = none ∨
      ∃ token offset, (cursor.andMore [';']).next? = some (token, ⟨[], cursor.base, offset⟩) ∧
        token.kind = .semicolon := by
  have none := cursor.next?_eq_none_iff.mpr last
  obtain ⟨text, base, offset⟩ := cursor
  change nextFrom base offset 0 text = .none at none
  change nextFrom base offset 0 (text ++ [';']) = .none ∨
    ∃ token place, nextFrom base offset 0 (text ++ [';']) = some (token, ⟨[], base, place⟩) ∧ _
  clear last
  induction text using TokenKind.text_induction generalizing offset with
  | nil =>
    have starts : StartsSolid [';'] := ⟨';', [], rfl, by decide, by simp⟩
    exact .inr ⟨_, _, nextFrom_solid starts base offset, rfl⟩
  | blank c rest blank ih =>
    rw [nextFrom_blank blank] at none
    rw [List.cons_append, nextFrom_blank blank]
    exact ih _ none
  | comment rest ih =>
    rw [nextFrom_comment] at none
    rw [List.cons_append, List.cons_append, nextFrom_comment]
    by_cases ends : rest.dropWhile (· != '\n') = []
    · left
      have within : ∀ d ∈ rest, (d != '\n') = true := List.dropWhile_eq_nil_iff.mp ends
      rw [List.dropWhile_append_of_pos within]
      rfl
    · rw [(dropWhile_line ends [';']).1, (dropWhile_line ends [';']).2]
      exact ih _ none
  | token text starts ih =>
    rw [nextFrom_solid starts] at none
    cases none

end AndMore

def andLine (line : List Char) (cursor : Cursor) : Cursor :=
  { cursor with rest := cursor.rest ++ '\n' :: line }

variable (line : List Char) (cursor : Cursor)

theorem next?_andLine :
    (cursor.andLine line).next? =
      match cursor.next? with
      | some (token, after) => some (token, after.andLine line)
      | none => next? ⟨line, cursor.base, cursor.offset + Text.byteSize cursor.rest + 1⟩ := by
  obtain ⟨text, base, offset⟩ := cursor
  change nextFrom base offset 0 (text ++ '\n' :: line) =
    match nextFrom base offset 0 text with
    | some (token, after) => some (token, after.andLine line)
    | none => nextFrom base (offset + Text.byteSize text + 1) 0 line
  induction text using TokenKind.text_induction generalizing offset with
  | nil => exact nextFrom_blank (by decide) base offset line
  | blank c rest blank ih =>
    rw [List.cons_append, nextFrom_blank blank, nextFrom_blank blank, ih, Text.byteSize_cons,
      Nat.add_assoc offset]
  | comment rest ih =>
    obtain ⟨taken, dropped⟩ := takeWhile_break rest line
    rw [List.cons_append, List.cons_append, nextFrom_comment, nextFrom_comment, taken, dropped, ih,
      byteSize_comment rest, Nat.add_assoc offset]
  | token text starts ih =>
    have starts' : StartsSolid (text ++ '\n' :: line) := starts.append (by decide) line
    have fits : (first text).2 ≤ text.length := (first_bounds starts.ne_nil rfl).2.1
    rw [nextFrom_solid starts, nextFrom_solid starts', first_append_break starts (by decide),
      List.take_append_of_le_length fits, List.drop_append_of_le_length fits]
    rfl

variable {line cursor}

theorem read_andLine (last : cursor.current.kind = .finish) :
    (cursor.andLine line).read =
      read ⟨line, cursor.base, cursor.offset + Text.byteSize cursor.rest + 1⟩ := by
  have next := cursor.next?_andLine line
  rw [cursor.next?_eq_none_iff.mpr last] at next
  have stops : cursor.offset + Text.byteSize (cursor.rest ++ '\n' :: line) =
      cursor.offset + Text.byteSize cursor.rest + 1 + Text.byteSize line := by
    rw [Text.byteSize_append, Text.byteSize_cons]
    have single : '\n'.utf8Size = 1 := rfl
    omega
  have ends : (cursor.andLine line).finish =
      finish ⟨line, cursor.base, cursor.offset + Text.byteSize cursor.rest + 1⟩ := by
    have counted (cursor : Cursor) :
        cursor.finish = cursor.base + (cursor.offset + Text.byteSize cursor.rest) := Nat.add_assoc _ _ _
    rw [counted, counted]
    exact congrArg (cursor.base + ·) stops
  unfold read
  rw [next, ends]
  dsimp only [andLine]
  rw [stops]

end Cursor

end MeshLang
