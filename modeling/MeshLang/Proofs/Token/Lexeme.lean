import MeshLang.Token

namespace MeshLang

namespace Pattern

def avoids (c : Char) : Pattern → Bool
  | .never | .nothing => true
  | .one accepts => !accepts c
  | .seq p q | .either p q => p.avoids c && q.avoids c
  | .many p => p.avoids c

theorem andThen_avoids {c : Char} {p q : Pattern} (left : p.avoids c = true)
    (right : q.avoids c = true) : (p.andThen q).avoids c = true := by
  cases p <;> simp_all [andThen, avoids]

theorem orElse_avoids {c : Char} {p q : Pattern} (left : p.avoids c = true)
    (right : q.avoids c = true) : (p.orElse q).avoids c = true := by
  cases p <;> cases q <;> simp_all [orElse, avoids]

theorem derivative_avoids {c : Char} (d : Char) {p : Pattern} (avoids : p.avoids c = true) :
    (p.derivative d).avoids c = true := by
  induction p with
  | never | nothing => rfl
  | one accepts =>
    simp only [derivative]
    split <;> rfl
  | seq p q left right =>
    simp only [Pattern.avoids, Bool.and_eq_true] at avoids
    simp only [derivative]
    have first := andThen_avoids (left avoids.1) avoids.2
    split
    · exact orElse_avoids first (right avoids.2)
    · exact first
  | either p q left right =>
    simp only [Pattern.avoids, Bool.and_eq_true] at avoids
    exact orElse_avoids (left avoids.1) (right avoids.2)
  | many p head => exact andThen_avoids (head avoids) avoids

theorem derivative_never {c : Char} {p : Pattern} (avoids : p.avoids c = true) :
    p.derivative c = .never := by
  induction p with
  | never | nothing => rfl
  | one accepts =>
    simp only [Pattern.avoids, Bool.not_eq_true'] at avoids
    simp [derivative, avoids]
  | seq p q left right =>
    simp only [Pattern.avoids, Bool.and_eq_true] at avoids
    simp only [derivative, left avoids.1, right avoids.2]
    split <;> rfl
  | either p q left right =>
    simp only [Pattern.avoids, Bool.and_eq_true] at avoids
    simp only [derivative, left avoids.1, right avoids.2]
    rfl
  | many p head =>
    simp only [derivative, head avoids]
    rfl

theorem longest?_append {c : Char} {p : Pattern} (avoids : p.avoids c = true) (text rest : List Char) :
    p.longest? (text ++ c :: rest) = p.longest? text := by
  induction text generalizing p with
  | nil =>
    simp only [List.nil_append, longest?, derivative_never avoids, isNever, if_true]
  | cons d text ih =>
    simp only [List.cons_append, longest?, ih (derivative_avoids d avoids)]

theorem longest?_cons {c : Char} {p : Pattern} (avoids : p.avoids c = true) (rest : List Char) :
    p.longest? (c :: rest) = if p.matchesEmpty then some 0 else none := by
  simp only [longest?, derivative_never avoids, isNever, if_true]

theorem many_one_longest? (accepts : Char → Bool) (text : List Char) :
    (Pattern.many (.one accepts)).longest? text = some (text.takeWhile accepts).length := by
  induction text with
  | nil => rfl
  | cons c rest ih =>
    rw [longest?, List.takeWhile_cons]
    cases accepted : accepts c with
    | true =>
      have derived : (Pattern.many (.one accepts)).derivative c = .many (.one accepts) := by
        simp [derivative, accepted, andThen]
      simp [derived, isNever, ih]
    | false => simp [derivative, accepted, andThen, isNever, matchesEmpty]

end Pattern

namespace TokenKind

theorem longestMatch_skip {text : List Char} {before : List (TokenKind × Pattern)}
    (none : ∀ entry ∈ before, entry.2.longest? text = none) (after : List (TokenKind × Pattern)) :
    longestMatch text (before ++ after) = longestMatch text after := by
  induction before with
  | nil => rfl
  | cons entry before ih =>
    have head := none entry List.mem_cons_self
    obtain ⟨kind, pattern⟩ := entry
    rw [List.cons_append, longestMatch, head]
    exact ih fun other member => none other (List.mem_cons_of_mem _ member)

theorem longestMatch_none {text : List Char} {entries : List (TokenKind × Pattern)}
    (none : ∀ entry ∈ entries, entry.2.longest? text = none) : longestMatch text entries = .none := by
  have skipped := longestMatch_skip none []
  rwa [List.append_nil] at skipped

theorem longestMatch_congr {text other : List Char} {entries : List (TokenKind × Pattern)}
    (same : ∀ entry ∈ entries, entry.2.longest? text = entry.2.longest? other) :
    longestMatch text entries = longestMatch other entries := by
  induction entries with
  | nil => rfl
  | cons entry entries ih =>
    obtain ⟨kind, pattern⟩ := entry
    rw [longestMatch, longestMatch, same _ List.mem_cons_self,
      ih fun other member => same other (List.mem_cons_of_mem _ member)]

/-- The characters that blanks are made of. -/
def blanks : List Char := [' ', '\t', '\r', '\n']

theorem patterns_filled : ∀ entry ∈ patterns, entry.2.matchesEmpty = false := by decide

theorem patterns_avoid_blanks :
    ∀ entry ∈ patterns, entry.1.isTrivia = false → ∀ c ∈ blanks, entry.2.avoids c = true := by
  have all : ∀ entry ∈ patterns, entry.1.isTrivia = false → blanks.all entry.2.avoids = true := by decide
  intro entry known other c blank
  exact List.all_eq_true.mp (all entry known other) c blank

theorem patterns_avoid_slash :
    ∀ entry ∈ patterns, entry.1 ≠ .comment → entry.1 ≠ .slash → entry.2.avoids '/' = true := by
  decide

def blankPattern : Pattern := .atLeastOne (.oneOf blanks)

def commentPattern : Pattern := .seq (.literal ['/', '/']) (.many (.one (· != '\n')))

theorem pattern_of_trivia :
    ∀ entry ∈ patterns, entry.1.isTrivia = true →
      entry = (.blank, blankPattern) ∨ entry = (.comment, commentPattern) := by
  simp [patterns, fixed, isTrivia, blankPattern, commentPattern, blanks]

theorem patterns_around_blank :
    patterns = patterns.take 3 ++ (.blank, blankPattern) :: patterns.drop 4 := rfl

theorem patterns_around_comment :
    patterns = patterns.take 4 ++ (.comment, commentPattern) :: patterns.drop 5 := rfl

theorem blankPattern_none {c : Char} (solid : c ∉ blanks) (rest : List Char) :
    blankPattern.longest? (c :: rest) = none := by
  simp [blankPattern, Pattern.atLeastOne, Pattern.oneOf, Pattern.longest?, Pattern.derivative,
    Pattern.matchesEmpty, Pattern.andThen, Pattern.isNever, solid]

theorem blankPattern_some {c : Char} (blank : c ∈ blanks) (rest : List Char) :
    blankPattern.longest? (c :: rest) = some ((rest.takeWhile blanks.contains).length + 1) := by
  have derived : blankPattern.derivative c = .many (.one blanks.contains) := by
    simp [blankPattern, Pattern.atLeastOne, Pattern.oneOf, Pattern.derivative, Pattern.matchesEmpty,
      Pattern.andThen, blank]
  rw [Pattern.longest?, derived, Pattern.many_one_longest?]
  rfl

theorem commentPattern_other {c : Char} (differs : c ≠ '/') (rest : List Char) :
    commentPattern.longest? (c :: rest) = none := by
  simp [commentPattern, Pattern.literal, Pattern.oneOf, Pattern.longest?, Pattern.derivative,
    Pattern.matchesEmpty, Pattern.andThen, Pattern.isNever, differs]

theorem commentPattern_slash :
    commentPattern.derivative '/' = .seq (.literal ['/']) (.many (.one (· != '\n'))) := rfl

theorem commentPattern_none {text : List Char} (single : ∀ rest, text ≠ '/' :: '/' :: rest) :
    commentPattern.longest? text = none := by
  cases text with
  | nil => rfl
  | cons c rest =>
    by_cases slash : c = '/'
    · subst slash
      cases rest with
      | nil => rfl
      | cons d rest =>
        have differs : d ≠ '/' := fun same => single rest (by rw [same])
        rw [Pattern.longest?, commentPattern_slash]
        simp [commentPattern, Pattern.literal, Pattern.oneOf, Pattern.longest?, Pattern.derivative,
          Pattern.matchesEmpty, Pattern.andThen, Pattern.isNever, differs]
    · exact commentPattern_other slash rest

theorem commentPattern_some (rest : List Char) :
    commentPattern.longest? ('/' :: '/' :: rest) = some ((rest.takeWhile (· != '\n')).length + 2) := by
  have second : (Pattern.seq (.literal ['/']) (.many (.one (· != '\n')))).derivative '/' =
      .many (.one (· != '\n')) := rfl
  simp only [Pattern.longest?, commentPattern_slash, second, Pattern.many_one_longest?, Pattern.isNever]
  rfl

theorem first_blank {c : Char} (blank : c ∈ blanks) (rest : List Char) :
    first (c :: rest) = (.blank, (rest.takeWhile blanks.contains).length + 1) := by
  have apart : ∀ entry ∈ patterns.take 3 ++ patterns.drop 4, entry.1 ≠ .blank := by decide
  have slash : c ≠ '/' := by
    rintro rfl
    exact absurd blank (by decide)
  have others : ∀ entry ∈ patterns.take 3 ++ patterns.drop 4, entry.2.longest? (c :: rest) = none := by
    intro entry member
    have known : entry ∈ patterns := by
      rcases List.mem_append.mp member with member | member
      · exact List.mem_of_mem_take member
      · exact List.mem_of_mem_drop member
    by_cases trivia : entry.1.isTrivia = true
    · rcases pattern_of_trivia entry known trivia with rfl | rfl
      · exact absurd rfl (apart _ member)
      · exact commentPattern_other slash rest
    · have avoids := patterns_avoid_blanks entry known (by simpa using trivia) c blank
      rw [Pattern.longest?_cons avoids, patterns_filled entry known]
      rfl
  have before := fun entry member => others entry (List.mem_append_left _ member)
  have after := fun entry member => others entry (List.mem_append_right _ member)
  rw [first, patterns_around_blank, longestMatch_skip before, longestMatch, blankPattern_some blank,
    longestMatch_none after]
  rfl

theorem first_comment (rest : List Char) :
    first ('/' :: '/' :: rest) = (.comment, (rest.takeWhile (· != '\n')).length + 2) := by
  have others {part : List (TokenKind × Pattern)} (within : ∀ entry ∈ part, entry ∈ patterns)
      (apart : ∀ entry ∈ part, entry.1 ≠ .comment ∧ entry.1 ≠ .slash) :
      ∀ entry ∈ part, entry.2.longest? ('/' :: '/' :: rest) = none := by
    intro entry member
    have avoids := patterns_avoid_slash entry (within entry member) (apart entry member).1
      (apart entry member).2
    rw [Pattern.longest?_cons avoids, patterns_filled entry (within entry member)]
    rfl
  have before : ∀ entry ∈ patterns.take 4, entry.2.longest? ('/' :: '/' :: rest) = none :=
    others (fun _ => List.mem_of_mem_take) (by decide)
  have between : ∀ entry ∈ (patterns.drop 5).take 20, entry.2.longest? ('/' :: '/' :: rest) = none :=
    others (fun _ member => List.mem_of_mem_drop (List.mem_of_mem_take member)) (by decide)
  have after : ∀ entry ∈ patterns.drop 26, entry.2.longest? ('/' :: '/' :: rest) = none :=
    others (fun _ => List.mem_of_mem_drop) (by decide)
  have split : patterns.drop 5 = (patterns.drop 5).take 20 ++ fixed .slash "/" :: patterns.drop 26 := rfl
  have single : (Pattern.literal "/".toList).longest? ('/' :: '/' :: rest) = some 1 := rfl
  rw [first, patterns_around_comment, longestMatch_skip before, longestMatch, commentPattern_some, split,
    longestMatch_skip between, fixed, longestMatch, single, longestMatch_none after]
  simp

theorem sign_longest? (sign c : Char) (rest : List Char) :
    (Pattern.literal [sign]).longest? (c :: rest) = if c = sign then some 1 else none := by
  by_cases same : c = sign
  · have derived : (Pattern.literal [sign]).derivative c = .nothing := by
      simp [Pattern.literal, Pattern.oneOf, Pattern.derivative, Pattern.matchesEmpty, Pattern.andThen, same]
    have nothing : Pattern.nothing.longest? rest = some 0 := by cases rest <;> rfl
    rw [Pattern.longest?, derived, nothing, if_pos same]
    rfl
  · have derived : (Pattern.literal [sign]).derivative c = .never := by
      simp [Pattern.literal, Pattern.oneOf, Pattern.derivative, Pattern.matchesEmpty, Pattern.andThen, same]
    rw [Pattern.longest?, derived, if_neg same]
    rfl

theorem first_sign {before after : List (TokenKind × Pattern)} {kind : TokenKind} {sign : Char}
    (split : patterns = before ++ (kind, .literal [sign]) :: after)
    (others : ∀ entry ∈ before ++ after, entry.1 = .comment ∨ entry.2.avoids sign = true)
    (noSlash : sign ≠ '/') (rest : List Char) : first (sign :: rest) = (kind, 1) := by
  have none (entry : TokenKind × Pattern) (member : entry ∈ before ++ after) :
      entry.2.longest? (sign :: rest) = none := by
    have known : entry ∈ patterns := by
      rw [split]
      rcases List.mem_append.mp member with member | member
      · exact List.mem_append_left _ member
      · exact List.mem_append_right _ (List.mem_cons_of_mem _ member)
    rcases others entry member with comment | avoids
    · rcases pattern_of_trivia entry known (by rw [comment]; rfl) with rfl | rfl
      · cases comment
      · exact commentPattern_other noSlash rest
    · rw [Pattern.longest?_cons avoids, patterns_filled entry known]
      rfl
  rw [first, split, longestMatch_skip fun entry member => none entry (List.mem_append_left _ member),
    longestMatch, sign_longest?, longestMatch_none fun entry member =>
      none entry (List.mem_append_right _ member), if_pos rfl]
  rfl

theorem first_open (rest : List Char) : first ('(' :: rest) = (.openParen, 1) := by
  have split : patterns = patterns.take 8 ++ (.openParen, .literal ['(']) :: patterns.drop 9 := rfl
  exact first_sign split (by decide) (by decide) rest

theorem first_close (rest : List Char) : first (')' :: rest) = (.closeParen, 1) := by
  have split : patterns = patterns.take 9 ++ (.closeParen, .literal [')']) :: patterns.drop 10 := rfl
  exact first_sign split (by decide) (by decide) rest

def breaks : List Char := '(' :: ')' :: ';' :: blanks

theorem patterns_avoid_breaks :
    ∀ entry ∈ patterns, entry.1.isTrivia = false → (∃ sign, entry.2 = .literal [sign]) ∨
      ∀ c ∈ breaks, entry.2.avoids c = true := by
  have all : ∀ entry ∈ patterns, entry.1.isTrivia = false →
      entry.1 ∉ [.openParen, .closeParen, .semicolon] → breaks.all entry.2.avoids = true := by decide
  have signs : ∀ entry ∈ patterns, entry.1 ∈ [.openParen, .closeParen, .semicolon] →
      ∃ sign, entry.2 = .literal [sign] := by
    simp only [patterns, List.forall_mem_cons]
    and_intros
    all_goals first | exact fun _ => ⟨_, rfl⟩ | simp [fixed]
  intro entry known solid
  by_cases sign : entry.1 ∈ [.openParen, .closeParen, .semicolon]
  · exact .inl (signs entry known sign)
  · exact .inr (List.all_eq_true.mp (all entry known solid sign))

def StartsSolid (text : List Char) : Prop :=
  ∃ c rest, text = c :: rest ∧ c ∉ blanks ∧ ∀ more, text ≠ '/' :: '/' :: more

theorem StartsSolid.of_first {text : List Char} (filled : text ≠ [])
    (solid : (first text).1.isTrivia = false) : StartsSolid text := by
  cases text with
  | nil => exact absurd rfl filled
  | cons c rest =>
    refine ⟨c, rest, rfl, fun blank => ?_, fun more same => ?_⟩
    · rw [first_blank blank] at solid
      cases solid
    · rw [same, first_comment more] at solid
      cases solid

theorem StartsSolid.append {text : List Char} (starts : StartsSolid text) {c : Char} (noSlash : c ≠ '/')
    (rest : List Char) : StartsSolid (text ++ c :: rest) := by
  obtain ⟨d, tail, rfl, unblank, single⟩ := starts
  refine ⟨d, tail ++ c :: rest, rfl, unblank, fun more same => ?_⟩
  cases tail with
  | nil =>
    simp only [List.cons_append, List.nil_append, List.cons.injEq] at same
    exact noSlash same.2.1
  | cons e tail =>
    simp only [List.cons_append, List.cons.injEq] at same
    obtain ⟨rfl, rfl, -⟩ := same
    exact single tail rfl

theorem first_append_break {text : List Char} (starts : StartsSolid text) {c : Char}
    (ends : c ∈ breaks) (rest : List Char) : first (text ++ c :: rest) = first text := by
  have noSlash : c ≠ '/' := by
    rintro rfl
    exact absurd ends (by decide)
  obtain ⟨-, -, -, -, longer⟩ := starts.append noSlash rest
  obtain ⟨d, tail, rfl, unblank, single⟩ := starts
  rw [first, first, longestMatch_congr]
  intro entry member
  by_cases trivia : entry.1.isTrivia = true
  · rcases pattern_of_trivia entry member trivia with rfl | rfl
    · rw [List.cons_append, blankPattern_none unblank, blankPattern_none unblank]
    · rw [commentPattern_none single, commentPattern_none longer]
  · rcases patterns_avoid_breaks entry member (by simpa using trivia) with ⟨sign, same⟩ | avoids
    · rw [same, List.cons_append, sign_longest?, sign_longest?]
    · exact Pattern.longest?_append (avoids c ends) _ _

theorem first_nil : first [] = (.invalid, 1) := rfl

end TokenKind

/-- A text that is read as one token, which is neither blank nor a comment. -/
structure Lexeme where
  kind : TokenKind
  text : List Char
  lexed : TokenKind.first text = (kind, text.length)
  solid : kind.isTrivia = false

namespace Lexeme

theorem starts (l : Lexeme) : TokenKind.StartsSolid l.text := by
  refine .of_first (fun empty => ?_) (by rw [l.lexed]; exact l.solid)
  have lexed := l.lexed
  rw [empty, TokenKind.first_nil] at lexed
  simp at lexed

theorem text_length_pos (l : Lexeme) : 0 < l.text.length := by
  obtain ⟨c, rest, found, -, -⟩ := l.starts
  rw [found]
  exact Nat.succ_pos _

theorem first_append (l : Lexeme) (rest : List Char) :
    TokenKind.first (l.text ++ ' ' :: rest) = (l.kind, l.text.length) :=
  (TokenKind.first_append_break l.starts (by decide) rest).trans l.lexed

end Lexeme

def followed : List Lexeme → List Char
  | [] => []
  | l :: ls => ' ' :: (l.text ++ followed ls)

def spell : List Lexeme → List Char
  | [] => []
  | l :: ls => l.text ++ followed ls

theorem Lexeme.first_spell (l : Lexeme) (ls : List Lexeme) :
    TokenKind.first (spell (l :: ls)) = (l.kind, l.text.length) := by
  cases ls with
  | nil =>
    rw [spell, followed, List.append_nil]
    exact l.lexed
  | cons next ls => exact l.first_append _

theorem first_followed (l : Lexeme) (ls : List Lexeme) :
    TokenKind.first (followed (l :: ls)) = (.blank, 1) := by
  obtain ⟨c, rest, found, solid, -⟩ := l.starts
  rw [followed, TokenKind.first_blank (by decide), found, List.cons_append, List.takeWhile_cons_of_neg]
  · rfl
  · simpa using solid

namespace Cursor

/-- What is left to read are the lexemes, perhaps with a space before them. -/
def Spells (cursor : Cursor) (ls : List Lexeme) : Prop :=
  cursor.rest = spell ls ∨ cursor.rest = followed ls

theorem nextFrom_spell (base offset : Nat) (l : Lexeme) (ls : List Lexeme) :
    nextFrom base offset 0 (spell (l :: ls)) =
      some (⟨l.kind, l.text, base + offset⟩, ⟨followed ls, base, offset + Text.byteSize l.text⟩) := by
  obtain ⟨c, rest, found, -, -⟩ := l.starts
  have lexed := l.first_spell ls
  have whole : spell (l :: ls) = c :: (rest ++ followed ls) := by rw [spell, found, List.cons_append]
  have taken : (c :: (rest ++ followed ls)).take l.text.length = l.text := by
    rw [← whole, spell, List.take_left]
  have dropped : (c :: (rest ++ followed ls)).drop l.text.length = followed ls := by
    rw [← whole, spell, List.drop_left]
  rw [whole] at lexed ⊢
  simp only [nextFrom, lexed, l.solid, taken, dropped, Bool.false_eq_true, if_false]

theorem Spells.next? {cursor : Cursor} {l : Lexeme} {ls : List Lexeme} (spells : cursor.Spells (l :: ls)) :
    ∃ offset, cursor.next? =
        some (⟨l.kind, l.text, cursor.base + offset⟩,
          ⟨followed ls, cursor.base, offset + Text.byteSize l.text⟩) ∧
      cursor.base + offset + Text.byteSize (spell (l :: ls)) = cursor.finish ∧
      (spell (l :: ls)).length ≤ cursor.rest.length := by
  obtain ⟨rest, base, offset⟩ := cursor
  rcases spells with here | spaced
  · change rest = _ at here
    subst here
    exact ⟨offset, nextFrom_spell base offset l ls, rfl, Nat.le_refl _⟩
  · change rest = _ at spaced
    subst spaced
    have blank := first_followed l ls
    refine ⟨offset + 1, ?_, ?_, Nat.le_succ _⟩
    · rw [followed] at blank
      simp only [Cursor.next?, followed, nextFrom, blank]
      exact nextFrom_spell base (offset + 1) l ls
    · simp only [finish, place, followed, Text.byteSize_cons, spell]
      have single : ' '.utf8Size = 1 := rfl
      omega

section Reading

variable {cursor : Cursor} {l : Lexeme} {ls : List Lexeme}

theorem Spells.current (spells : cursor.Spells (l :: ls)) :
    cursor.current.kind = l.kind ∧ cursor.current.text = l.text := by
  obtain ⟨offset, found, -, -⟩ := spells.next?
  simp [Cursor.current, read, found]

theorem Spells.advance (spells : cursor.Spells (l :: ls)) : cursor.advance.Spells ls := by
  obtain ⟨offset, found, -, -⟩ := spells.next?
  exact .inr (by simp [Cursor.advance, read, found])

theorem Spells.advance_finish (spells : cursor.Spells (l :: ls)) :
    cursor.advance.finish = cursor.finish := by
  obtain ⟨offset, found, whole, -⟩ := spells.next?
  rw [← whole]
  simp [Cursor.advance, read, found, finish, place, spell, Nat.add_assoc]

theorem Spells.advance_length (spells : cursor.Spells (l :: ls)) :
    cursor.advance.rest.length < cursor.rest.length := by
  obtain ⟨offset, found, -, shorter⟩ := spells.next?
  have positive := l.text_length_pos
  simp only [spell, List.length_append] at shorter
  simp only [Cursor.advance, read, found, Option.getD_some]
  omega

theorem Spells.nil (spells : cursor.Spells []) : cursor.rest = [] := by
  rcases spells with empty | empty <;> exact empty

theorem Spells.current_nil (spells : cursor.Spells []) : cursor.current.kind = .finish := by
  obtain ⟨rest, base, offset⟩ := cursor
  have empty : rest = [] := spells.nil
  subst empty
  rfl

end Reading

end Cursor

end MeshLang
