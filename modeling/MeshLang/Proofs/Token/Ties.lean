import MeshLang.Proofs.Token.Advance
import MeshLang.Proofs.Token.Language

namespace MeshLang

namespace Pattern

variable {p : Pattern} {c : Char} {s : List Char}

def behind (p : Pattern) (text : List Char) : Pattern :=
  text.foldl (fun q c => q.derivative c) p

theorem behind_iff : (p.behind s).matchesEmpty = true ↔ Matches p s := by
  induction s generalizing p with
  | nil => exact matchesEmpty_iff
  | cons c s ih => exact (ih (p := p.derivative c)).trans derivative_iff

instance (p : Pattern) (s : List Char) : Decidable (Matches p s) :=
  decidable_of_iff _ behind_iff

def begins (c : Char) : Pattern → Bool
  | .never | .nothing => false
  | .one accepts => accepts c
  | .seq p q => p.begins c || p.matchesEmpty && q.begins c
  | .either p q => p.begins c || q.begins c
  | .many p => p.begins c

theorem begins_of_matches (matched : Matches p (c :: s)) : p.begins c = true := by
  induction p generalizing s with
  | never | nothing => simp at matched
  | one accepts =>
    obtain ⟨d, single, accepted⟩ := matches_one_iff.mp matched
    obtain ⟨rfl, -⟩ := List.cons.inj single
    exact accepted
  | seq p q left right =>
    obtain ⟨t, u, split, head, tail⟩ := matches_seq_iff.mp matched
    rw [begins, Bool.or_eq_true, Bool.and_eq_true]
    rcases List.cons_eq_append_iff.mp split with ⟨rfl, rfl⟩ | ⟨t, rfl, rfl⟩
    · exact .inr ⟨matchesEmpty_iff.mpr head, right tail⟩
    · exact .inl (left head)
  | either p q left right =>
    rw [begins, Bool.or_eq_true]
    exact (matches_either_iff.mp matched).imp left right
  | many p head =>
    obtain ⟨t, u, -, matched, -⟩ := matches_many_cons_iff.mp matched
    exact head matched

end Pattern

namespace TokenKind

def isOpen : TokenKind → Bool
  | .blank | .comment | .word | .integer | .decimal => true
  | _ => false

def opening (c : Char) : TokenKind :=
  if c ∈ blanks then .blank else if c = '/' then .comment else if isLetter c then .word else .integer

theorem opening_of_isLetter {c : Char} (letter : isLetter c = true) : opening c = .word := by
  have none : ∀ d ∈ '/' :: blanks, isLetter d = false := by simp [blanks, isLetter]
  have apart : c ∉ '/' :: blanks := fun member => by simp [none c member] at letter
  rw [List.mem_cons, not_or] at apart
  rw [opening, if_neg apart.2, if_neg apart.1, if_pos letter]

theorem isLetter_of_isDigit {c : Char} (digit : c.isDigit = true) : isLetter c = false := by
  have underscore : c ≠ '_' := by
    rintro rfl
    exact absurd digit (by decide)
  unfold isLetter Char.isAlpha Char.isUpper Char.isLower
  simp only [Char.isDigit, Bool.and_eq_true, decide_eq_true_eq, Bool.or_eq_false_iff,
    Bool.and_eq_false_iff, decide_eq_false_iff_not, beq_eq_false_iff_ne] at digit ⊢
  grind

theorem opening_of_digit {c : Char} (digit : c.isDigit = true ∨ c = '.') : opening c = .integer := by
  rcases digit with digit | rfl
  · have none : ∀ d ∈ '/' :: blanks, d.isDigit = false := by simp [blanks]
    have apart : c ∉ '/' :: blanks := fun member => by simp [none c member] at digit
    rw [List.mem_cons, not_or] at apart
    rw [opening, if_neg apart.2, if_neg apart.1, isLetter_of_isDigit digit]
    rfl
  · decide

def wordPattern : Pattern := .seq (.one isLetter) (.many (.one fun c => isLetter c || c.isDigit))

theorem pattern_of_open :
    ∀ entry ∈ patterns, entry.1.isOpen = true →
      entry = (.blank, blankPattern) ∨ entry = (.comment, commentPattern) ∨
        entry = (.word, wordPattern) ∨ entry = (.integer, digits) ∨
          entry = (.decimal, decimalPattern) := by
  simp [patterns, fixed, isOpen, blankPattern, commentPattern, wordPattern, blanks]

theorem opening_of_begins {entry : TokenKind × Pattern} (known : entry ∈ patterns)
    (unfixed : entry.1.isOpen = true) {c : Char} (begins : entry.2.begins c = true) :
    opening c = if entry.1 = .decimal then .integer else entry.1 := by
  rcases pattern_of_open entry known unfixed with rfl | rfl | rfl | rfl | rfl
  · have blank : c ∈ blanks := by
      simpa [blankPattern, Pattern.atLeastOne, Pattern.oneOf, Pattern.begins, Pattern.matchesEmpty]
        using begins
    exact if_pos blank
  · have slash : c = '/' := by
      simpa [commentPattern, Pattern.literal, Pattern.oneOf, Pattern.begins, Pattern.matchesEmpty]
        using begins
    rw [slash]
    decide
  · have letter : isLetter c = true := by
      simpa [wordPattern, Pattern.begins, Pattern.matchesEmpty] using begins
    exact opening_of_isLetter letter
  · have digit : c.isDigit = true := by
      simpa [digits, Pattern.atLeastOne, Pattern.begins, Pattern.matchesEmpty] using begins
    exact opening_of_digit (.inl digit)
  · have digit : c.isDigit = true ∨ c = '.' := by
      simp [decimalPattern, digits, Pattern.atLeastOne, Pattern.oneOf, Pattern.begins,
        Pattern.matchesEmpty] at begins
      grind
    exact opening_of_digit digit

theorem isDigit_of_integer {text : List Char} (matched : digits.Matches text) :
    ∀ c ∈ text, c.isDigit = true := by
  obtain ⟨t, u, rfl, head, tail⟩ := Pattern.matches_seq_iff.mp matched
  obtain ⟨c, rfl, digit⟩ := Pattern.matches_one_iff.mp head
  exact List.forall_mem_cons.mpr ⟨digit, Pattern.matches_many_one_iff.mp tail⟩

theorem mem_of_oneOf {members : List Char} {p : Pattern} {text : List Char}
    (matched : (Pattern.seq (.oneOf members) p).Matches text) : ∃ c ∈ text, c ∈ members := by
  obtain ⟨t, u, rfl, head, -⟩ := Pattern.matches_seq_iff.mp matched
  obtain ⟨c, rfl, member⟩ := Pattern.matches_one_iff.mp head
  exact ⟨c, List.mem_cons_self, List.contains_iff_mem.mp member⟩

theorem mark_of_decimal {text : List Char} (matched : decimalPattern.Matches text) :
    ∃ c ∈ text, c.isDigit = false := by
  have marks : ∀ c ∈ ['.', 'e', 'E'], c.isDigit = false := by simp
  rcases Pattern.matches_either_iff.mp matched with whole | matched
  · obtain ⟨t, u, rfl, -, fraction⟩ := Pattern.matches_seq_iff.mp whole
    obtain ⟨c, member, mark⟩ := mem_of_oneOf fraction
    exact ⟨c, List.mem_append_right t member, marks c (List.mem_of_mem_take (i := 1) mark)⟩
  rcases Pattern.matches_either_iff.mp matched with fraction | whole
  · obtain ⟨c, member, mark⟩ := mem_of_oneOf fraction
    exact ⟨c, member, marks c (List.mem_of_mem_take (i := 1) mark)⟩
  · obtain ⟨t, u, rfl, -, exponent⟩ := Pattern.matches_seq_iff.mp whole
    obtain ⟨c, member, mark⟩ := mem_of_oneOf exponent
    exact ⟨c, List.mem_append_right t member, marks c (List.mem_cons_of_mem _ mark)⟩

theorem not_decimal_of_integer {text : List Char} (matched : digits.Matches text) :
    ¬ decimalPattern.Matches text := by
  intro decimal
  obtain ⟨c, member, mark⟩ := mark_of_decimal decimal
  rw [isDigit_of_integer matched c member] at mark
  cases mark

def quoted (kind : TokenKind) : List Char := (kind.displayName.toList.drop 1).dropLast

theorem patterns_quoted :
    ∀ entry ∈ patterns, entry.1.isOpen = false → entry.2 = .literal entry.1.quoted := by
  simp only [patterns, List.forall_mem_cons]
  and_intros
  all_goals simp [fixed, isOpen]
  all_goals rfl

/-- No other pattern describes a fixed word, but for the names among the words for constants. -/
theorem patterns_fixed :
    ∀ entry ∈ patterns, entry.1.isOpen = false →
      ∀ other ∈ patterns, other.2.Matches entry.1.quoted →
        other.1 = entry.1 ∨ other.1 = .word ∧ entry.1.isKeyword = true := by
  decide

theorem kind_of_matches {entry other : TokenKind × Pattern} {text : List Char}
    (known : entry ∈ patterns) (known' : other ∈ patterns)
    (matched : entry.2.Matches text) (matched' : other.2.Matches text) :
    other.1 = entry.1 ∨ other.1 = .word ∧ entry.1.isKeyword = true ∨
      entry.1 = .word ∧ other.1.isKeyword = true := by
  cases unfixed : entry.1.isOpen with
  | false =>
    rw [patterns_quoted entry known unfixed, Pattern.matches_literal_iff] at matched
    subst matched
    exact (patterns_fixed entry known unfixed other known' matched').imp_right .inl
  | true =>
    cases unfixed' : other.1.isOpen with
    | false =>
      rw [patterns_quoted other known' unfixed', Pattern.matches_literal_iff] at matched'
      subst matched'
      exact (patterns_fixed other known' unfixed' entry known matched).imp .symm .inr
    | true =>
      cases text with
      | nil =>
        have filled := patterns_filled entry known
        rw [Pattern.matchesEmpty_iff.mpr matched] at filled
        cases filled
      | cons c rest =>
        have kind := opening_of_begins known unfixed (Pattern.begins_of_matches matched)
        have kind' := opening_of_begins known' unfixed' (Pattern.begins_of_matches matched')
        left
        rcases pattern_of_open entry known unfixed with rfl | rfl | rfl | rfl | rfl <;>
          rcases pattern_of_open other known' unfixed' with rfl | rfl | rfl | rfl | rfl <;>
          first
          | rfl
          | exact absurd matched' (not_decimal_of_integer matched)
          | exact absurd matched (not_decimal_of_integer matched')
          | cases kind.symm.trans kind'

end TokenKind

end MeshLang
