import MeshLang.Proofs.Token.Lexed

namespace MeshLang

namespace TokenKind

theorem longestMatch_listed {text : List Char} {entries : List (TokenKind × Pattern)}
    {kind : TokenKind} {count : Nat} (found : longestMatch text entries = some (kind, count)) :
    0 < count ∧ ∃ pattern, (kind, pattern) ∈ entries ∧ pattern.longest? text = some count := by
  induction entries generalizing kind count with
  | nil => cases found
  | cons entry entries ih =>
    obtain ⟨own, pattern⟩ := entry
    have further {kind : TokenKind} {count : Nat}
        (found : longestMatch text entries = some (kind, count)) :
        0 < count ∧ ∃ other, (kind, other) ∈ (own, pattern) :: entries ∧
          other.longest? text = some count := by
      obtain ⟨positive, other, listed, longest⟩ := ih found
      exact ⟨positive, other, List.mem_cons_of_mem _ listed, longest⟩
    rw [longestMatch] at found
    split at found
    · rename_i longest others
      split at found <;> cases found
      · rename_i longer
        exact ⟨by simp at longer; exact longer.2, pattern, List.mem_cons_self, longest⟩
      · exact further others
    · rename_i longest others
      split at found <;> cases found
      rename_i longer
      exact ⟨longer, pattern, List.mem_cons_self, longest⟩
    · exact further found

theorem patterns_exclude_finish : TokenKind.finish ∉ patterns.map (·.1) := by decide

theorem first_bounds {text : List Char} (filled : text ≠ []) {kind : TokenKind} {count : Nat}
    (lexed : first text = (kind, count)) : 0 < count ∧ count ≤ text.length ∧ kind ≠ .finish := by
  unfold first at lexed
  cases best : longestMatch text patterns with
  | none =>
    rw [best] at lexed
    cases lexed
    exact ⟨Nat.one_pos, List.length_pos_iff.mpr filled, by decide⟩
  | some answer =>
    rw [best] at lexed
    change answer = _ at lexed
    subst lexed
    obtain ⟨positive, pattern, listed, -⟩ := longestMatch_listed best
    refine ⟨positive, longestMatch_length best, ?_⟩
    rintro rfl
    exact patterns_exclude_finish (List.mem_map_of_mem listed)

theorem first_openParen {text : List Char} {count : Nat} (lexed : first text = (.openParen, count)) :
    count = 1 ∧ ∃ rest, text = '(' :: rest := by
  have single : ∀ pattern, (TokenKind.openParen, pattern) ∈ patterns → pattern = .literal ['('] := by
    simp [patterns, fixed]
  unfold first at lexed
  cases best : longestMatch text patterns with
  | none =>
    rw [best] at lexed
    cases lexed
  | some answer =>
    rw [best] at lexed
    change answer = _ at lexed
    subst lexed
    obtain ⟨positive, pattern, listed, longest⟩ := longestMatch_listed best
    rw [single pattern listed] at longest
    cases text with
    | nil => cases longest
    | cons c rest =>
      rw [sign_longest?] at longest
      split at longest
      · rename_i same
        cases longest
        exact ⟨rfl, rest, by rw [same]⟩
      · cases longest

end TokenKind

namespace Cursor

/-- The same place of the outermost text, in whatever text it is counted. -/
structure Meets (cursor other : Cursor) : Prop where
  rest : other.rest = cursor.rest
  place : other.place = cursor.place

def Precedes (cursor behind : Cursor) : Prop :=
  ∃ taken, cursor.rest = taken ++ behind.rest ∧
    behind.place = cursor.place + Text.byteSize taken

namespace Meets

variable {cursor other further : Cursor}

theorem refl : cursor.Meets cursor := ⟨rfl, rfl⟩

theorem symm (meets : cursor.Meets other) : other.Meets cursor := ⟨meets.rest.symm, meets.place.symm⟩

theorem trans (meets : cursor.Meets other) (onward : other.Meets further) : cursor.Meets further :=
  ⟨onward.rest.trans meets.rest, onward.place.trans meets.place⟩

theorem eq_of_base (meets : cursor.Meets other) (base : other.base = cursor.base) : other = cursor := by
  obtain ⟨rest, place⟩ := meets
  obtain ⟨_, _, offset⟩ := cursor
  obtain ⟨_, _, offset'⟩ := other
  subst rest base
  rw [Nat.add_left_cancel (show _ + offset' = _ + offset from place)]

theorem precedes (meets : cursor.Meets other) : cursor.Precedes other :=
  ⟨[], meets.rest.symm, meets.place⟩

theorem finish (meets : cursor.Meets other) : other.finish = cursor.finish := by
  rw [Cursor.finish, Cursor.finish, meets.place, meets.rest]

end Meets

namespace Precedes

variable {cursor behind further : Cursor}

theorem refl : cursor.Precedes cursor := Meets.refl.precedes

theorem trans (first : cursor.Precedes behind) (second : behind.Precedes further) :
    cursor.Precedes further := by
  obtain ⟨taken, split, place⟩ := first
  obtain ⟨more, split', place'⟩ := second
  refine ⟨taken ++ more, by rw [split, split', List.append_assoc], ?_⟩
  rw [place', place, Text.byteSize_append, Nat.add_assoc]

theorem length_le (precedes : cursor.Precedes behind) : behind.rest.length ≤ cursor.rest.length := by
  obtain ⟨taken, split, -⟩ := precedes
  simp [split]

theorem place_le (precedes : cursor.Precedes behind) : cursor.place ≤ behind.place := by
  obtain ⟨taken, -, place⟩ := precedes
  omega

theorem offset_le (precedes : cursor.Precedes behind) (base : behind.base = cursor.base) :
    cursor.offset ≤ behind.offset := by
  have later := precedes.place_le
  unfold place at later
  omega

theorem finish_eq (precedes : cursor.Precedes behind) : behind.finish = cursor.finish := by
  obtain ⟨taken, split, place⟩ := precedes
  simp only [finish, split, place, Text.byteSize_append, Nat.add_assoc]

theorem dropBytes? (precedes : cursor.Precedes behind) :
    Text.dropBytes? (behind.place - cursor.place) cursor.rest = some behind.rest := by
  obtain ⟨taken, split, place⟩ := precedes
  rw [split, show behind.place - cursor.place = Text.byteSize taken by omega]
  exact Text.dropBytes?_byteSize_append _ _

theorem within (precedes : cursor.Precedes behind) :
    Cursor.within cursor.place cursor.rest (behind.place - cursor.place) =
      ⟨behind.rest, cursor.place, behind.place - cursor.place⟩ := by
  unfold Cursor.within
  rw [precedes.dropBytes?]

theorem within_of_base {text : List Char} {base : Nat} (precedes : Precedes ⟨text, base, 0⟩ behind)
    (same : behind.base = base) : Cursor.within base text behind.offset = behind := by
  obtain ⟨rest, _, offset⟩ := behind
  subst same
  obtain ⟨taken, rfl, place⟩ := precedes
  obtain rfl : offset = Text.byteSize taken := Nat.add_left_cancel (place.trans (by rfl))
  rw [Cursor.within, Text.dropBytes?_byteSize_append]

theorem of_dropBytes? {consumed : Nat} {rest : List Char}
    (cut : Text.dropBytes? consumed cursor.rest = some rest) :
    cursor.Precedes ⟨rest, cursor.base, cursor.offset + consumed⟩ := by
  obtain ⟨taken, split, size⟩ := Text.append_of_dropBytes? cut
  exact ⟨taken, split, by rw [size, place, place, Nat.add_assoc]⟩

end Precedes

theorem precedes_finish (cursor : Cursor) :
    cursor.Precedes ⟨[], cursor.base, cursor.offset + Text.byteSize cursor.rest⟩ :=
  ⟨cursor.rest, (List.append_nil _).symm, (Nat.add_assoc _ _ _).symm⟩

theorem within_base (base : Nat) (text : List Char) (start : Nat) :
    (within base text start).base = base := by
  unfold within
  split <;> rfl

theorem precedes_within (cursor : Cursor) (start : Nat) :
    cursor.Precedes (.within cursor.place cursor.rest start) := by
  unfold within
  split
  · rename_i rest cut
    obtain ⟨taken, split, size⟩ := Text.append_of_dropBytes? cut
    exact ⟨taken, split, by rw [size]; rfl⟩
  · exact ⟨cursor.rest, (List.append_nil _).symm, rfl⟩

/-- Where the next token stands, and that it is the first one of what starts there. -/
structure Finds (cursor : Cursor) (token : Token) (after : Cursor) : Prop where
  split : ∃ before, cursor.rest = before ++ (token.text ++ after.rest) ∧
    token.offset = cursor.place + Text.byteSize before
  stop : after.place = token.stop
  base : after.base = cursor.base
  lexed : TokenKind.first (token.text ++ after.rest) = (token.kind, token.text.length)
  filled : token.text ≠ []
  solid : token.kind.isTrivia = false

theorem nextFrom_finds {base offset skip : Nat} {text : List Char} {token : Token} {after : Cursor}
    (found : nextFrom base offset skip text = some (token, after)) :
    Finds ⟨text, base, offset⟩ token after := by
  induction text generalizing offset skip with
  | nil => cases skip <;> cases found
  | cons c rest ih =>
    have later {skip : Nat} (found : nextFrom base (offset + c.utf8Size) skip rest = some (token, after)) :
        Finds ⟨c :: rest, base, offset⟩ token after := by
      obtain ⟨⟨before, split, place⟩, stop, same, lexed, filled, solid⟩ := ih found
      change rest = _ at split
      refine ⟨⟨c :: before, congrArg (c :: ·) split, ?_⟩, stop, same, lexed, filled, solid⟩
      rw [place, Text.byteSize_cons]
      simp only [Cursor.place, Nat.add_assoc]
    cases skip with
    | succ skip => exact later found
    | zero =>
      cases lexed : TokenKind.first (c :: rest) with
      | mk kind count =>
        obtain ⟨positive, fits, -⟩ := TokenKind.first_bounds (by simp) lexed
        simp only [nextFrom, lexed] at found
        split at found
        · exact later found
        · rename_i solid
          cases found
          refine ⟨⟨[], (List.take_append_drop _ _).symm, rfl⟩, (Nat.add_assoc _ _ _).symm, rfl, ?_, ?_,
            by simpa using solid⟩
          · simp only [List.take_append_drop, lexed, List.length_take, Nat.min_eq_left fits]
          · intro empty
            have none := congrArg List.length empty
            simp only [List.length_take, Nat.min_eq_left fits, List.length_nil] at none
            omega

theorem Finds.more {cursor : Cursor} {token : Token} {after : Cursor}
    (finds : cursor.Finds token after) : token.kind ≠ .finish := by
  have filled : token.text ++ after.rest ≠ [] := by simp [finds.filled]
  exact (TokenKind.first_bounds filled finds.lexed).2.2

theorem Finds.precedes {cursor : Cursor} {token : Token} {after : Cursor}
    (finds : cursor.Finds token after) : cursor.Precedes after := by
  obtain ⟨before, split, place⟩ := finds.split
  refine ⟨before ++ token.text, by rw [split, List.append_assoc], ?_⟩
  rw [finds.stop, Token.stop, place, Text.byteSize_append, Nat.add_assoc]

variable (cursor : Cursor)

theorem read_cases :
    (cursor.next? = none ∧ cursor.current = ⟨.finish, [], cursor.finish⟩ ∧
        cursor.advance = ⟨[], cursor.base, cursor.offset + Text.byteSize cursor.rest⟩) ∨
      (cursor.next? = some (cursor.current, cursor.advance) ∧
        cursor.Finds cursor.current cursor.advance) := by
  unfold current advance read
  cases found : cursor.next? with
  | none => exact .inl ⟨rfl, rfl, rfl⟩
  | some answer => exact .inr ⟨rfl, nextFrom_finds found⟩

theorem next?_eq_none_iff : cursor.next? = none ↔ cursor.current.kind = .finish := by
  rcases cursor.read_cases with ⟨none, current, -⟩ | ⟨found, finds⟩
  · simp [none, current]
  · simp [found, finds.more]

variable {cursor}

theorem next?_of_more (more : cursor.current.kind ≠ .finish) :
    cursor.next? = some (cursor.current, cursor.advance) := by
  rcases cursor.read_cases with ⟨-, current, -⟩ | ⟨found, -⟩
  · rw [current] at more
    exact absurd rfl more
  · exact found

theorem finds_of_more (more : cursor.current.kind ≠ .finish) :
    cursor.Finds cursor.current cursor.advance :=
  nextFrom_finds (next?_of_more more)

theorem ended_of_finish (finish : cursor.current.kind = .finish) :
    cursor.current.text = [] ∧ cursor.advance.rest = [] := by
  rcases cursor.read_cases with ⟨-, current, advance⟩ | ⟨-, finds⟩
  · rw [current, advance]
    exact ⟨rfl, rfl⟩
  · exact absurd finish finds.more

theorem advance_of_finish (finish : cursor.current.kind = .finish) : cursor.advance.current.kind = .finish := by
  have none := (ended_of_finish finish).2
  rcases cursor.advance.read_cases with ⟨-, current, -⟩ | ⟨-, finds⟩
  · rw [current]
  · obtain ⟨before, split, -⟩ := finds.split
    rw [none] at split
    simp [finds.filled] at split

theorem advance_precedes : cursor.Precedes cursor.advance := by
  rcases cursor.read_cases with ⟨-, -, advance⟩ | ⟨-, finds⟩
  · rw [advance]
    exact cursor.precedes_finish
  · exact finds.precedes

@[simp]
theorem advance_base (cursor : Cursor) : cursor.advance.base = cursor.base := by
  rcases cursor.read_cases with ⟨-, -, advance⟩ | ⟨-, finds⟩
  · rw [advance]
  · exact finds.base

theorem advance_length (more : cursor.current.kind ≠ .finish) :
    cursor.advance.rest.length < cursor.rest.length := by
  have finds := finds_of_more more
  obtain ⟨before, split, -⟩ := finds.split
  have positive := List.length_pos_iff.mpr finds.filled
  rw [split]
  simp only [List.length_append]
  omega

theorem nextFrom_meets {base base' offset offset' : Nat} (place : base' + offset' = base + offset)
    (skip : Nat) (text : List Char) :
    (nextFrom base offset skip text = none ∧ nextFrom base' offset' skip text = none) ∨
      ∃ token after after', nextFrom base offset skip text = some (token, after) ∧
        nextFrom base' offset' skip text = some (token, after') ∧ after.Meets after' := by
  induction text generalizing offset offset' skip with
  | nil => cases skip <;> exact .inl ⟨rfl, rfl⟩
  | cons c rest ih =>
    have later (skip : Nat) :=
      ih (show base' + (offset' + c.utf8Size) = base + (offset + c.utf8Size) by omega) skip
    cases skip with
    | succ skip => exact later skip
    | zero =>
      simp only [nextFrom]
      split
      · exact later _
      · refine .inr ⟨_, _, ⟨_, base', offset' + _⟩, rfl, by rw [place], rfl, ?_⟩
        simp only [Cursor.place]
        omega

variable {other : Cursor}

theorem Meets.read (meets : cursor.Meets other) :
    other.current = cursor.current ∧ cursor.advance.Meets other.advance := by
  obtain ⟨rest, base, offset⟩ := cursor
  obtain ⟨_, base', offset'⟩ := other
  have same := meets.finish
  obtain ⟨rfl, place⟩ := meets
  unfold current advance read next?
  rcases nextFrom_meets place 0 _ with ⟨none, none'⟩ | ⟨token, after, after', found, found', onward⟩
  · rw [none, none', same]
    refine ⟨rfl, rfl, ?_⟩
    change base' + (offset' + _) = base + (offset + _)
    change base' + offset' = base + offset at place
    dsimp only
    omega
  · rw [found, found']
    exact ⟨rfl, onward⟩

theorem Meets.current (meets : cursor.Meets other) : other.current = cursor.current := meets.read.1

theorem Meets.advance (meets : cursor.Meets other) : cursor.advance.Meets other.advance := meets.read.2

end Cursor

end MeshLang
