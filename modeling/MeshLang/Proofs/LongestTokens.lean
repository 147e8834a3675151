import MeshLang.Proofs.Token.Ties

namespace MeshLang

namespace TokenKind

theorem longestMatch_split {text : List Char} {entries : List (TokenKind × Pattern)}
    {kind : TokenKind} {count : Nat} (found : longestMatch text entries = some (kind, count)) :
    ∃ before pattern after, entries = before ++ (kind, pattern) :: after ∧
      pattern.longest? text = some count ∧
      ∀ entry ∈ before, ∀ less, entry.2.longest? text = some less → less < count := by
  induction entries generalizing kind count with
  | nil => cases found
  | cons entry entries ih =>
    obtain ⟨own, pattern⟩ := entry
    have further {kind : TokenKind} {count : Nat}
        (others : longestMatch text entries = some (kind, count))
        (shorter : ∀ less, pattern.longest? text = some less → less < count) :
        ∃ before pattern' after, (own, pattern) :: entries = before ++ (kind, pattern') :: after ∧
          pattern'.longest? text = some count ∧
          ∀ entry ∈ before, ∀ less, entry.2.longest? text = some less → less < count := by
      obtain ⟨before, pattern', after, rfl, longest, smaller⟩ := ih others
      exact ⟨(own, pattern) :: before, pattern', after, rfl, longest,
        List.forall_mem_cons.mpr ⟨shorter, smaller⟩⟩
    have here {most : Nat} (longest : pattern.longest? text = some most) :
        ∃ before pattern' after, (own, pattern) :: entries = before ++ (own, pattern') :: after ∧
          pattern'.longest? text = some most ∧
          ∀ entry ∈ before, ∀ less, entry.2.longest? text = some less → less < most :=
      ⟨[], pattern, entries, rfl, longest, by simp⟩
    rw [longestMatch] at found
    split at found
    -- An entry gives way to one behind it only if that one has found more.
    · rename_i longest others
      split at found <;> cases found
      · exact here longest
      · rename_i shorter
        refine further others fun less longer => ?_
        cases longest.symm.trans longer
        have positive := (longestMatch_listed others).1
        simp only [Bool.and_eq_true, decide_eq_true_eq] at shorter
        omega
    · rename_i longest others
      split at found <;> cases found
      exact here longest
    · rename_i nothing
      refine further found fun less longest => ?_
      rw [nothing] at longest
      cases longest

/-- The first characters of a text, as many as the longest one of the patterns describes, where a
word for a constant is no name. -/
structure Longest (text : List Char) (kind : TokenKind) (count : Nat) : Prop where
  listed : ∃ pattern, (kind, pattern) ∈ patterns ∧ pattern.Matches (text.take count)
  most : ∀ entry ∈ patterns, ∀ start, start <+: text → entry.2.Matches start → start.length ≤ count
  tied : ∀ entry ∈ patterns, entry.2.Matches (text.take count) →
    entry.1 = kind ∨ entry.1 = .word ∧ kind.isKeyword = true

def Unmatched (text : List Char) : Prop :=
  ∀ entry ∈ patterns, ∀ start, start <+: text → ¬ entry.2.Matches start

theorem Longest.valid {text : List Char} {kind : TokenKind} {count : Nat}
    (longest : Longest text kind count) : kind ≠ .invalid := by
  have excluded : TokenKind.invalid ∉ patterns.map (·.1) := by decide
  obtain ⟨pattern, listed, -⟩ := longest.listed
  rintro rfl
  exact excluded (List.mem_map_of_mem listed)

theorem patterns_bound (text : List Char) :
    ∀ entry ∈ patterns, ∀ start, start <+: text → entry.2.Matches start →
      0 < start.length ∧ start.length ≤ mostOf (longestMatch text patterns) := by
  intro entry known start starts matched
  obtain ⟨count, longest, covered⟩ := Pattern.longest?_most starts matched
  refine ⟨List.length_pos_iff.mpr ?_, Nat.le_trans covered
    (longestMatch_bound text patterns entry known count longest)⟩
  rintro rfl
  have filled := patterns_filled entry known
  rw [Pattern.matchesEmpty_iff.mpr matched] at filled
  cases filled

theorem keywords_first : (patterns.map (·.1)).Pairwise fun kind other =>
    ¬ (kind = .word ∧ other.isKeyword = true) := by
  decide

theorem longest_of_longestMatch {text : List Char} {kind : TokenKind} {count : Nat}
    (found : longestMatch text patterns = some (kind, count)) : Longest text kind count := by
  obtain ⟨before, pattern, after, split, longest, shorter⟩ := longestMatch_split found
  have listed : (kind, pattern) ∈ patterns := by
    rw [split]
    exact List.mem_append_right _ List.mem_cons_self
  have matched := Pattern.longest?_matches longest
  refine ⟨⟨pattern, listed, matched⟩, fun entry known start starts described => ?_,
    fun entry known described => ?_⟩
  · have bound := (patterns_bound text entry known start starts described).2
    rwa [found] at bound
  rcases kind_of_matches listed known matched described with same | word | ⟨word, keyword⟩
  · exact .inl same
  · exact .inr word
  -- A word for a constant would have been found before the name.
  · have order := keywords_first
    rw [split, List.map_append, List.map_cons, List.pairwise_append, List.pairwise_cons] at order
    rw [split, List.mem_append, List.mem_cons] at known
    rcases known with earlier | rfl | later
    · obtain ⟨less, longer, covered⟩ :=
        Pattern.longest?_most (List.take_prefix count text) described
      have fits := Pattern.longest?_length longest
      have smaller := shorter entry earlier less longer
      rw [List.length_take, Nat.min_eq_left fits] at covered
      omega
    · exact .inl rfl
    · exact absurd ⟨word, keyword⟩ (order.2.1.1 _ (List.mem_map_of_mem later))

theorem first_longest {text : List Char} {kind : TokenKind} {count : Nat}
    (lexed : first text = (kind, count)) :
    if kind = .invalid then count = 1 ∧ Unmatched text else Longest text kind count := by
  unfold first at lexed
  cases best : longestMatch text patterns with
  | none =>
    rw [best] at lexed
    cases lexed
    refine ⟨rfl, fun entry known start starts matched => ?_⟩
    have bound := patterns_bound text entry known start starts matched
    rw [best] at bound
    exact absurd (Nat.le_trans bound.1 bound.2) (Nat.lt_irrefl 0)
  | some answer =>
    rw [best] at lexed
    change answer = _ at lexed
    subst lexed
    have longest := longest_of_longestMatch best
    rwa [if_neg longest.valid]

end TokenKind

def spelled (tokens : List Token) : List Char := tokens.flatMap Token.text

@[simp] theorem spelled_cons (token : Token) (tokens : List Token) :
    spelled (token :: tokens) = token.text ++ spelled tokens := rfl

namespace Cursor

def tokens (cursor : Cursor) : List Token := tokensFrom cursor.place 0 cursor.rest

theorem tokensFrom_skip (base offset skip : Nat) (text : List Char) :
    tokensFrom (base + offset) skip text =
      tokens ⟨text.drop skip, base, offset + Text.byteSize (text.take skip)⟩ := by
  induction text generalizing offset skip with
  | nil => cases skip <;> rfl
  | cons c rest ih =>
    cases skip with
    | zero => rfl
    | succ skip =>
      rw [tokensFrom, Nat.add_assoc, ih, List.drop_succ_cons, List.take_succ_cons, Text.byteSize_cons,
        Nat.add_assoc]

theorem tokens_filled {cursor : Cursor} (filled : cursor.rest ≠ []) :
    ∃ token rest, cursor.rest = token.text ++ rest ∧
      TokenKind.first cursor.rest = (token.kind, token.text.length) ∧
      token.offset = cursor.place ∧ cursor.tokens =
        token :: tokens ⟨rest, cursor.base, cursor.offset + Text.byteSize token.text⟩ := by
  obtain ⟨rest, base, offset⟩ := cursor
  cases rest with
  | nil => exact absurd rfl filled
  | cons c rest =>
    cases lexed : TokenKind.first (c :: rest) with
    | mk kind count =>
      obtain ⟨positive, fits, -⟩ := TokenKind.first_bounds filled lexed
      obtain ⟨more, rfl⟩ : ∃ more, count = more + 1 := ⟨count - 1, by omega⟩
      refine ⟨⟨kind, (c :: rest).take (more + 1), base + offset⟩, rest.drop more, ?_, ?_, rfl, ?_⟩
      · rw [List.take_succ_cons, List.cons_append, List.take_append_drop]
      · rw [List.length_take, Nat.min_eq_left fits]
      · rw [tokens, tokensFrom, lexed]
        simp only [Nat.add_sub_cancel, place]
        rw [Nat.add_assoc, tokensFrom_skip, List.take_succ_cons, Text.byteSize_cons, Nat.add_assoc]

theorem tokens_behind {cursor : Cursor} {before after : List Token}
    (split : cursor.tokens = before ++ after) :
    ∃ behind : Cursor, cursor.rest = spelled before ++ behind.rest ∧ behind.base = cursor.base ∧
      behind.offset = cursor.offset + Text.byteSize (spelled before) ∧ behind.tokens = after := by
  induction before generalizing cursor with
  | nil => exact ⟨cursor, rfl, rfl, rfl, split⟩
  | cons token before ih =>
    have filled : cursor.rest ≠ [] := by
      intro empty
      rw [tokens, empty] at split
      cases split
    obtain ⟨next, rest, cut, -, -, found⟩ := tokens_filled filled
    obtain ⟨rfl, further⟩ := List.cons.inj (found.symm.trans split)
    obtain ⟨behind, cut', base, offset, after⟩ := ih further
    change rest = _ at cut'
    refine ⟨behind, ?_, base, ?_, after⟩
    · rw [cut, cut', spelled_cons, List.append_assoc]
    · rw [offset, spelled_cons, Text.byteSize_append, Nat.add_assoc]

theorem spelled_tokens (cursor : Cursor) : spelled cursor.tokens = cursor.rest := by
  obtain ⟨behind, split, -, -, none⟩ := tokens_behind (List.append_nil cursor.tokens).symm
  cases ahead : behind.rest with
  | nil => rw [split, ahead, List.append_nil]
  | cons c rest =>
    obtain ⟨token, rest, -, -, -, found⟩ := tokens_filled (ahead ▸ List.cons_ne_nil c rest)
    rw [none] at found
    cases found

theorem nextFrom_token (base offset skip : Nat) (text : List Char) :
    (nextFrom base offset skip text).map Prod.fst =
      (tokensFrom (base + offset) skip text).find? fun token => !token.kind.isTrivia := by
  induction text generalizing offset skip with
  | nil => cases skip <;> rfl
  | cons c rest ih =>
    cases skip with
    | succ skip => rw [nextFrom, tokensFrom, Nat.add_assoc, ih]
    | zero =>
      rw [nextFrom, tokensFrom, List.find?_cons]
      cases trivia : (TokenKind.first (c :: rest)).1.isTrivia with
      | true => simpa [trivia, Nat.add_assoc] using ih _ _
      | false => simp [trivia]

end Cursor

theorem tokenize_behind {text : List Char} {before after : List Token}
    (split : tokenize text = before ++ after) :
    ∃ behind : Cursor, Cursor.within 0 text (Text.byteSize (spelled before)) = behind ∧
      behind.base = 0 ∧ behind.offset = Text.byteSize (spelled before) ∧ behind.tokens = after := by
  obtain ⟨⟨rest, _, _⟩, cut, rfl, rfl, tokens⟩ := @Cursor.tokens_behind (.ofText text) before after split
  refine ⟨_, ?_, rfl, Nat.zero_add _, tokens⟩
  change text = spelled before ++ rest at cut
  rw [Cursor.within, cut, Text.dropBytes?_byteSize_append, Nat.zero_add]

theorem tokenize_next {text : List Char} {before : List Token} {token : Token} {after : List Token}
    (split : tokenize text = before ++ token :: after) :
    token.offset = Text.byteSize (spelled before) ∧
      TokenKind.first (spelled (token :: after)) = (token.kind, token.text.length) := by
  obtain ⟨behind, -, base, offset, tokens⟩ := tokenize_behind split
  have filled : behind.rest ≠ [] := by
    intro empty
    rw [Cursor.tokens, empty] at tokens
    cases tokens
  obtain ⟨found, rest, -, lexed, here, ahead⟩ := Cursor.tokens_filled filled
  obtain ⟨rfl, -⟩ := List.cons.inj (ahead.symm.trans tokens)
  rw [← tokens, Cursor.spelled_tokens]
  exact ⟨by rw [here, Cursor.place, base, offset, Nat.zero_add], lexed⟩

/-- The tokens of a text, blanks and comments included, are pieces of it one after the other. Each is
the longest start of what is left that a pattern describes, or a single character if there is none.
Behind any of them reading goes on with the tokens that are left, and takes the first of those that
count. -/
structure Tokenized (text : List Char) : Prop where
  lossless : spelled (tokenize text) = text
  placed : ∀ before token after, tokenize text = before ++ token :: after →
    token.offset = Text.byteSize (spelled before)
  longest : ∀ before token after, tokenize text = before ++ token :: after →
    if token.kind = .invalid then
      token.text.length = 1 ∧ TokenKind.Unmatched (spelled (token :: after))
    else TokenKind.Longest (spelled (token :: after)) token.kind token.text.length
  restarts : ∀ before after, tokenize text = before ++ after →
    (Cursor.within 0 text (Text.byteSize (spelled before))).tokens = after
  reads : ∀ before after, tokenize text = before ++ after →
    (Cursor.within 0 text (Text.byteSize (spelled before))).next? =
      (after.find? fun token => !token.kind.isTrivia).map fun token =>
        (token, Cursor.within 0 text token.stop)

theorem tokenize_tokenized (text : List Char) : Tokenized text := by
  refine ⟨Cursor.spelled_tokens (.ofText text), fun _ _ _ split => (tokenize_next split).1,
    fun _ _ _ split => TokenKind.first_longest (tokenize_next split).2, fun before after split => ?_,
    fun before after split => ?_⟩
  · obtain ⟨behind, same, -, -, tokens⟩ := tokenize_behind split
    rw [same, tokens]
  · obtain ⟨behind, same, base, -, tokens⟩ := tokenize_behind split
    have precedes : Cursor.Precedes (.ofText text) behind := same ▸ Cursor.precedes_within (.ofText text) _
    have token := Cursor.nextFrom_token behind.base behind.offset 0 behind.rest
    change behind.next?.map Prod.fst = behind.tokens.find? _ at token
    rw [same, ← tokens, ← token]
    cases found : behind.next? with
    | none => rfl
    | some answer =>
      have finds := Cursor.nextFrom_finds found
      have further := (precedes.trans finds.precedes).within_of_base (finds.base.trans base)
      have start : answer.1.stop = answer.2.offset := by
        rw [← finds.stop, Cursor.place, finds.base, base, Nat.zero_add]
      simp only [Option.map_some, start, further]

end MeshLang
