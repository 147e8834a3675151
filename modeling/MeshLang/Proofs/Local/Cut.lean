import MeshLang.Proofs.Local.Places
import MeshLang.Proofs.Token.Pieces

namespace MeshLang.Cursor

theorem nextFrom_shorter {base offset skip : Nat} {text : List Char} {token : Token} {after : Cursor}
    (found : nextFrom base offset skip text = some (token, after)) :
    after.rest.length + skip < text.length := by
  induction text generalizing offset skip with
  | nil => cases skip <;> cases found
  | cons c text ih =>
    cases skip with
    | succ skip =>
      have shorter := ih found
      simp only [List.length_cons]
      omega
    | zero =>
      cases lexed : TokenKind.first (c :: text) with
      | mk kind count =>
        obtain ⟨positive, -, -⟩ := TokenKind.first_bounds (List.cons_ne_nil c text) lexed
        simp only [nextFrom, lexed] at found
        split at found
        · have shorter := ih found
          simp only [List.length_cons]
          omega
        · cases found
          simp only [List.length_drop, List.length_cons]
          omega

theorem nextFrom_cut {base offset skip : Nat} {taken rest further : List Char} {token : Token}
    {after : Cursor} (found : nextFrom base offset skip (taken ++ rest) = some (token, after))
    (within : after.rest = further ++ rest) :
    nextFrom base offset skip taken = some (token, { after with rest := further }) := by
  have shorter := nextFrom_shorter found
  rw [within, List.length_append, List.length_append] at shorter
  induction taken generalizing offset skip with
  | nil =>
    simp only [List.length_nil] at shorter
    omega
  | cons c taken ih =>
    simp only [List.length_cons] at shorter
    cases skip with
    | succ skip => exact ih found (by omega)
    | zero =>
      cases lexed : TokenKind.first (c :: (taken ++ rest)) with
      | mk kind count =>
        have covered {count : Nat} (lexed : TokenKind.first (c :: (taken ++ rest)) = (kind, count))
            (le : count ≤ (c :: taken).length) : TokenKind.first (c :: taken) = (kind, count) := by
          have cut := TokenKind.first_take_of_le lexed le
          rwa [← List.cons_append, List.take_left] at cut
        simp only [List.cons_append, nextFrom, lexed] at found
        split at found
        · rename_i trivia
          have behind := nextFrom_shorter found
          rw [within, List.length_append, List.length_append] at behind
          have same := covered lexed (by simp only [List.length_cons]; omega)
          simp only [nextFrom, same, trivia, if_true]
          exact ih found (by omega)
        · rename_i solid
          simp only [Option.some.injEq, Prod.mk.injEq] at found
          obtain ⟨rfl, rfl⟩ := found
          change (c :: taken ++ rest).drop count = _ at within
          have le : count ≤ (c :: taken).length := by
            obtain ⟨-, fits, -⟩ := TokenKind.first_bounds (List.cons_ne_nil c _) lexed
            have lengths := congrArg List.length within
            simp only [List.length_drop, List.length_append, List.length_cons] at lengths fits ⊢
            omega
          rw [List.drop_append_of_le_length le] at within
          have taking : (c :: (taken ++ rest)).take count = (c :: taken).take count :=
            List.take_append_of_le_length le
          simp only [nextFrom, covered lexed le, solid, Bool.false_eq_true, if_false,
            List.append_cancel_right within, taking]

variable {cursor cursor' : Cursor} {i : Nat}

theorem Shares.cons (place : cursor'.place = cursor.place) (current : cursor'.current = cursor.current)
    (rest : cursor.advance.Shares i cursor'.advance) : cursor.Shares (i + 1) cursor' where
  place k below := by
    cases k with
    | zero => exact place
    | succ k => exact rest.place k (by omega)
  token k below := by
    cases k with
    | zero => exact current
    | succ k => exact rest.token k (by omega)
  last := rest.last

theorem HasTokens.cut {taken : List Char} (has : cursor.HasTokens i)
    (split : cursor.rest = taken ++ (cursor.skip i).rest) :
    cursor.Shares i { cursor with rest := taken } ∧
      (Cursor.skip { cursor with rest := taken } i).rest = [] := by
  induction i generalizing cursor taken with
  | zero =>
    obtain rfl : taken = [] := List.self_eq_append_left.mp split
    refine ⟨⟨fun k below => ?_, fun k below => absurd below (Nat.not_lt_zero _), .inr rfl⟩, rfl⟩
    obtain rfl : k = 0 := by omega
    rfl
  | succ i ih =>
    have more : cursor.current.kind ≠ .finish := has 0 (Nat.succ_pos i)
    obtain ⟨further, within, -⟩ := cursor.advance.precedes_skip i
    rw [skip_succ] at split
    have found : cursor.next? = some (cursor.current, cursor.advance) := next?_of_more more
    unfold next? at found
    rw [split] at found
    have cut := nextFrom_cut found within
    have read : Cursor.read { cursor with rest := taken } =
        (cursor.current, { cursor.advance with rest := further }) := by
      unfold read next?
      rw [cut]
      rfl
    have here : Cursor.current { cursor with rest := taken } = cursor.current := by
      rw [current, read]
    have behind : Cursor.advance { cursor with rest := taken } = { cursor.advance with rest := further } := by
      rw [advance, read]
    have cut := ih (fun k below => has (k + 1) (by omega)) within
    rw [← behind] at cut
    exact ⟨.cons rfl here cut.1, cut.2⟩

section AndMore

variable {c : Char} {more line : List Char}

theorem HasTokens.skip_andMore (breaks : c ∈ TokenKind.breaks) (has : cursor.HasTokens i) :
    (cursor.andMore (c :: more)).skip i = (cursor.skip i).andMore (c :: more) := by
  induction i generalizing cursor with
  | zero => rfl
  | succ i ih =>
    have filled : cursor.current.kind ≠ .finish := has 0 (Nat.succ_pos i)
    change (cursor.andMore (c :: more)).read.2.skip i = _
    rw [read_andMore breaks filled]
    exact ih fun k below => has (k + 1) (by omega)

theorem HasTokens.andMore (breaks : c ∈ TokenKind.breaks) (has : cursor.HasTokens i)
    (ends : ((cursor.skip i).andMore (c :: more)).current.kind.endsExpression = true) :
    cursor.Shares i (cursor.andMore (c :: more)) where
  place k within := by
    have first : cursor.HasTokens k := fun j below => has j (by omega)
    rw [first.skip_andMore breaks]
    rfl
  token k below := by
    have first : cursor.HasTokens k := fun j within => has j (by omega)
    rw [first.skip_andMore breaks]
    change ((cursor.skip k).andMore (c :: more)).read.1 = _
    rw [read_andMore breaks (has k below)]
  last := by
    rw [has.skip_andMore breaks]
    exact .inr ends

theorem HasTokens.skip_andLine (has : cursor.HasTokens i) :
    (cursor.andLine line).skip i = (cursor.skip i).andLine line :=
  has.skip_andMore (by decide)

theorem HasTokens.andLine (has : cursor.HasTokens i) (last : (cursor.skip i).current.kind = .finish)
    (ends : ∀ base offset, (Cursor.mk line base offset).current.kind.endsExpression = true) :
    cursor.Shares i (cursor.andLine line) := by
  refine has.andMore (by decide) ?_
  change ((cursor.skip i).andLine line).read.1.kind.endsExpression = true
  rw [read_andLine last]
  exact ends _ _

end AndMore

section Exchange

open TokenKind

variable {taken rest : List Char} {base offset : Nat} {token : Token} {after : Cursor}

theorem nextFrom_at {other : List Char}
    (found : nextFrom base offset 0 (taken ++ rest) = some (token, after)) (starts : StartsSolid rest)
    (here : token.offset = base + (offset + Text.byteSize taken)) :
    nextFrom base offset 0 (taken ++ other) = nextFrom base (offset + Text.byteSize taken) 0 other := by
  induction taken using text_induction generalizing offset with
  | nil => rfl
  | blank d taken blank ih =>
    rw [List.cons_append, nextFrom_blank blank] at found
    rw [Text.byteSize_cons, ← Nat.add_assoc offset] at here ⊢
    rw [List.cons_append, nextFrom_blank blank]
    exact ih found here
  | comment taken ih =>
    rw [List.cons_append, List.cons_append, nextFrom_comment] at found
    by_cases ends : taken.dropWhile (· != '\n') = []
    · -- The comment would run on into `rest`, so that the token would stand behind its first character.
      obtain ⟨c, tail, rfl, unblank, -⟩ := starts
      have line : c ≠ '\n' := by
        rintro rfl
        exact unblank (by decide)
      have within : ∀ d ∈ taken, (d != '\n') = true := List.dropWhile_eq_nil_iff.mp ends
      rw [List.takeWhile_append_of_pos within, List.dropWhile_append_of_pos within] at found
      obtain ⟨⟨before, -, place⟩, -⟩ := nextFrom_finds found
      have filled : 0 < c.utf8Size := Char.utf8Size_pos c
      simp [line, Text.byteSize_cons, Text.byteSize_append, Cursor.place] at here place
      omega
    · obtain ⟨line, further⟩ := dropWhile_line ends rest
      obtain ⟨line', further'⟩ := dropWhile_line ends other
      rw [line, further] at found
      rw [byteSize_comment taken, ← Nat.add_assoc offset] at here ⊢
      rw [List.cons_append, List.cons_append, nextFrom_comment, line', further']
      exact ih found here
  | token taken solid =>
    obtain ⟨c, tail, rfl, unblank, single⟩ := solid
    have filled : 0 < c.utf8Size := Char.utf8Size_pos c
    rw [Text.byteSize_cons] at here
    by_cases comment : ∃ more, c :: tail ++ rest = '/' :: '/' :: more
    · -- Two slashes make a comment only if the second one is the first character of `rest`.
      obtain ⟨more, same⟩ := comment
      obtain rfl : tail = [] := by
        cases tail with
        | nil => rfl
        | cons d tail =>
          simp only [List.cons_append, List.cons.injEq] at same
          exact absurd (by rw [same.1, same.2.1]) (single tail)
      rw [same, nextFrom_comment] at found
      obtain ⟨⟨before, -, place⟩, -⟩ := nextFrom_finds found
      have slash : c = '/' := (List.cons.inj same).1
      subst slash
      simp [Text.byteSize_cons, Cursor.place] at here place
      omega
    · have starts : StartsSolid (c :: tail ++ rest) :=
        ⟨c, tail ++ rest, rfl, unblank, not_exists.mp comment⟩
      rw [nextFrom_solid starts, Option.some.injEq, Prod.mk.injEq] at found
      obtain ⟨rfl, -⟩ := found
      dsimp only at here
      omega

end Exchange

end MeshLang.Cursor
