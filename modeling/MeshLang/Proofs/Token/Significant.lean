import MeshLang.Proofs.Token.Advance

namespace MeshLang

/-- Kinds and texts of the tokens of a text that are neither blanks nor comments. -/
def significant (text : List Char) : List (TokenKind × List Char) :=
  ((tokenize text).filter fun token => !token.kind.isTrivia).map fun token => (token.kind, token.text)

def significantFrom (offset skip : Nat) (text : List Char) : List (TokenKind × List Char) :=
  ((tokensFrom offset skip text).filter fun token => !token.kind.isTrivia).map fun token =>
    (token.kind, token.text)

theorem significantFrom_cons (offset : Nat) (c : Char) (rest : List Char) :
    significantFrom offset 0 (c :: rest) =
      if (TokenKind.first (c :: rest)).1.isTrivia then
        significantFrom (offset + c.utf8Size) ((TokenKind.first (c :: rest)).2 - 1) rest
      else
        ((TokenKind.first (c :: rest)).1, (c :: rest).take (TokenKind.first (c :: rest)).2) ::
          significantFrom (offset + c.utf8Size) ((TokenKind.first (c :: rest)).2 - 1) rest := by
  simp only [significantFrom, tokensFrom, List.filter_cons]
  split <;> simp_all

theorem significantFrom_eq (offset skip : Nat) (text : List Char) :
    significantFrom offset skip text = significant (text.drop skip) := by
  suffices same : ∀ other, significantFrom offset skip text =
      significantFrom other 0 (text.drop skip) from same 0
  intro other
  induction text generalizing offset skip other with
  | nil => cases skip <;> rfl
  | cons c rest ih =>
    cases skip with
    | succ skip => exact ih (offset + c.utf8Size) skip other
    | zero =>
      rw [List.drop_zero, significantFrom_cons, significantFrom_cons,
        ih (offset + c.utf8Size) _ other, ih (other + c.utf8Size) _ other]

namespace Cursor

theorem nextFrom_significant (base offset skip : Nat) (text : List Char) :
    significant (text.drop skip) =
      match nextFrom base offset skip text with
      | none => []
      | some (token, after) => (token.kind, token.text) :: significant after.rest := by
  induction text generalizing offset skip with
  | nil => cases skip <;> rfl
  | cons c rest ih =>
    cases skip with
    | succ skip => exact ih (offset + c.utf8Size) skip
    | zero =>
      cases lexed : TokenKind.first (c :: rest) with
      | mk kind count =>
        obtain ⟨positive, -, -⟩ := TokenKind.first_bounds (List.cons_ne_nil c rest) lexed
        obtain ⟨further, rfl⟩ : ∃ further, count = further + 1 := ⟨count - 1, by omega⟩
        rw [List.drop_zero]
        change significantFrom 0 0 (c :: rest) = _
        rw [significantFrom_cons, significantFrom_eq, lexed]
        simp only [nextFrom, lexed, Nat.add_sub_cancel]
        split
        · exact ih _ _
        · rfl

theorem significant_rest (cursor : Cursor) :
    significant cursor.rest =
      if cursor.current.kind = .finish then []
      else (cursor.current.kind, cursor.current.text) :: significant cursor.advance.rest := by
  have next := nextFrom_significant cursor.base cursor.offset 0 cursor.rest
  rw [List.drop_zero] at next
  change _ = match cursor.next? with
    | none => []
    | some (token, after) => (token.kind, token.text) :: significant after.rest at next
  rw [next]
  rcases cursor.read_cases with ⟨none, current, -⟩ | ⟨found, finds⟩
  · rw [none, current]
    rfl
  · rw [found, if_neg finds.more]

theorem significant_eq_nil_iff (cursor : Cursor) :
    significant cursor.rest = [] ↔ cursor.current.kind = .finish := by
  rw [significant_rest]
  split <;> simp_all

variable {cursor cursor' : Cursor}

/-- Places with the same tokens ahead: the next ones are alike, and so are those behind them. -/
theorem current_of_significant (same : significant cursor.rest = significant cursor'.rest) :
    cursor'.current.kind = cursor.current.kind ∧ cursor'.current.text = cursor.current.text := by
  rw [significant_rest, significant_rest cursor'] at same
  split at same <;> split at same <;> simp_all
  rename_i finish finish'
  rcases cursor.read_cases with ⟨-, current, -⟩ | ⟨-, finds⟩
  · rcases cursor'.read_cases with ⟨-, current', -⟩ | ⟨-, finds'⟩
    · rw [current, current']
    · exact absurd finish' finds'.more
  · exact absurd finish finds.more

theorem advance_of_significant (same : significant cursor.rest = significant cursor'.rest) :
    significant cursor.advance.rest = significant cursor'.advance.rest := by
  have ends {cursor : Cursor} (finish : cursor.current.kind = .finish) :
      significant cursor.advance.rest = [] := by
    rcases cursor.read_cases with ⟨-, -, advance⟩ | ⟨-, finds⟩
    · rw [advance]
      rfl
    · exact absurd finish finds.more
  have kind := (current_of_significant same).1
  rw [significant_rest, significant_rest cursor'] at same
  split at same
  · rename_i finish
    rw [ends finish, ends (kind.trans finish)]
  · rename_i more
    rw [if_neg (kind ▸ more), List.cons.injEq] at same
    exact same.2

end Cursor

end MeshLang
