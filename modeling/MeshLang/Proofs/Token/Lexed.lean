import MeshLang.Proofs.Token.Lexeme

namespace MeshLang

namespace Pattern

theorem longest?_length {p : Pattern} {text : List Char} {count : Nat}
    (found : p.longest? text = some count) : count ≤ text.length := by
  induction text generalizing p count with
  | nil =>
    simp only [longest?] at found
    split at found <;> cases found
    exact Nat.le_refl _
  | cons c rest ih =>
    simp only [longest?] at found
    split at found
    · rename_i further longer
      cases found
      split at longer
      · cases longer
      · exact Nat.succ_le_succ (ih longer)
    · split at found <;> cases found
      exact Nat.zero_le _

theorem longest?_take {p : Pattern} {text : List Char} {most : Nat}
    (bound : ∀ count, p.longest? text = some count → count ≤ most) :
    p.longest? (text.take most) = p.longest? text := by
  induction text generalizing p most with
  | nil => simp
  | cons c rest ih =>
    cases most with
    | zero =>
      have none : (if (p.derivative c).isNever then none else (p.derivative c).longest? rest) = none := by
        cases further : if (p.derivative c).isNever then none else (p.derivative c).longest? rest with
        | none => rfl
        | some count =>
          have longer := bound (count + 1) (by simp only [longest?, further])
          omega
      rw [List.take_zero]
      simp only [longest?, none]
    | succ most =>
      rw [List.take_succ_cons]
      simp only [longest?]
      by_cases never : (p.derivative c).isNever = true
      · simp only [never, if_true]
      · simp only [never, if_false, Bool.false_eq_true]
        rw [ih fun count found => ?_]
        have longer := bound (count + 1) (by simp only [longest?, never, if_false, found,
          Bool.false_eq_true])
        omega

end Pattern

namespace TokenKind

def mostOf (best : Option (TokenKind × Nat)) : Nat := (best.map (·.2)).getD 0

theorem longestMatch_bound (text : List Char) (entries : List (TokenKind × Pattern)) :
    ∀ entry ∈ entries, ∀ count, entry.2.longest? text = some count →
      count ≤ mostOf (longestMatch text entries) := by
  induction entries with
  | nil => simp
  | cons entry entries ih =>
    obtain ⟨kind, pattern⟩ := entry
    have step : (∀ count, pattern.longest? text = some count →
        count ≤ mostOf (longestMatch text ((kind, pattern) :: entries))) ∧
        mostOf (longestMatch text entries) ≤ mostOf (longestMatch text ((kind, pattern) :: entries)) := by
      rw [longestMatch]
      cases own : pattern.longest? text with
      | none => exact ⟨by simp, Nat.le_refl _⟩
      | some count =>
        cases others : longestMatch text entries with
        | none =>
          dsimp only
          split <;> simp_all [mostOf]
        | some best =>
          dsimp only
          split <;> simp_all [mostOf]
          omega
    intro other member count found
    rcases List.mem_cons.mp member with rfl | member
    · exact step.1 count found
    · exact Nat.le_trans (ih other member count found) step.2

theorem longestMatch_length {text : List Char} {entries : List (TokenKind × Pattern)}
    {kind : TokenKind} {most : Nat} (found : longestMatch text entries = some (kind, most)) :
    most ≤ text.length := by
  induction entries generalizing kind most with
  | nil => cases found
  | cons entry entries ih =>
    obtain ⟨own, pattern⟩ := entry
    rw [longestMatch] at found
    split at found
    · rename_i matched others
      split at found <;> cases found
      · exact Pattern.longest?_length matched
      · exact ih others
    · rename_i matched others
      split at found <;> cases found
      exact Pattern.longest?_length matched
    · exact ih found

theorem first_take_of_le {text : List Char} {kind : TokenKind} {count most : Nat}
    (found : first text = (kind, count)) (covered : count ≤ most) :
    first (text.take most) = (kind, count) := by
  have bounded : mostOf (longestMatch text patterns) ≤ most := by
    unfold first at found
    cases best : longestMatch text patterns with
    | none => exact Nat.zero_le _
    | some answer =>
      rw [best] at found
      change answer = _ at found
      subst found
      exact covered
  have same : longestMatch (text.take most) patterns = longestMatch text patterns :=
    longestMatch_congr fun entry member => Pattern.longest?_take fun count longest =>
      Nat.le_trans (longestMatch_bound text patterns entry member count longest) bounded
  rw [first, same]
  exact found

theorem first_take {text : List Char} {kind : TokenKind} {count : Nat}
    (found : first text = (kind, count)) (valid : kind ≠ .invalid) :
    first (text.take count) = (kind, (text.take count).length) := by
  have fits : count ≤ text.length := by
    unfold first at found
    cases best : longestMatch text patterns with
    | none =>
      rw [best] at found
      cases found
      exact absurd rfl valid
    | some answer =>
      rw [best] at found
      change answer = _ at found
      subst found
      exact longestMatch_length best
  rw [first_take_of_le found (Nat.le_refl _), List.length_take, Nat.min_eq_left fits]

end TokenKind

namespace Cursor

theorem nextFrom_lexed {base offset skip : Nat} {text : List Char} {token : Token} {after : Cursor}
    (found : nextFrom base offset skip text = some (token, after)) (valid : token.kind ≠ .invalid) :
    TokenKind.first token.text = (token.kind, token.text.length) := by
  induction text generalizing offset skip with
  | nil => cases found
  | cons c rest ih =>
    cases skip with
    | succ skip => exact ih found
    | zero =>
      cases lexed : TokenKind.first (c :: rest) with
      | mk kind count =>
        simp only [nextFrom, lexed] at found
        split at found
        · exact ih found
        · cases found
          exact TokenKind.first_take lexed valid

theorem current_lexed {cursor : Cursor} (valid : cursor.current.kind ≠ .invalid)
    (more : cursor.current.kind ≠ .finish) :
    TokenKind.first cursor.current.text = (cursor.current.kind, cursor.current.text.length) := by
  unfold current read at valid more ⊢
  cases found : cursor.next? with
  | none =>
    rw [found] at more
    exact absurd rfl more
  | some answer =>
    rw [found] at valid
    exact nextFrom_lexed found valid

end Cursor

def Token.IsWord (token : Token) : Prop := TokenKind.first token.text = (.word, token.text.length)

theorem Cursor.current_isWord {cursor : Cursor} (word : cursor.current.kind = .word) :
    cursor.current.IsWord := by
  have lexed := @current_lexed cursor (by rw [word]; decide) (by rw [word]; decide)
  rw [word] at lexed
  exact lexed

end MeshLang
