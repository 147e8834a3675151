import MeshLang.Proofs.Token.Advance

namespace MeshLang

def TokenKind.endsExpression : TokenKind → Bool
  | .finish | .closeParen | .semicolon => true
  | _ => false

theorem TokenKind.not_openParen_of_endsExpression {kind : TokenKind} (ends : kind.endsExpression = true) :
    kind ≠ .openParen := by
  rintro rfl
  cases ends

namespace Cursor

def skip : Cursor → Nat → Cursor
  | cursor, 0 => cursor
  | cursor, count + 1 => cursor.advance.skip count

@[simp] theorem skip_zero (cursor : Cursor) : cursor.skip 0 = cursor := rfl

theorem skip_succ (cursor : Cursor) (count : Nat) :
    cursor.skip (count + 1) = cursor.advance.skip count := rfl

theorem skip_add (cursor : Cursor) (i j : Nat) : cursor.skip (i + j) = (cursor.skip i).skip j := by
  induction i generalizing cursor with
  | zero => simp
  | succ i ih => rw [Nat.succ_add, skip_succ, skip_succ, ih]

theorem advance_skip (cursor : Cursor) (count : Nat) : (cursor.skip count).advance = cursor.skip (count + 1) := by
  rw [skip_add]
  rfl

theorem forall_skip {P : Cursor → Prop} (past : ∀ cursor, cursor.current.kind = .finish → P cursor)
    (cursor : Cursor) (n : Nat) (ends : (cursor.skip n).current.kind = .finish)
    (each : ∀ i < n, P (cursor.skip i)) (i : Nat) : P (cursor.skip i) := by
  by_cases below : i < n
  · exact each i below
  · obtain ⟨further, rfl⟩ : ∃ further, i = n + further := ⟨i - n, by omega⟩
    have finish : (cursor.skip (n + further)).current.kind = .finish := by
      clear below
      induction further with
      | zero => exact ends
      | succ further ih =>
        rw [← Nat.add_assoc, ← advance_skip]
        exact advance_of_finish ih
    exact past _ finish

theorem precedes_skip (cursor : Cursor) (count : Nat) : cursor.Precedes (cursor.skip count) := by
  induction count generalizing cursor with
  | zero => exact .refl
  | succ count ih => exact cursor.advance_precedes.trans (ih cursor.advance)

@[simp]
theorem skip_base (cursor : Cursor) (count : Nat) : (cursor.skip count).base = cursor.base := by
  induction count generalizing cursor with
  | zero => rfl
  | succ count ih => rw [skip_succ, ih, advance_base]

theorem Meets.skip {cursor other : Cursor} (meets : cursor.Meets other) (count : Nat) :
    (cursor.skip count).Meets (other.skip count) := by
  induction count generalizing cursor other with
  | zero => exact meets
  | succ count ih => exact ih meets.advance

def HasTokens (cursor : Cursor) (count : Nat) : Prop :=
  ∀ i < count, (cursor.skip i).current.kind ≠ .finish

def Knows (known : Token → Prop) (cursor : Cursor) : Prop := ∀ i, known (cursor.skip i).current

variable {cursor cursor' : Cursor} {i j : Nat}

theorem Knows.skip {known : Token → Prop} (knows : cursor.Knows known) (count : Nat) :
    (cursor.skip count).Knows known := by
  intro i
  rw [← skip_add]
  exact knows _

theorem Meets.knows {known : Token → Prop} (meets : cursor.Meets cursor') (knows : cursor.Knows known) :
    cursor'.Knows known := by
  intro i
  rw [(meets.skip i).current]
  exact knows i

theorem Meets.hasTokens (meets : cursor.Meets cursor') (has : cursor.HasTokens i) : cursor'.HasTokens i := by
  intro k below
  rw [(meets.skip k).current]
  exact has k below

theorem HasTokens.zero : cursor.HasTokens 0 := fun _ below => absurd below (Nat.not_lt_zero _)

theorem HasTokens.add (first : cursor.HasTokens i) (rest : (cursor.skip i).HasTokens j) :
    cursor.HasTokens (i + j) := by
  intro k below
  by_cases early : k < i
  · exact first k early
  · have later := rest (k - i) (by omega)
    rwa [← skip_add, Nat.add_sub_cancel' (by omega)] at later

theorem HasTokens.one (more : cursor.current.kind ≠ .finish) : cursor.HasTokens 1 := by
  intro k below
  obtain rfl : k = 0 := by omega
  exact more

theorem HasTokens.length_le (has : cursor.HasTokens i) :
    (cursor.skip i).rest.length + i ≤ cursor.rest.length := by
  induction i generalizing cursor with
  | zero => simp
  | succ i ih =>
    have shorter : cursor.advance.rest.length < cursor.rest.length :=
      advance_length (has 0 (Nat.succ_pos i))
    have rest := @ih cursor.advance fun k below => has (k + 1) (by omega)
    rw [skip_succ]
    omega

/-- The same tokens up to a place where the second text goes on with the same token or with one that
ends expressions. -/
structure Shares (count : Nat) (cursor cursor' : Cursor) : Prop where
  place : ∀ i ≤ count, (cursor'.skip i).place = (cursor.skip i).place
  token : ∀ i < count, (cursor'.skip i).current = (cursor.skip i).current
  last : (cursor'.skip count).current = (cursor.skip count).current ∨
    (cursor'.skip count).current.kind.endsExpression = true

namespace Shares

theorem first (shares : cursor.Shares (i + j) cursor') : cursor.Shares i cursor' where
  place k below := shares.place k (by omega)
  token k below := shares.token k (by omega)
  last := by
    by_cases none : j = 0
    · subst none
      exact shares.last
    · exact .inl (shares.token i (by omega))

theorem rest (shares : cursor.Shares (i + j) cursor') :
    (cursor.skip i).Shares j (cursor'.skip i) where
  place k below := by
    rw [← skip_add, ← skip_add]
    exact shares.place _ (by omega)
  token k below := by
    rw [← skip_add, ← skip_add]
    exact shares.token _ (by omega)
  last := by
    rw [← skip_add, ← skip_add]
    exact shares.last

theorem current (shares : cursor.Shares i cursor') (positive : 0 < i) :
    cursor'.current = cursor.current :=
  shares.token 0 positive

theorem glance (shares : cursor.Shares i cursor') :
    cursor'.current = cursor.current ∨ cursor'.current.kind.endsExpression = true := by
  obtain _ | i := i
  · exact shares.last
  · exact .inl (shares.current (Nat.succ_pos i))

theorem hasTokens (shares : cursor.Shares i cursor') (has : cursor.HasTokens i) :
    cursor'.HasTokens i := by
  intro k below
  rw [shares.token k below]
  exact has k below

theorem recount {other other' : Cursor} (shares : cursor.Shares i cursor') (meets : cursor.Meets other)
    (meets' : cursor'.Meets other') : other.Shares i other' := by
  refine ⟨fun k below => ?_, fun k below => ?_, ?_⟩
  · rw [(meets.skip k).place, (meets'.skip k).place]
    exact shares.place k below
  · rw [(meets.skip k).current, (meets'.skip k).current]
    exact shares.token k below
  · rw [(meets.skip i).current, (meets'.skip i).current]
    exact shares.last

end Shares

end Cursor

end MeshLang
