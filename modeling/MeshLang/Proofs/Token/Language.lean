import MeshLang.Proofs.Token.Lexeme

namespace MeshLang

namespace Pattern

variable {p q : Pattern} {c : Char} {s text : List Char}

@[simp] theorem matches_never_iff : ¬ Matches .never s := nofun

@[simp] theorem matches_nothing_iff : Matches .nothing s ↔ s = [] :=
  ⟨fun | .nothing => rfl, fun empty => empty ▸ .nothing⟩

@[simp] theorem matches_one_iff {accepts : Char → Bool} :
    Matches (.one accepts) s ↔ ∃ c, s = [c] ∧ accepts c = true :=
  ⟨fun | .one accepted => ⟨_, rfl, accepted⟩, fun ⟨_, single, accepted⟩ => single ▸ .one accepted⟩

theorem matches_seq_iff : Matches (.seq p q) s ↔ ∃ t u, s = t ++ u ∧ Matches p t ∧ Matches q u :=
  ⟨fun | .seq left right => ⟨_, _, rfl, left, right⟩,
    fun ⟨_, _, split, left, right⟩ => split ▸ .seq left right⟩

@[simp] theorem matches_either_iff : Matches (.either p q) s ↔ Matches p s ∨ Matches q s := by
  constructor
  · intro matched
    cases matched with
    | first left => exact .inl left
    | second right => exact .inr right
  · rintro (left | right)
    · exact .first left
    · exact .second right

theorem matches_literal_iff {word : List Char} : Matches (literal word) s ↔ s = word := by
  induction word generalizing s with
  | nil => exact matches_nothing_iff
  | cons c word ih => simp [literal, oneOf, matches_seq_iff, ih]

theorem matches_many_cons_iff :
    Matches (.many p) (c :: s) ↔ ∃ t u, s = t ++ u ∧ Matches p (c :: t) ∧ Matches (.many p) u := by
  constructor
  · intro matched
    generalize again : Pattern.many p = repeated at matched
    generalize filled : c :: s = whole at matched
    induction matched with
    | nothing | one | seq | first | second => cases again
    | done => cases filled
    | @more own t u head tail _ further =>
      cases again
      cases t with
      | nil => exact further rfl filled
      | cons d t =>
        obtain ⟨rfl, rfl⟩ := List.cons.inj filled
        exact ⟨t, u, rfl, head, tail⟩
  · rintro ⟨t, u, rfl, head, tail⟩
    exact .more head tail

theorem matches_many_one_iff {accepts : Char → Bool} :
    Matches (.many (.one accepts)) s ↔ ∀ c ∈ s, accepts c = true := by
  induction s with
  | nil => exact iff_of_true .done (by simp)
  | cons c s ih =>
    rw [matches_many_cons_iff, List.forall_mem_cons]
    constructor
    · rintro ⟨t, u, rfl, head, tail⟩
      obtain ⟨d, single, accepted⟩ := matches_one_iff.mp head
      obtain ⟨rfl, rfl⟩ := List.cons.inj single
      exact ⟨accepted, ih.mp tail⟩
    · rintro ⟨accepted, others⟩
      exact ⟨[], s, rfl, .one accepted, ih.mpr others⟩

theorem matchesEmpty_iff : p.matchesEmpty = true ↔ Matches p [] := by
  induction p with
  | never => simp [matchesEmpty]
  | nothing => simp [matchesEmpty]
  | one accepts => simp [matchesEmpty]
  | seq p q left right =>
    simp only [matchesEmpty, Bool.and_eq_true, left, right, matches_seq_iff, List.nil_eq_append_iff]
    constructor
    · rintro ⟨head, tail⟩
      exact ⟨[], [], ⟨rfl, rfl⟩, head, tail⟩
    · rintro ⟨_, _, ⟨rfl, rfl⟩, head, tail⟩
      exact ⟨head, tail⟩
  | either p q left right => simp [matchesEmpty, left, right]
  | many p => exact iff_of_true rfl .done

theorem andThen_iff : Matches (p.andThen q) s ↔ Matches (.seq p q) s := by
  cases p with
  | nothing =>
    rw [andThen, matches_seq_iff]
    constructor
    · intro tail
      exact ⟨[], s, rfl, .nothing, tail⟩
    · rintro ⟨_, _, rfl, empty, tail⟩
      rwa [matches_nothing_iff.mp empty]
  | never => simp [andThen, matches_seq_iff]
  | _ => rfl

theorem orElse_iff : Matches (p.orElse q) s ↔ Matches p s ∨ Matches q s := by
  cases p <;> cases q <;> simp [orElse]

/-- A derivative describes what may follow the character. -/
theorem derivative_iff : Matches (p.derivative c) s ↔ Matches p (c :: s) := by
  induction p generalizing s with
  | never | nothing => simp [derivative]
  | one accepts =>
    rw [derivative, matches_one_iff]
    cases accepted : accepts c with
    | true => simp [and_assoc, accepted]
    | false => simp [and_assoc, accepted]
  | seq p q left right =>
    have split : Matches (.seq p q) (c :: s) ↔
        Matches (.seq (p.derivative c) q) s ∨ p.matchesEmpty = true ∧ Matches (q.derivative c) s := by
      simp only [matches_seq_iff, List.cons_eq_append_iff, matchesEmpty_iff, right]
      constructor
      · rintro ⟨t, u, ⟨rfl, rfl⟩ | ⟨t, rfl, rfl⟩, head, tail⟩
        · exact .inr ⟨head, tail⟩
        · exact .inl ⟨t, u, rfl, left.mpr head, tail⟩
      · rintro (⟨t, u, rfl, head, tail⟩ | ⟨head, tail⟩)
        · exact ⟨c :: t, u, .inr ⟨t, rfl, rfl⟩, left.mp head, tail⟩
        · exact ⟨[], c :: s, .inl ⟨rfl, rfl⟩, head, tail⟩
    rw [split, derivative]
    cases p.matchesEmpty <;> simp [orElse_iff, andThen_iff]
  | either p q left right => rw [derivative, orElse_iff, left, right, matches_either_iff]
  | many p head =>
    rw [derivative, andThen_iff, matches_seq_iff, matches_many_cons_iff]
    simp only [head]

theorem never_longest? (text : List Char) : Pattern.never.longest? text = none := by
  cases text <;> rfl

/-- The longest start goes on behind the first character if the derivative finds one there. -/
theorem longest?_cons_eq (c : Char) (rest : List Char) :
    p.longest? (c :: rest) =
      match (p.derivative c).longest? rest with
      | some count => some (count + 1)
      | none => if p.matchesEmpty then some 0 else none := by
  rw [longest?]
  cases p.derivative c with
  | never => rw [never_longest?]; rfl
  | _ => rfl

theorem longest?_matches {count : Nat} (longest : p.longest? text = some count) :
    Matches p (text.take count) := by
  have stopped {count : Nat} {p : Pattern} {text : List Char}
      (longest : (if p.matchesEmpty then some 0 else none) = some count) :
      Matches p (text.take count) := by
    split at longest <;> cases longest
    rw [List.take_zero]
    exact matchesEmpty_iff.mp ‹_›
  induction text generalizing p count with
  | nil => exact stopped longest
  | cons c rest ih =>
    rw [longest?_cons_eq] at longest
    split at longest
    · rename_i further
      cases longest
      exact derivative_iff.mp (ih further)
    · exact stopped longest

theorem longest?_most {start : List Char} (starts : start <+: text) (matched : Matches p start) :
    ∃ count, p.longest? text = some count ∧ start.length ≤ count := by
  induction text generalizing p start with
  | nil =>
    cases List.prefix_nil.mp starts
    exact ⟨0, if_pos (matchesEmpty_iff.mpr matched), Nat.le_refl _⟩
  | cons c rest ih =>
    rw [longest?_cons_eq]
    cases start with
    | nil =>
      cases (p.derivative c).longest? rest with
      | some count => exact ⟨count + 1, rfl, Nat.zero_le _⟩
      | none => exact ⟨0, if_pos (matchesEmpty_iff.mpr matched), Nat.le_refl _⟩
    | cons d start =>
      obtain ⟨rfl, within⟩ := List.cons_prefix_cons.mp starts
      obtain ⟨count, longest, covered⟩ := ih within (derivative_iff.mpr matched)
      rw [longest]
      exact ⟨count + 1, rfl, Nat.succ_le_succ covered⟩

end Pattern

end MeshLang
