import MeshLang.Proofs.Grammar.Halting

namespace MeshLang

variable {α : Type} [Scalar α] {env : Environment α}

def nextKind : List Lexeme → TokenKind
  | [] => .finish
  | l :: _ => l.kind

omit [Scalar α] in
theorem Cursor.Spells.nextKind {cursor : Cursor} {ls : List Lexeme} (spells : cursor.Spells ls) :
    cursor.current.kind = nextKind ls := by
  cases ls with
  | nil => exact spells.current_nil
  | cons l ls => exact spells.current.1

omit [Scalar α] in
theorem Cursor.Spells.word {cursor : Cursor} {w : Word} {ls : List Lexeme}
    (spells : cursor.Spells (w.lexeme :: ls)) :
    cursor.current.kind = .word ∧ cursor.current.word = w.name := by
  have spelled := spells.current
  exact ⟨spelled.1, congrArg String.ofList spelled.2⟩

structure Follows (before after : State) (rest : List Lexeme) (g : Generator) : Prop where
  spells : after.cursor.Spells rest
  finish : after.cursor.finish = before.cursor.finish
  shorter : after.cursor.rest.length ≤ before.cursor.rest.length
  origins : after.origins = before.origins
  generator : after.generator = g

namespace Follows

variable {before middle after : State} {l : Lexeme} {ls rest : List Lexeme} {g h : Generator}

theorem trans (first : Follows before middle ls g) (second : Follows middle after rest h) :
    Follows before after rest h where
  spells := second.spells
  finish := second.finish.trans first.finish
  shorter := Nat.le_trans second.shorter first.shorter
  origins := second.origins.trans first.origins
  generator := second.generator

theorem refl (spells : before.cursor.Spells rest) : Follows before before rest before.generator :=
  ⟨spells, rfl, Nat.le_refl _, rfl, rfl⟩

theorem read (follows : Follows before middle (l :: rest) g) :
    Follows before { middle with cursor := middle.cursor.advance } rest g where
  spells := follows.spells.advance
  finish := follows.spells.advance_finish.trans follows.finish
  shorter := Nat.le_trans (Nat.le_of_lt follows.spells.advance_length) follows.shorter
  origins := follows.origins
  generator := follows.generator

theorem traced (follows : Follows before middle rest g) (trace : List String) :
    Follows before { middle with trace } rest g :=
  ⟨follows.spells, follows.finish, follows.shorter, follows.origins, follows.generator⟩

theorem drawn (follows : Follows before middle rest g) (generator : Generator) :
    Follows before { middle with generator } rest generator :=
  ⟨follows.spells, follows.finish, follows.shorter, follows.origins, rfl⟩

end Follows

/-- Lexemes that stand for a meaning: an evaluation that starts at them comes to stand behind them
with the value as its left operand. It must not ask for operators stronger than `strength`, and what
follows must end operands that ask for operators of at least the strength `least`. -/
structure Parses (env : Environment α) (ls : List Lexeme)
    (meaning : Generator → Option (Value α × Generator)) (strength least : Nat) : Prop where
  reads {g g' : Generator} {v : Value α} (means : meaning g = some (v, g')) {rest : List Lexeme}
    {bound depth : Nat} {state : State} (weak : bound ≤ strength)
    (halts : (nextKind rest).Halts least v.kind) (spells : state.cursor.Spells (ls ++ rest))
    (generator : state.generator = g) (deep : state.cursor.rest.length ≤ depth) :
    ∃ further after,
      Run.evaluate env (depth + 1) none bound state =
          Run.continueFrom env (Run.evaluate env further) v bound after ∧
        Follows state after rest g' ∧ after.cursor.rest.length ≤ further

namespace Parses

variable {ls : List Lexeme} {meaning : Generator → Option (Value α × Generator)}
  {strength least : Nat}

theorem mono {strength' least' : Nat} (parses : Parses env ls meaning strength least)
    (weaker : strength' ≤ strength) (fewer : least' ≤ least) :
    Parses env ls meaning strength' least' where
  reads means _ _ _ _ weak halts spells generator deep :=
    parses.reads means (Nat.le_trans weak weaker) (halts.operand fewer .inl) spells generator deep

theorem value (parses : Parses env ls meaning strength least) {g g' : Generator} {v : Value α}
    (means : meaning g = some (v, g')) {rest : List Lexeme} {bound depth : Nat} {state : State}
    (weak : bound ≤ strength) (halts : (nextKind rest).Halts least v.kind)
    (stops : (nextKind rest).Stops bound v.kind) (spells : state.cursor.Spells (ls ++ rest))
    (generator : state.generator = g) (deep : state.cursor.rest.length ≤ depth) :
    ∃ after, Run.evaluate env (depth + 1) none bound state = .ok v after ∧
      Follows state after rest g' := by
  obtain ⟨further, after, reaches, follows, -⟩ :=
    parses.reads means weak halts spells generator deep
  refine ⟨after, ?_, follows⟩
  rw [reaches]
  refine TokenKind.Stops.continueFrom ?_
  rw [follows.spells.nextKind]
  exact stops

theorem ofOperand
    (reads : ∀ {g g' : Generator} {v : Value α}, meaning g = some (v, g') →
      ∀ {rest : List Lexeme} {depth : Nat} {state : State}, (nextKind rest).Halts least v.kind →
        state.cursor.Spells (ls ++ rest) → state.generator = g →
        state.cursor.rest.length ≤ depth →
        ∃ after, Run.operand env (Run.evaluate env depth) state = .ok v after ∧
          Follows state after rest g') : Parses env ls meaning strength least := by
  refine ⟨fun {g g' v} means {rest bound depth state} _ halts spells generator deep => ?_⟩
  obtain ⟨after, done, follows⟩ := reads means halts spells generator deep
  exact ⟨depth, after, Run.bind_ok done, follows, Nat.le_trans follows.shorter deep⟩

end Parses

theorem Cursor.Spells.deeper {cursor : Cursor} {l : Lexeme} {ls : List Lexeme} {depth : Nat}
    (spells : cursor.Spells (l :: ls)) (deep : cursor.rest.length ≤ depth) :
    ∃ less, depth = less + 1 ∧ cursor.advance.rest.length ≤ less := by
  have shorter := spells.advance_length
  exact ⟨depth - 1, by omega, by omega⟩

namespace Parses

variable {ls : List Lexeme} {meaning : Generator → Option (Value α × Generator)}
  {strength least : Nat}

theorem grouped (parses : Parses env ls meaning strength least) (strength' least' : Nat) :
    Parses env (.openParen :: ls ++ [.closeParen]) meaning strength' least' := by
  refine ofOperand fun {g g' v} means {rest depth state} _ spells generator deep => ?_
  have spells : state.cursor.Spells (.openParen :: (ls ++ .closeParen :: rest)) := by
    simpa using spells
  obtain ⟨less, rfl, room⟩ := spells.deeper deep
  have closes : ∀ least, (nextKind (.closeParen :: rest)).Halts least v.kind := fun least =>
    .ofClosing (.inl rfl) least v.kind
  have opened := (Follows.refl spells).read
  obtain ⟨inner, done, follows⟩ := parses.value means (Nat.zero_le strength) (closes least)
    (closes 0).self opened.spells generator room
  exact ⟨{ inner with cursor := inner.cursor.advance },
    Run.operand_grouped spells.nextKind done follows.spells.nextKind, (opened.trans follows).read⟩

end Parses

end MeshLang
