import MeshLang.Proofs.ForwardProgress
import MeshLang.Proofs.PrefixCoherence
import MeshLang.Proofs.RelocationInvariance

namespace MeshLang

variable {α β γ : Type}

namespace Run

def Starts (run : Run α β) : Prop :=
  ∀ state cursor v after, cursor.read = state.cursor.read → run state = .ok v after →
    run { state with cursor } = .ok v after

namespace Starts

theorem throw (error : EvalError α) : Starts (throw error : Run α β) := by
  intro state cursor v after _ done
  cases done

theorem reading (next : Token → Run α β) : Starts (Run.advance >>= next) := by
  intro state cursor v after same done
  rw [← done]
  change next cursor.read.1 { state with cursor := cursor.read.2 } = _
  rw [same]
  rfl

theorem looking {next : Token → Run α β} (starts : ∀ token, Starts (next token)) :
    Starts (Run.current >>= next) := by
  intro state cursor v after same done
  have here : cursor.current = state.cursor.current := congrArg Prod.fst same
  change next cursor.current _ = _
  rw [here]
  exact starts _ state cursor v after same done

theorem bind {run : Run α β} (starts : Starts run) (next : β → Run α γ) : Starts (run >>= next) := by
  intro state cursor v after same done
  obtain ⟨w, middle, ran, done⟩ := Run.bind_eq_ok.mp done
  exact Run.bind_eq_ok.mpr ⟨w, middle, starts state cursor w middle same ran, done⟩

variable [Scalar α] (env : Environment α)

theorem operand (recurse : Recursion α) : Starts (Run.operand env recurse) := by
  refine looking fun token => ?_
  cases token.kind with
  | minus | bang | openParen => exact reading _
  | integer | decimal | piWord | trueWord | falseWord =>
    dsimp only
    rw [Correspondence.discard_bind]
    exact reading _
  | word =>
    dsimp only
    rw [Run.name_eq]
    exact reading _
  | _ => exact throw _

theorem expression {state after : State} {cursor : Cursor} {v : Value α}
    (same : cursor.read = state.cursor.read) (done : Run.expression env state = .ok v after) :
    Run.expression env { state with cursor } = .ok v after := by
  let depth := cursor.rest.length + state.cursor.rest.length
  have deep {state : State} (enough : state.cursor.rest.length < depth + 1) :
      Run.expression env state = Run.evaluate env (depth + 1) none 0 state :=
    (Motion.evaluate_unbounded env none 0 enough).symm
  rw [deep (by omega)] at done
  rw [deep (by dsimp only; omega)]
  exact (operand env (Run.evaluate env depth)).bind _ state cursor v after same done

end Starts

end Run

namespace Session

variable [Scalar α] {session : Session α} {expression tail text : List Char} {v : Value α}
  {base offset : Nat} {after : State}

/-- By itself the text is an expression of the value, and evaluation ends in the state. -/
structure Values (session : Session α) (expression : List Char) (v : Value α) (after : State) :
    Prop where
  done : Run.expression session.environment (session.stateAt (.ofText expression)) = .ok v after
  finish : after.cursor.current.kind = .finish

structure Levels (state state' : State) : Prop where
  origins : state'.origins = state.origins
  generator : state'.generator = state.generator
  trace : state'.trace = state.trace

/-- An expression ends before the text: this is empty, or it starts with a character that ends tokens
and then with a token that continues no expression. -/
def Stops (last : Cursor) (tail : List Char) : Prop :=
  tail = [] ∨ ∃ c more, tail = c :: more ∧ c ∈ TokenKind.breaks ∧
    (last.andMore tail).current.kind.endsExpression = true

variable (library : ∀ name plugin, session.registry.get? name = some plugin → plugin.IsLibrary)

include library

theorem expression_moved (text : List Char) (base offset : Nat) (origins : List Nat) :
    Motion.Ends ⟨base + offset, id⟩ ⟨base, offset, origins, rfl⟩ id
      (Run.expression session.environment (session.stateAt (.ofText text)))
      (Run.expression session.environment { session.stateAt ⟨text, base, offset⟩ with origins }) := by
  have relocates : session.environment.Relocates ⟨base + offset, id⟩ (.ofText text) :=
    Motion.relocates_library library (base + offset) _
  have reached : session.registry.Reaches (.ofText text) (session.stateAt (.ofText text)).cursor := .refl
  have moved := (Motion.expression_carries relocates reached).moved ⟨base, offset, origins, rfl⟩
  have start : (Cursor.ofText text).move base offset = ⟨text, base, offset⟩ := by
    unfold Cursor.move Cursor.ofText
    rw [Nat.add_zero, Nat.zero_add]
  rw [← start]
  exact moved

theorem Values.within (values : session.Values expression v after) (stops : Stops after.cursor tail)
    (base offset : Nat) : ∃ after', Run.expression session.environment
        (session.stateAt ⟨expression ++ tail, base, offset⟩) = .ok v after' ∧
      after'.cursor = (after.cursor.move base offset).andMore tail ∧
      Levels { after with origins := session.origins } after' := by
  have moved := expression_moved library expression base offset session.origins
  rw [values.done] at moved
  have moved := moved.answered
  rcases stops with rfl | ⟨c, more, rfl, breaks, ends⟩
  · rw [List.append_nil]
    refine ⟨_, moved, ?_, rfl, rfl, rfl⟩
    change _ = Cursor.mk (after.cursor.rest ++ []) _ _
    rw [List.append_nil]
    rfl
  have shares := @Environment.SharesCalls.library _ _ session.environment library fun _ => True
  obtain ⟨count, past, follows⟩ := shares.expression (fun _ => trivial) moved
  have last : (Cursor.mk expression base offset).skip count = after.cursor.move base offset :=
    past.cursor.symm
  have ends' : (((Cursor.mk expression base offset).skip count).andMore
      (c :: more)).current.kind.endsExpression = true := by
    rw [last]
    change ((after.cursor.andMore (c :: more)).move base offset).current.kind.endsExpression = true
    rw [Cursor.current_move]
    exact ends
  obtain ⟨after', done, past', same⟩ := follows (session.stateAt ⟨expression ++ c :: more, base, offset⟩)
    ⟨past.tokens.andMore breaks ends', rfl⟩
  obtain ⟨notes, noted, noted'⟩ := same.noted
  refine ⟨after', done, ?_, past'.origins, same.generator, noted'.trans noted.symm⟩
  rw [past'.cursor, ← last]
  exact past.tokens.skip_andMore breaks

theorem expression_alone
    (done : Run.expression session.environment (session.stateAt ⟨text, base, offset⟩) = .ok v after) :
    ∃ taken alone, text = taken ++ after.cursor.rest ∧ after.cursor.base = base ∧
      after.cursor.offset = offset + Text.byteSize taken ∧
      Run.expression session.environment (session.stateAt (.ofText taken)) = .ok v alone ∧
      alone.cursor = ⟨[], 0, Text.byteSize taken⟩ ∧
      Levels { alone with origins := session.origins } after := by
  have shares := @Environment.SharesCalls.library _ _ session.environment library fun _ => True
  obtain ⟨count, past, follows⟩ := shares.expression (fun _ => trivial) done
  obtain ⟨taken, split, size⟩ := past.precedes
  change text = _ at split
  have last : (Cursor.mk text base offset).skip count = after.cursor := past.cursor.symm
  have own : after.cursor.base = base := past.proceeds.base
  -- The text is cut behind the tokens that were read, and what is left of it is moved to the start.
  obtain ⟨cut, none⟩ := past.tokens.cut
    (show text = taken ++ ((Cursor.mk text base offset).skip count).rest by
      rw [last]
      exact split)
  obtain ⟨after', done', past', same⟩ := follows (session.stateAt ⟨taken, base, offset⟩) ⟨cut, rfl⟩
  have moved := expression_moved library taken base offset session.origins
  have ended : Run.expression session.environment
      { session.stateAt ⟨taken, base, offset⟩ with origins := session.origins } = .ok v after' := done'
  rw [ended] at moved
  have rest : after'.cursor.rest = [] := by
    rw [past'.cursor]
    exact none
  have stop : after'.cursor.place = after.cursor.place := by
    rw [past'.cursor, past.cursor]
    exact cut.place count (Nat.le_refl count)
  have offsets : after.cursor.offset = offset + Text.byteSize taken := by
    change _ = base + offset + Text.byteSize taken at size
    rw [Cursor.place, own] at size
    omega
  cases alone : Run.expression session.environment (session.stateAt (.ofText taken)) with
  | error error last =>
    rw [alone] at moved
    cases moved
  | ok w last =>
    rw [alone] at moved
    cases moved
    obtain ⟨notes, noted, noted'⟩ := same.noted
    have bases : last.cursor.base = 0 :=
      ((Motion.expression_onwards session.environment _).proceeds w last alone).base
    have place : last.cursor.offset = Text.byteSize taken := by
      change base + last.cursor.base + (last.cursor.offset + offset) = _ at stop
      rw [bases, Cursor.place, own, offsets] at stop
      omega
    have ended : last.cursor = ⟨last.cursor.rest, last.cursor.base, last.cursor.offset⟩ := rfl
    refine ⟨taken, last, split, own, offsets, alone, ?_, past.origins, same.generator.symm,
      noted.trans noted'.symm⟩
    rw [ended, show last.cursor.rest = [] from rest, bases, place]

theorem Values.of_within
    (done : Run.expression session.environment (session.stateAt ⟨text, base, offset⟩) = .ok v after) :
    ∃ taken alone, text = taken ++ after.cursor.rest ∧ after.cursor.base = base ∧
      after.cursor.offset = offset + Text.byteSize taken ∧ session.Values taken v alone ∧
      Levels { alone with origins := session.origins } after := by
  obtain ⟨taken, alone, split, own, size, done', ends, levels⟩ := expression_alone library done
  refine ⟨taken, alone, split, own, size, ⟨done', ?_⟩, levels⟩
  rw [ends]
  rfl

theorem Values.evaluated (values : session.Values expression v after) :
    (session.evaluate expression).2 = .ok (v.broadcastTo session.options.defaultLocation
      (session.repository.mesh.size session.options.defaultLocation)) := by
  have moved := expression_moved library expression 0 0 []
  rw [values.done] at moved
  have finish : (after.cursor.move 0 0).current.kind = .finish := by
    rw [Cursor.current_move]
    exact values.finish
  have gives : Gives (session.accept expression none true) _ _ := accept_gives.mpr
    ⟨v, _, reading_whole.mpr ⟨reading_start.mpr moved.answered, finish⟩, rfl, rfl⟩
  exact gives.1

theorem values_of_evaluate (isExpression : (session.evaluate expression).2.isOk = true) :
    ∃ v after, session.Values expression v after := by
  obtain ⟨shaped, evaluated⟩ : ∃ shaped, (session.evaluate expression).2 = .ok shaped := by
    cases evaluated : (session.evaluate expression).2 with
    | ok shaped => exact ⟨shaped, rfl⟩
    | error error => simp [evaluated, Except.isOk, Except.toBool] at isExpression
  obtain ⟨v, last, done, -, -⟩ := accept_gives.mp ⟨evaluated, rfl⟩
  obtain ⟨started, finish⟩ := reading_whole.mp done
  have moved := expression_moved library expression 0 0 []
  have ended : Run.expression session.environment
      { session.stateAt ⟨expression, 0, 0⟩ with origins := [] } = .ok v last := reading_start.mp started
  rw [ended] at moved
  cases alone : Run.expression session.environment (session.stateAt (.ofText expression)) with
  | error error after =>
    rw [alone] at moved
    cases moved
  | ok w after =>
    rw [alone] at moved
    cases moved
    have finish : (after.cursor.move 0 0).current.kind = .finish := finish
    rw [Cursor.current_move] at finish
    exact ⟨w, after, alone, finish⟩

theorem Values.argument (values : session.Values expression v after) :
    ∃ position, session.argument expression 0 none =
      ({ session with generator := after.generator, trace := after.trace, position },
        .ok (v, after.cursor.offset)) := by
  let base := session.origins.headD 0
  have moved := expression_moved library expression base 0 session.origins
  rw [values.done] at moved
  have ended : Run.evaluate session.environment (expression.length + 1) none 0
      (session.stateAt ⟨expression, base, 0⟩) = .ok v _ := moved.answered
  rw [argument_at session (within_zero _ _) none]
  unfold EStateM.bind
  rw [ended]
  exact ⟨(after.cursor.move base 0).current.offset, rfl⟩

end Session

end MeshLang
