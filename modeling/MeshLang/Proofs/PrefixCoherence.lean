import MeshLang.Proofs.Local.Cut
import MeshLang.Proofs.Local.Steps
import MeshLang.Proofs.Parallel.Sessions
import MeshLang.Proofs.Token.Significant

namespace MeshLang

variable {α : Type} [Scalar α]

theorem Environment.SharesCalls.library {env : Environment α}
    (library : ∀ name plugin, env.registry.get? name = some plugin → plugin.IsLibrary)
    (known : Token → Prop) : env.SharesCalls env known where
  toShares := Environment.SharesNames.refl env known
  plugins name plugin found text := by
    obtain ⟨make, call⟩ := (library name plugin found).bounded
    exact .inr ⟨make, plugin, found, congrFun call text, call⟩

namespace Session

/-- A call of a session ends with a value and has read the text up to a byte. -/
def Gives (ended : Session α × Except (EvalError α) (Value α)) (v : Value α) (stop : Nat) : Prop :=
  ended.2 = .ok v ∧ ended.1.stop = stop

variable {session : Session α} {text : List Char} {expected : Option ValueType} {v : Value α} {stop : Nat}

theorem accept_gives {whole : Bool} :
    Gives (session.accept text expected whole) v stop ↔
      ∃ u after, reading session.environment whole (session.cleared.stateAt (.ofText text)) = .ok u after ∧
        session.shape expected u after.cursor.offset = .ok v ∧ after.cursor.offset = stop := by
  rw [accept_eq]
  unfold Gives conclude
  cases reading session.environment whole (session.cleared.stateAt (.ofText text)) with
  | error error after => simp
  | ok u after =>
    have same : (session.cleared.resume after).shape expected u after.cursor.offset =
        session.shape expected u after.cursor.offset := rfl
    simp only [same, EStateM.Result.ok.injEq]
    constructor
    · intro ended
      cases shaped : session.shape expected u after.cursor.offset with
      | error error => simp [shaped] at ended
      | ok w =>
        simp only [shaped, Except.ok.injEq] at ended
        obtain ⟨rfl, rfl⟩ := ended
        exact ⟨u, after, ⟨rfl, rfl⟩, shaped, rfl⟩
    · rintro ⟨_, _, ⟨rfl, rfl⟩, shaped, rfl⟩
      simp [shaped]

omit [Scalar α] in
theorem finish_ok {u : Value α} {middle after : State} :
    Run.finish u middle = .ok () after ↔ middle.cursor.current.kind = .finish ∧ middle = after := by
  have threw (error : EvalError α) : (throw error : Run α Unit) middle ≠ .ok () after := nofun
  unfold Run.finish
  rw [Run.current_bind]
  cases middle.cursor.current.kind with
  | finish =>
    constructor
    · intro done
      cases done
      exact ⟨rfl, rfl⟩
    · rintro ⟨-, rfl⟩
      rfl
  | _ => simp [threw]

theorem reading_whole {env : Environment α} {state after : State} :
    reading env true state = .ok v after ↔
      reading env false state = .ok v after ∧ after.cursor.current.kind = .finish := by
  unfold reading
  simp only [if_true, Bool.false_eq_true, if_false, bind_pure]
  constructor
  · intro done
    obtain ⟨u, middle, ran, done⟩ := Run.bind_eq_ok.mp done
    obtain ⟨_, last, ended, done⟩ := Run.bind_eq_ok.mp done
    obtain ⟨finish, rfl⟩ := finish_ok.mp ended
    cases done
    exact ⟨ran, finish⟩
  · rintro ⟨ran, finish⟩
    exact Run.bind_eq_ok.mpr ⟨v, after, ran, Run.bind_eq_ok.mpr ⟨(), after, finish_ok.mpr ⟨finish, rfl⟩, rfl⟩⟩

theorem reading_start {env : Environment α} {state after : State} :
    reading env false state = .ok v after ↔ Run.expression env state = .ok v after := by
  unfold reading
  simp only [Bool.false_eq_true, if_false, bind_pure]

section Library

variable (library : ∀ name plugin, session.registry.get? name = some plugin → plugin.IsLibrary)

include library

end Library

end Session

end MeshLang
