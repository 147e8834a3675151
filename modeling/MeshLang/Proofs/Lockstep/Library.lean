import MeshLang.Proofs.Lockstep.Environment
import MeshLang.Proofs.Plugin.Library

namespace MeshLang

variable {α : Type} {R : Value α → Value α → Prop} {T : Tolerance (EvalError α)}
  {U : Tolerance (PluginError α)}

theorem Script.Agrees.andThen {β γ : Type} {Q : β → β → Prop} {S : γ → γ → Prop}
    {script script' : Script α (Except (PluginError α) β)}
    {next next' : Except (PluginError α) β → Script α (Except (PluginError α) γ)}
    (agrees : script.Agrees R T Q U script')
    (rest : ∀ answer other, Q answer other → (next (.ok answer)).Agrees R T S U (next' (.ok other)))
    (fails : ∀ error, next (.error error) = .done (.error error))
    (fails' : ∀ error, next' (.error error) = .done (.error error)) :
    (script.andThen next).Agrees R T S U (script'.andThen next') := by
  have gives {script : Script α (Except (PluginError α) β)}
      {next : Except (PluginError α) β → Script α (Except (PluginError α) γ)}
      (fails : ∀ error, next (.error error) = .done (.error error)) (gone : script.GivesUp U) :
      (script.andThen next).GivesUp U := by
    obtain ⟨error, rfl, excused⟩ := gone
    exact ⟨error, fails error, excused⟩
  induction agrees with
  | done same =>
    cases same with
    | ok related => exact rest _ _ related
    | error shared =>
      simp only [Script.andThen, fails, fails']
      exact .done (.error shared)
  | argument _ gaveUp gaveUp' ih =>
    exact .argument ih (fun error excused => gives fails (gaveUp error excused))
      fun error excused => gives fails' (gaveUp' error excused)
  | left gone => exact .left (gives fails gone)
  | right gone => exact .right (gives fails' gone)

def Reading.Agrees {β : Type} (R : Value α → Value α → Prop) (T : Tolerance (EvalError α))
    (Q : β → β → Prop) (U : Tolerance (PluginError α)) (reading reading' : Reading α β) : Prop :=
  ∀ args, (reading args).Agrees R T (fun answer other => Q answer.1 other.1 ∧ answer.2 = other.2) U
    (reading' args)

namespace Reading.Agrees

variable {β γ : Type} {Q : β → β → Prop} {S : γ → γ → Prop}

theorem fail {error : PluginError α} (shared : U.shared error) :
    Reading.Agrees R T Q U (Reading.fail error) (Reading.fail error) :=
  fun _ => .done (.error shared)

theorem pure {answer other : β} (related : Q answer other) :
    Reading.Agrees R T Q U (Pure.pure answer : Reading α β) (Pure.pure other) :=
  fun _ => .done (.ok ⟨related, rfl⟩)

theorem bind {first first' : Reading α β} {next next' : β → Reading α γ}
    (agrees : Reading.Agrees R T Q U first first')
    (rest : ∀ answer other, Q answer other → Reading.Agrees R T S U (next answer) (next' other)) :
    Reading.Agrees R T S U (first >>= next) (first' >>= next') := by
  intro args
  refine Script.Agrees.andThen (agrees args) ?_ (fun _ => rfl) fun _ => rfl
  intro answer other both
  obtain ⟨answer, place⟩ := answer
  obtain ⟨other, place'⟩ := other
  obtain ⟨related, same⟩ := both
  cases same
  exact rest answer other related place

theorem step {read : Arguments → Except (PluginError α) (β × Arguments)} {next next' : β → Reading α γ}
    (plain : ∀ error, error.IsPlain → U.shared error)
    (reads : ∀ args, MeshLang.Meets (fun _ => True) PluginError.IsPlain (read args))
    (rest : ∀ answer, Reading.Agrees R T S U (next answer) (next' answer)) :
    Reading.Agrees R T S U (Reading.step read >>= next) (Reading.step read >>= next') := by
  have agrees : Reading.Agrees R T Eq U (Reading.step read) (Reading.step read) := by
    intro args
    have delivered := reads args
    unfold Reading.step
    cases same : read args with
    | ok answer => exact .done (.ok ⟨rfl, rfl⟩)
    | error error =>
      rw [same] at delivered
      exact .done (.error (plain error delivered))
  exact bind agrees fun answer other same => same ▸ rest answer

theorem expression (shares : ∀ offset error, T.shared error → U.shared (.argument offset error))
    (excuses : ∀ offset error, T.excused error → U.excused (.argument offset error))
    (expected : Option ValueType) :
    Reading.Agrees R T R U (Reading.expression expected) (Reading.expression expected) := by
  intro args
  have gone (error : EvalError α) (excused : T.excused error) :
      (Script.done (args.afterExpression (.error error)) :
        Script α (Except (PluginError α) (Value α × Arguments))).GivesUp U :=
    ⟨.argument args.offset error, rfl, excuses args.offset error excused⟩
  refine .argument (fun told told' alike => ?_) gone gone
  cases alike with
  | @ok answer other related =>
    obtain ⟨value, stop⟩ := answer
    obtain ⟨value', stop'⟩ := other
    obtain ⟨related, same, -⟩ := related
    cases same
    exact .done (.ok ⟨related, rfl⟩)
  | error shared => exact .done (.error (shares args.offset _ shared))

theorem consumed : Reading.Agrees R T Eq U (Reading.consumed : Reading α Nat) Reading.consumed :=
  fun _ => .done (.ok ⟨rfl, rfl⟩)

theorem run {reading reading' : Reading α β} (agrees : Reading.Agrees R T Q U reading reading')
    (text : List Char) : (reading.run text).Agrees R T Q U (reading'.run text) := by
  refine Script.Agrees.andThen (agrees _) ?_ (fun _ => rfl) fun _ => rfl
  exact fun _ _ both => .done (.ok both.1)

end Reading.Agrees

namespace Plugin

variable [Scalar α]

theorem bounded_agrees (plain : ∀ error, error.IsPlain → U.shared error)
    (shares : ∀ offset error, T.shared error → U.shared (.argument offset error))
    (excuses : ∀ offset error, T.excused error → U.excused (.argument offset error))
    (alike : ∀ v w, R v w → v.kind = w.kind ∧ v.location = w.location) :
    Reading.Agrees R T
      (fun range other => R range.value other.value ∧ range.value.kind = .scalar ∧
        range.low = other.low ∧ range.high = other.high) U
      (bounded : Reading α (Bounded α)) bounded := by
  have sign (kind : TokenKind) (args : Arguments) :
      Meets (fun _ => True) PluginError.IsPlain (args.sign kind : Except (PluginError α) _) :=
    args.sign_plain kind
  refine .step plain (sign .openParen) fun _ => ?_
  refine .bind (.expression shares excuses none) fun value value' related => ?_
  obtain ⟨kind, location⟩ := alike value value' related
  rw [Value.describe_congr kind location, kind]
  split
  · exact .fail (plain _ trivial)
  · rename_i scalar
    refine .step plain (sign .comma) fun _ => ?_
    refine .step plain Arguments.scalar_plain fun low => ?_
    refine .step plain (sign .comma) fun _ => ?_
    refine .step plain Arguments.scalar_plain fun high => ?_
    refine .step plain (sign .closeParen) fun _ => ?_
    split
    · exact .fail (plain _ trivial)
    · exact .pure ⟨related, kind.trans (Decidable.not_not.mp scalar), rfl, rfl⟩

theorem ofBounded_agrees {make : Bounded α → Value α}
    (plain : ∀ error, error.IsPlain → U.shared error)
    (shares : ∀ offset error, T.shared error → U.shared (.argument offset error))
    (excuses : ∀ offset error, T.excused error → U.excused (.argument offset error))
    (alike : ∀ v w, R v w → v.kind = w.kind ∧ v.location = w.location)
    (makes : ∀ v w low high, R v w → v.kind = .scalar → R (make ⟨v, low, high⟩) (make ⟨w, low, high⟩))
    (text : List Char) :
    ((ofBounded make).run text).Agrees R T
      (fun answer other => R answer.1 other.1 ∧ answer.2 = other.2) U ((ofBounded make).run text) := by
  refine Reading.Agrees.run (.bind (bounded_agrees plain shares excuses alike) ?_) text
  intro range other both
  obtain ⟨value, low, high⟩ := range
  obtain ⟨value', low', high'⟩ := other
  obtain ⟨related, scalar, lows, highs⟩ := both
  cases lows
  cases highs
  refine .bind .consumed fun used used' same => .pure ?_
  exact ⟨makes value value' low high related scalar, same⟩

theorem library_agrees (plain : ∀ error : PluginError α, error.IsPlain → T.named.shared error)
    (shares : ∀ offset error, T.shared error → T.named.shared (.argument offset error))
    (excuses : ∀ offset error, T.excused error → T.named.excused (.argument offset error))
    (alike : ∀ v w, R v w → v.kind = w.kind ∧ v.location = w.location)
    (clips : ∀ v w, R v w → v.kind = .scalar → ∀ f : α → α,
      R ⟨.scalar, v.location, .scalar ((v.scalars?.getD []).map f), v.dimensions⟩
        ⟨.scalar, w.location, .scalar ((w.scalars?.getD []).map f), w.dimensions⟩)
    (tests : ∀ v w, R v w → v.kind = .scalar → ∀ f : α → Bool,
      R ⟨.logical, v.location, .scalar ((v.scalars?.getD []).map fun x => Scalar.truth (f x)), none⟩
        ⟨.logical, w.location, .scalar ((w.scalars?.getD []).map fun x => Scalar.truth (f x)), none⟩)
    {name : String} {plugin : Plugin α} (found : library.get? name = some plugin) :
    plugin.Agrees R T := by
  intro text
  unfold library Registry.register Registry.get? at found
  rw [OrderedMap.get?_insert] at found
  split at found
  · cases found
    exact ofBounded_agrees plain shares excuses alike
      (fun v w low high related scalar => tests v w related scalar _) text
  · rw [OrderedMap.get?_insert] at found
    split at found
    · cases found
      exact ofBounded_agrees plain shares excuses alike
        (fun v w low high related scalar => clips v w related scalar _) text
    · cases found

end Plugin

end MeshLang
