import MeshLang.Proofs.Lockstep.Functions

namespace MeshLang

variable {α : Type}

/-- The report that a function is computed for no such number of arguments: the end of a case
distinction that no call should get to. -/
def EvalError.IsUnhandled (error : EvalError α) : Prop :=
  ∃ function found, error = wrongCount function 0 0 found

def Handles {β : Type} (result : Except (EvalError α) β) : Prop :=
  ∀ error, result = .error error → ¬ error.IsUnhandled

namespace Handles

variable {β γ : Type}

theorem ok {answer : β} : Handles (.ok answer : Except (EvalError α) β) := nofun

theorem bind {first : Except (EvalError α) β} {next : β → Except (EvalError α) γ}
    (handles : Handles first) (rest : ∀ answer, Handles (next answer)) :
    Handles (first >>= next) := by
  cases first with
  | ok answer => exact rest answer
  | error error =>
    intro other same
    cases same
    exact handles error rfl

theorem map {result : Except (EvalError α) β} {f : β → γ} (handles : Handles result) :
    Handles (result.map f) := by
  cases result with
  | ok answer => exact ok
  | error error =>
    intro other same
    cases same
    exact handles error rfl

theorem mismatch {token : Token} {fault : Fault} {message : String} {expected : List String}
    (other : expected ≠ ["no arguments"]) :
    Handles (.error (token.mismatch fault message expected) : Except (EvalError α) β) := by
  intro error failed
  cases failed
  rintro ⟨function, found, same⟩
  have diagnostics := congrArg EvalError.diagnostic? same
  exact other (congrArg Diagnostic.expected (Option.some.inj diagnostics))

theorem field (result : Except (FieldError α) β) : Handles (ofField result) := by
  rintro error failed ⟨function, found, rfl⟩
  cases result <;> cases failed

theorem mesh (result : Except MeshError β) : Handles (ofMesh result : Except (EvalError α) β) := by
  rintro error failed ⟨function, found, rfl⟩
  cases result <;> cases failed

theorem repository (result : Except RepositoryError β) :
    Handles (result.mapError EvalError.ofRepository : Except (EvalError α) β) := by
  rintro error failed ⟨function, found, rfl⟩
  cases result with
  | ok answer => cases failed
  | error error => cases error <;> cases failed

theorem require (arg : Argument α) (function : Token) (accepted : Bool) {expected : List String}
    (other : expected ≠ ["no arguments"]) : Handles (arg.require function accepted expected) := by
  unfold Argument.require
  split
  · exact ok
  · exact mismatch other

theorem requireKind (arg : Argument α) (function : Token) {kinds : List Kind}
    (other : kinds.map Kind.text ≠ ["no arguments"]) : Handles (arg.requireKind function kinds) :=
  require arg function _ other

theorem locations (symbol : String) (v w : Value α) (place : Token) :
    Handles (checkLocations symbol v w place) := by
  unfold checkLocations
  split
  · rename_i left _ _ _
    split
    · exact ok
    · exact mismatch (by cases left <;> decide)
  · exact ok

theorem components (function : Token) (first? : Option (Value α)) (args : List (Argument α)) :
    Handles (checkComponents function first? args) := by
  induction args generalizing first? with
  | nil => exact ok
  | cons arg rest ih =>
    refine bind (requireKind arg function (by decide)) fun _ => ?_
    cases first? with
    | none => exact ih _
    | some first => exact bind (locations _ _ _ _) fun _ => ih _

end Handles

namespace Environment

theorem history_handles (env : Environment α) (name : String) (level : Nat) :
    Handles (env.history name level) := by
  unfold history
  split
  · exact .ok
  · exact .repository _

variable [Scalar α] (env : Environment α) {builtin : Builtin}

theorem timeDerivative_handles (second : Bool) (name : Token) :
    Handles (env.timeDerivative second name) := by
  refine .bind (env.history_handles _ _) fun current => ?_
  have derivative : Handles (if second then env.secondDerivative name.word current.untagged
      else env.firstDerivative name.word current.untagged) := by
    split
    · refine .bind (env.history_handles _ _) fun old => .bind (env.history_handles _ _) fun older => ?_
      refine .bind (.field _) fun _ => .bind (.field _) fun _ => .bind (.field _) fun _ => ?_
      exact .bind (.field _) fun _ => .ok
    · refine .bind (env.history_handles _ _) fun old => ?_
      exact .bind (.field _) fun _ => .bind (.field _) fun _ => .ok
  dsimp only
  split
  · exact .bind (.mismatch (by decide)) fun _ => derivative
  · exact derivative

theorem applyNamed_handles (shape : builtin.shape = .name) (name : Token) :
    Handles (env.applyNamed builtin name) := by
  cases builtin
  case oldTime => exact .map (env.history_handles _ _)
  case ddt => exact env.timeDerivative_handles false name
  case d2dt2 => exact env.timeDerivative_handles true name
  case selection | onPatch | distanceToPatch => exact .map (.mesh _)
  case scalar function => cases function <;> cases shape
  case random isNormal fixed => cases fixed <;> cases shape
  all_goals cases shape

end Environment

theorem Builtin.random_of_seed {builtin : Builtin} (shape : builtin.shape = .seed) :
    ∃ isNormal, builtin = .random isNormal false := by
  cases builtin
  case random isNormal fixed =>
    cases fixed with
    | false => exact ⟨isNormal, rfl⟩
    | true => cases shape
  case scalar function => cases function <;> cases shape
  all_goals cases shape

theorem Builtin.most_le {builtin : Builtin} {least most : Nat} (other : ∀ kind, builtin ≠ .build kind)
    (shape : builtin.shape = .expressions least most) : most ≤ 2 := by
  cases builtin
  case build kind => exact absurd rfl (other kind)
  case scalar f => cases f <;> cases shape <;> decide
  case random isNormal fixed => cases fixed <;> cases shape; decide
  all_goals cases shape
  all_goals decide

namespace Environment

variable [Scalar α] (env : Environment α) {builtin : Builtin} {function : Token} {most : Nat}
  (other : ∀ kind, builtin ≠ .build kind)

include other

theorem applyNone_handles (shape : builtin.shape = .expressions 0 most) :
    Handles (env.applyNone builtin function) := by
  cases builtin
  case scalar f => cases f <;> first | exact .ok | cases shape
  case random isNormal fixed => exact .ok
  case build kind => exact absurd rfl (other kind)
  all_goals first | exact .ok | cases shape

theorem applyOne_handles {least : Nat} (shape : builtin.shape = .expressions least most)
    (fits : least ≤ 1 ∧ 1 ≤ most) (a : Argument α) : Handles (env.applyOne builtin function a) := by
  cases builtin
  case magnitude | magnitudeSquared => exact .bind (.requireKind a function (by decide)) fun _ => .ok
  case scalar | square | extremum | reduce | tensor =>
    exact .bind (.requireKind a function (by decide)) fun _ => .field _
  case extremumPosition | grad | div | curl | snGrad | laplacian | interpolate | interpolateToPoint |
      interpolateToCell | faceAverage | integrate | surfaceSum | reconstruct | magSqrGradGrad =>
    exact .bind (.require a function _ (by decide)) fun _ => .field _
  case meshPhi | broadcast => exact .bind (.require a function _ (by decide)) fun _ => .ok
  case build kind => exact absurd rfl (other kind)
  case random isNormal fixed => cases fixed <;> cases shape; omega
  all_goals cases shape
  all_goals omega

theorem applyTwo_handles {least : Nat} (shape : builtin.shape = .expressions least most)
    (fits : least ≤ 2 ∧ 2 ≤ most) (a b : Argument α) :
    Handles (env.applyTwo builtin function a b) := by
  cases builtin
  case power =>
    refine .bind (.requireKind a function (by decide)) fun _ => ?_
    refine .bind (.requireKind b function (by decide)) fun _ => ?_
    exact .bind (.locations _ _ _ _) fun _ => .field _
  case extremum largest =>
    refine .bind (.requireKind a function (by decide)) fun _ => ?_
    refine .bind (.requireKind b function (by cases a.value.kind <;> decide)) fun _ => ?_
    exact .bind (.locations _ _ _ _) fun _ => .field _
  case div | flux =>
    refine .bind (.require a function _ (by decide)) fun _ => ?_
    exact .bind (.require b function _ (by decide)) fun _ => .field _
  case laplacian =>
    refine .bind (.require b function _ (by decide)) fun _ => ?_
    split
    · exact .bind (.field _) fun _ => .bind (.field _) fun _ => .ok
    · exact .bind (.require a function _ (by decide)) fun _ => .field _
  case build kind => exact absurd rfl (other kind)
  case scalar f => cases f <;> cases shape <;> omega
  case random isNormal fixed => cases fixed <;> cases shape; omega
  all_goals cases shape
  all_goals omega

end Environment

theorem Environment.apply_handles [Scalar α] (env : Environment α) {builtin : Builtin}
    {function : Token} {least most : Nat} {args : List (Argument α)}
    (shape : builtin.shape = .expressions least most) (enough : least ≤ args.length)
    (fits : args.length ≤ most) : Handles (env.apply builtin function args) := by
  by_cases build : ∃ kind, builtin = .build kind
  · obtain ⟨kind, rfl⟩ := build
    exact .bind (.components function none args) fun _ => .field _
  · have other : ∀ kind, builtin ≠ .build kind := fun kind same => build ⟨kind, same⟩
    rcases args with _ | ⟨a, _ | ⟨b, _ | ⟨c, rest⟩⟩⟩
    · obtain rfl : least = 0 := Nat.le_zero.mp enough
      rw [apply_nil other]
      exact env.applyNone_handles other shape
    · rw [apply_singleton other]
      exact env.applyOne_handles other shape ⟨enough, fits⟩ a
    · rw [apply_pair other]
      exact env.applyTwo_handles other shape ⟨enough, fits⟩ a b
    · have two := Builtin.most_le other shape
      simp only [List.length_cons] at fits
      omega

/-- No call gets to the end of a case distinction: a function that is written with a name or a seed is
one of those that take them, and one that is written with expressions is computed from all of them
and from no others. -/
structure Environment.Dispatches [Scalar α] (env : Environment α) : Prop where
  named : ∀ (builtin : Builtin) (name : Token), builtin.shape = .name →
    Handles (env.applyNamed builtin name)
  seeded : ∀ builtin : Builtin, builtin.shape = .seed → ∃ isNormal, builtin = .random isNormal false
  applied : ∀ (builtin : Builtin) (function : Token) (least most : Nat) (args : List (Argument α)),
    builtin.shape = .expressions least most → least ≤ args.length → args.length ≤ most →
      Handles (env.apply builtin function args)

theorem Environment.dispatches [Scalar α] (env : Environment α) : env.Dispatches where
  named _ name shape := env.applyNamed_handles shape name
  seeded _ := Builtin.random_of_seed
  applied _ _ _ _ _ := env.apply_handles

end MeshLang
