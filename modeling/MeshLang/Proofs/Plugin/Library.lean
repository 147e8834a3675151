import MeshLang.Plugin.Library
import MeshLang.Proofs.Evaluation.Closure
import MeshLang.Proofs.Parallel.Scripts

namespace MeshLang

variable {α : Type}

def PluginError.IsPlain : PluginError α → Prop
  | .argument _ _ => False
  | _ => True

namespace Arguments

theorem sign_plain (args : Arguments) (kind : TokenKind) :
    Meets (fun _ => True) PluginError.IsPlain (args.sign kind : Except (PluginError α) _) := by
  unfold sign
  split
  · split <;> trivial
  · trivial

theorem scalar_plain [Scalar α] (args : Arguments) :
    Meets (fun _ => True) PluginError.IsPlain (args.scalar : Except (PluginError α) (α × Arguments)) := by
  unfold scalar
  split
  · trivial
  · split <;> trivial

end Arguments

/-- A way through arguments ends with an answer that satisfies `Q`, or with a failure in `F`. -/
def Reading.Meets {β : Type} (P : Value α → Prop) (E : EvalError α → Prop) (Q : β → Prop)
    (F : PluginError α → Prop) (reading : Reading α β) : Prop :=
  ∀ args, (reading args).Meets P E (MeshLang.Meets (fun answer => Q answer.1) F)

namespace Reading.Meets

variable {β γ : Type} {P : Value α → Prop} {E : EvalError α → Prop} {Q : β → Prop} {R : γ → Prop}
  {F : PluginError α → Prop}

theorem fail {error : PluginError α} (holds : F error) :
    Reading.Meets P E Q F (Reading.fail error : Reading α β) :=
  fun _ => holds

theorem pure {answer : β} (holds : Q answer) :
    Reading.Meets P E Q F (Pure.pure answer : Reading α β) :=
  fun _ => holds

theorem bind {first : Reading α β} {next : β → Reading α γ} (meets : Reading.Meets P E Q F first)
    (rest : ∀ answer, Q answer → Reading.Meets P E R F (next answer)) :
    Reading.Meets P E R F (first >>= next) := by
  intro args
  refine Script.Meets.andThen (meets args) fun outcome delivered => ?_
  cases outcome with
  | ok answer => exact rest answer.1 delivered answer.2
  | error error => exact delivered

theorem step {read : Arguments → Except (PluginError α) (β × Arguments)}
    (plain : ∀ error, error.IsPlain → F error)
    (reads : ∀ args, MeshLang.Meets (fun _ => True) PluginError.IsPlain (read args)) :
    Reading.Meets P E (fun _ => True) F (Reading.step read) := by
  intro args
  have delivered := reads args
  change MeshLang.Meets (fun _ => True) F (read args)
  cases same : read args with
  | ok answer => trivial
  | error error =>
    rw [same] at delivered
    exact plain error delivered

theorem expression (contains : ∀ offset error, E error → F (.argument offset error))
    (expected : Option ValueType) : Reading.Meets P E P F (Reading.expression expected) := by
  intro args told promised
  change MeshLang.Meets (fun answer => P answer.1) F (args.afterExpression told)
  cases told with
  | ok answer => exact promised.1
  | error error => exact contains _ error promised

theorem consumed : Reading.Meets P E (fun _ => True) F (Reading.consumed : Reading α Nat) :=
  fun _ => trivial

theorem run {reading : Reading α β} (meets : Reading.Meets P E Q F reading) (text : List Char) :
    (reading.run text).Meets P E (MeshLang.Meets Q F) := by
  refine Script.Meets.andThen (meets _) fun outcome delivered => ?_
  cases outcome with
  | ok answer => exact delivered
  | error error => exact delivered

end Reading.Meets

namespace Plugin

variable [Scalar α] {P : Value α → Prop} {E : EvalError α → Prop}

abbrev Named (E : EvalError α → Prop) (error : PluginError α) : Prop := ∀ name, E (.plugin name error)

theorem bounded_meets (plain : ∀ error : PluginError α, error.IsPlain → Named E error)
    (contains : ∀ offset error, E error → Named E (.argument offset error)) :
    Reading.Meets P E (fun range => P range.value ∧ range.value.kind = .scalar) (Named E)
      (bounded : Reading α (Bounded α)) := by
  have sign (kind : TokenKind) :
      Reading.Meets P E (fun _ => True) (Named E) (.step fun args => args.sign kind) :=
    .step plain fun args => args.sign_plain kind
  apply Reading.Meets.bind (sign .openParen)
  intro _ _
  apply Reading.Meets.bind (.expression contains none)
  intro value holds
  split
  · exact .fail (plain _ trivial)
  · rename_i scalar
    apply Reading.Meets.bind (sign .comma)
    intro _ _
    apply Reading.Meets.bind (.step plain Arguments.scalar_plain)
    intro low _
    apply Reading.Meets.bind (sign .comma)
    intro _ _
    apply Reading.Meets.bind (.step plain Arguments.scalar_plain)
    intro high _
    apply Reading.Meets.bind (sign .closeParen)
    intro _ _
    split
    · exact .fail (plain _ trivial)
    · exact .pure ⟨holds, Decidable.not_not.mp scalar⟩

theorem ofBounded_meets {make : Bounded α → Value α}
    (plain : ∀ error : PluginError α, error.IsPlain → Named E error)
    (contains : ∀ offset error, E error → Named E (.argument offset error))
    (makes : ∀ range, P range.value → range.value.kind = .scalar → P (make range))
    (text : List Char) :
    ((ofBounded make).run text).Meets P E
      (MeshLang.Meets (fun answer => P answer.1) fun error => ∀ name, E (.plugin name error)) := by
  refine Reading.Meets.run (Q := fun answer : Value α × Nat => P answer.1) ?_ text
  refine .bind (bounded_meets plain contains) fun range both => .bind .consumed fun consumed _ => ?_
  exact .pure (makes range both.1 both.2)

theorem library_keeps (plain : ∀ error : PluginError α, error.IsPlain → Named E error)
    (contains : ∀ offset error, E error → Named E (.argument offset error))
    (clips : ∀ v : Value α, P v → v.kind = .scalar → ∀ f : α → α,
      P ⟨.scalar, v.location, .scalar ((v.scalars?.getD []).map f), v.dimensions⟩)
    (tests : ∀ v : Value α, P v → v.kind = .scalar → ∀ f : α → Bool,
      P ⟨.logical, v.location, .scalar ((v.scalars?.getD []).map fun x => Scalar.truth (f x)), none⟩)
    {name : String} {plugin : Plugin α} (found : library.get? name = some plugin) :
    plugin.Keeps P E := by
  intro text
  unfold library Registry.register Registry.get? at found
  rw [OrderedMap.get?_insert] at found
  split at found
  · cases found
    exact ofBounded_meets plain contains (fun range holds kind => tests range.value holds kind _) text
  · rw [OrderedMap.get?_insert] at found
    split at found
    · cases found
      exact ofBounded_meets plain contains (fun range holds kind => clips range.value holds kind _) text
    · cases found

end Plugin

end MeshLang

namespace MeshLang

variable {α β γ : Type}

/-- What a script reports as the failure of an argument has been told to it, now or before. -/
def Script.Relays : Script α (Except (PluginError α) β) → (EvalError α → Prop) → Prop
  | .done (.error (.argument _ error)), heard => heard error
  | .done _, _ => True
  | .argument _ _ next, heard =>
    (∀ answer, (next (.ok answer)).Relays heard) ∧
      ∀ error, (next (.error error)).Relays fun other => other = error ∨ heard other

/-- Whatever its text, the plugin reports only such failures of arguments as it was told. -/
def Plugin.Relays (plugin : Plugin α) : Prop := ∀ text, (plugin.call text).Relays fun _ => False

variable {heard : EvalError α → Prop}

theorem PluginError.IsPlain.relays {error : PluginError α} (plain : error.IsPlain) :
    Script.Relays (.done (.error error) : Script α (Except (PluginError α) β)) heard := by
  cases error with
  | argument => exact plain.elim
  | _ => trivial

theorem Script.Relays.andThen {script : Script α (Except (PluginError α) β)}
    {next : Except (PluginError α) β → Script α (Except (PluginError α) γ)}
    (relays : script.Relays heard) (rest : ∀ v heard, (next (.ok v)).Relays heard)
    (fails : ∀ error, next (.error error) = .done (.error error)) :
    (script.andThen next).Relays heard := by
  induction script generalizing heard with
  | done outcome =>
    cases outcome with
    | ok v => exact rest v heard
    | error error =>
      rw [Script.andThen, fails]
      cases error with
      | argument => exact relays
      | _ => trivial
  | argument start expected further ih =>
    exact ⟨fun answer => ih _ (relays.1 answer), fun error => ih _ (relays.2 error)⟩

def Reading.Relays (reading : Reading α β) : Prop := ∀ args heard, (reading args).Relays heard

namespace Reading.Relays

theorem pure (answer : β) : Reading.Relays (Pure.pure answer : Reading α β) := fun _ _ => trivial

theorem fail {error : PluginError α} (plain : error.IsPlain) :
    Reading.Relays (Reading.fail error : Reading α β) :=
  fun _ _ => plain.relays

theorem bind {first : Reading α β} {next : β → Reading α γ} (relays : first.Relays)
    (rest : ∀ answer, (next answer).Relays) : Reading.Relays (first >>= next) :=
  fun args heard => (relays args heard).andThen (fun both => rest both.1 both.2) fun _ => rfl

theorem step {read : Arguments → Except (PluginError α) (β × Arguments)}
    (reads : ∀ args, MeshLang.Meets (fun _ => True) PluginError.IsPlain (read args)) :
    Reading.Relays (Reading.step read) := by
  intro args heard
  have delivered := reads args
  change Script.Relays (.done (read args)) heard
  cases outcome : read args with
  | ok answer => trivial
  | error error =>
    rw [outcome] at delivered
    exact PluginError.IsPlain.relays delivered

theorem expression (expected : Option ValueType) :
    Reading.Relays (Reading.expression expected : Reading α (Value α)) :=
  fun _ _ => ⟨fun _ => trivial, fun _ => .inl rfl⟩

theorem consumed : Reading.Relays (Reading.consumed : Reading α Nat) := fun _ _ => trivial

theorem run {reading : Reading α β} (relays : reading.Relays) (text : List Char) :
    (reading.run text).Relays fun _ => False :=
  (relays _ _).andThen (fun _ _ => trivial) fun _ => rfl

end Reading.Relays

namespace Plugin

variable [Scalar α]

theorem bounded_relays : (bounded : Reading α (Bounded α)).Relays := by
  have sign (kind : TokenKind) : Reading.Relays (.step fun args => args.sign kind : Reading α Unit) :=
    .step fun args => args.sign_plain kind
  have scalar : Reading.Relays (.step Arguments.scalar : Reading α α) := .step Arguments.scalar_plain
  refine .bind (sign .openParen) fun _ => .bind (.expression none) fun value => ?_
  split
  · exact .fail trivial
  · refine .bind (sign .comma) fun _ => .bind scalar fun low => .bind (sign .comma) fun _ => ?_
    refine .bind scalar fun high => .bind (sign .closeParen) fun _ => ?_
    split
    · exact .fail trivial
    · exact .pure _

theorem ofBounded_relays (make : Bounded α → Value α) (text : List Char) :
    ((ofBounded make).run text).Relays fun _ => False :=
  Reading.Relays.run (.bind bounded_relays fun _ => .bind .consumed fun _ => .pure _) text

theorem library_relays {name : String} {plugin : Plugin α} (found : library.get? name = some plugin) :
    plugin.Relays := by
  rcases library_isLibrary found with rfl | rfl
  · exact ofBounded_relays _
  · exact ofBounded_relays _

end Plugin

end MeshLang
