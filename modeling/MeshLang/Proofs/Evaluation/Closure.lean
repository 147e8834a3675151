import MeshLang.Proofs.Evaluation.Outcome
import MeshLang.Proofs.Token.Lexed
import MeshLang.Session

namespace MeshLang

/-- A failure that says nothing of the elements or the tag of a value, and contains no other one. -/
def EvalError.IsPlain {α : Type} : EvalError α → Prop
  | .field _ => False
  | .plugin _ (.argument _ _) => False
  | _ => True

def Told {α : Type} (P : Value α → Prop) (E : EvalError α → Prop) (expected : Option ValueType) :
    Except (EvalError α) (Value α × Nat) → Prop :=
  Meets (fun answer => P answer.1 ∧ ∀ type, expected = some type → answer.1.type? = some type) E

def Script.Meets {α β : Type} (P : Value α → Prop) (E : EvalError α → Prop) (Q : β → Prop) :
    Script α β → Prop
  | .done answer => Q answer
  | .argument _ expected next => ∀ told, Told P E expected told → (next told).Meets P E Q

theorem Script.Meets.andThen {α β γ : Type} {P : Value α → Prop} {E : EvalError α → Prop}
    {Q : β → Prop} {R : γ → Prop} {script : Script α β} {next : β → Script α γ}
    (meets : script.Meets P E Q) (rest : ∀ answer, Q answer → (next answer).Meets P E R) :
    (script.andThen next).Meets P E R := by
  induction script with
  | done answer => exact rest answer meets
  | argument start expected further ih =>
    intro told promised
    exact ih told (meets told promised)

/-- A plugin answers with a value of the property, or fails in an admitted way. -/
def Plugin.Keeps {α : Type} (plugin : Plugin α) (P : Value α → Prop) (E : EvalError α → Prop) : Prop :=
  ∀ text, (plugin.call text).Meets P E
    (MeshLang.Meets (fun answer => P answer.1) fun error => ∀ name, E (.plugin name error))

variable {α : Type}

def Recursion.Keeps (recurse : Recursion α) (P : Value α → Prop) (E : EvalError α → Prop) : Prop :=
  ∀ left bound, (∀ v, left = some v → P v) → Run.Meets P E (recurse left bound)

namespace Recursion.Keeps

variable {P : Value α → Prop} {E : EvalError α → Prop} {recurse : Recursion α}

theorem fresh (keeps : recurse.Keeps P E) (bound : Nat) : Run.Meets P E (recurse none bound) :=
  keeps none bound (by simp)

theorem further (keeps : recurse.Keeps P E) {v : Value α} (holds : P v) (bound : Nat) :
    Run.Meets P E (recurse (some v) bound) := by
  refine keeps (some v) bound fun w same => ?_
  cases same
  exact holds

end Recursion.Keeps

section Failures

variable {token opening : Token} {fault : Fault} {message : String} {expected : List String}

@[simp]
theorem Token.invalid_isPlain : (token.invalid : EvalError α).IsPlain := trivial

@[simp]
theorem Token.unexpected_isPlain : (token.unexpected fault expected : EvalError α).IsPlain := trivial

@[simp]
theorem Token.mismatch_isPlain :
    (token.mismatch fault message expected : EvalError α).IsPlain := trivial

@[simp]
theorem Token.wanted_isPlain : (token.wanted expected : EvalError α).IsPlain := by
  unfold Token.wanted
  split <;> trivial

@[simp]
theorem Token.unclosed_isPlain : (token.unclosed opening : EvalError α).IsPlain := by
  unfold Token.unclosed
  split <;> trivial

@[simp]
theorem EvalError.ofRepository_isPlain (error : RepositoryError) :
    (EvalError.ofRepository error : EvalError α).IsPlain := by
  cases error <;> trivial

theorem checkLocations_isPlain (symbol : String) (v w : Value α) (place : Token) :
    Meets (fun _ => True) EvalError.IsPlain (checkLocations symbol v w place) := by
  unfold checkLocations
  split
  · split <;> trivial
  · trivial

end Failures

/-- The property `P` of values is handed on by all that an environment offers to expressions, with
failures in `E` only. -/
structure Environment.Closed [Scalar α] (env : Environment α) (P : Value α → Prop) (E : EvalError α → Prop) :
    Prop where
  plain : ∀ error, error.IsPlain → E error
  numbers : ∀ x, P (.constantScalar x)
  truths : ∀ b, P (.constantLogical b)
  identity : P (.constantTensor .tensor Mat3.identity)
  cells : ∀ values, values.length = env.mesh.cells.length → P (.scalar .volume values)
  expand : ∀ v location, P v → P (v.broadcastTo location (env.mesh.size location))
  adopt : ∀ v, P v → P (env.options.adopt v)
  names : ∀ name, Meets (fun v => P (env.options.adopt v)) E (env.lookup name)
  signs : ∀ (op : UnaryOp) v kind, op.result? v.kind = some kind → P v →
    Meets (fun w => P (w.relabel kind)) (fun error => E (.field error)) (op.apply v)
  operators : ∀ (op : BinaryOp) v w kind, op.result? v.kind w.kind = some kind → P v → P w →
    Meets (fun u => P (u.relabel kind)) (fun error => E (.field error)) (op.apply v w)
  choices : ∀ c v w kind, choiceResult? c.kind v.kind w.kind = some kind → P c → P v → P w →
    Meets (fun u => P (u.relabel kind)) (fun error => E (.field error)) (Value.select c v w)
  components : ∀ v w name, v.component? name = some w → P v → P w
  tensors : ∀ (function : TensorFunction) v, v.kind.isTensorLike → P v →
    Meets P (fun error => E (.field error)) (v.applyTensor function)
  named : ∀ builtin name, Meets P E (env.applyNamed builtin name)
  functions : ∀ (builtin : Builtin) function args, (∀ arg ∈ args, P arg.value) →
    Meets P E (env.apply builtin function args)
  tables : ∀ name table function args, env.repository.tables.get? name = some table →
    (∀ arg ∈ args, P arg.value) → Meets P E (env.applyTable table function args)
  meshes : ∀ region (function field : Token) old, function.IsWord → field.IsWord →
    Builtin.ofName? function.word = none → env.repository.tables.get? function.word = none →
    env.repository.foreign.get? function.word = some region →
    Meets P E (env.applyForeign region function field old)
  plugins : ∀ name plugin, env.registry.get? name = some plugin → plugin.Keeps P E

variable {E : EvalError α → Prop}

theorem Meets.guarded {β γ : Type} {C : β → Prop} {Q : γ → Prop} {check : Except (EvalError α) β}
    {next : β → Except (EvalError α) γ} (plain : ∀ error, error.IsPlain → E error)
    (condition : Meets C EvalError.IsPlain check)
    (rest : ∀ answer, C answer → Meets Q E (next answer)) : Meets Q E (check >>= next) := by
  cases check with
  | ok answer => exact rest answer condition
  | error error => exact plain error condition

namespace Argument

variable (arg : Argument α) (function : Token)

theorem require_meets (accepted : Bool) (expected : List String) :
    Meets (fun _ => accepted = true) EvalError.IsPlain (arg.require function accepted expected) := by
  unfold require
  split
  · rename_i holds
    exact .ok holds
  · exact .error trivial

theorem requireKind_meets (kinds : List Kind) :
    Meets (fun _ => arg.value.kind ∈ kinds) EvalError.IsPlain (arg.requireKind function kinds) :=
  (arg.require_meets function _ _).weaken fun _ accepted => List.contains_iff_mem.mp accepted

end Argument

theorem Value.isAt_iff {v : Value α} {location : Location} {kinds : List Kind} :
    v.isAt location kinds = true ↔ v.location = some location ∧ v.kind ∈ kinds := by
  simp [Value.isAt]

def Value.Suits (location : Location) (v : Value α) : Prop :=
  v.location = none ∨ v.location = some location

theorem checkLocations_suits {symbol : String} {first v : Value α} {place : Token}
    {location : Location} (located : first.location = some location) :
    Meets (fun _ => v.Suits location) EvalError.IsPlain (checkLocations symbol first v place) := by
  unfold checkLocations
  rw [located]
  cases found : v.location with
  | none => exact .ok (.inl found)
  | some other =>
    dsimp only
    split
    · rename_i same
      subst same
      exact .ok (.inr found)
    · exact .error trivial

theorem checkComponents_suits (function : Token) (args : List (Argument α))
    {first? : Option (Value α)} (located : ∀ first, first? = some first → first.location.isSome) :
    Meets (fun _ => ∃ location, (∀ first, first? = some first → first.location = some location) ∧
      ∀ arg ∈ args, arg.value.Suits location) EvalError.IsPlain
      (checkComponents function first? args) := by
  -- `first?` is the first located argument so far; until there is one, all have been constants.
  induction args generalizing first? with
  | nil =>
    cases first? with
    | none => exact .ok ⟨.volume, fun _ absent => (Option.some_ne_none _ absent.symm).elim, by simp⟩
    | some first =>
      obtain ⟨location, found⟩ := Option.isSome_iff_exists.mp (located first rfl)
      exact .ok ⟨location, fun other same => Option.some.inj same ▸ found, by simp⟩
  | cons arg rest ih =>
    refine .guarded (fun _ plain => plain) (arg.requireKind_meets function _) fun _ _ => ?_
    cases first? with
    | some first =>
      obtain ⟨location, found⟩ := Option.isSome_iff_exists.mp (located first rfl)
      refine .guarded (fun _ plain => plain) (checkLocations_suits found) fun _ suits => ?_
      refine (ih located).weaken fun _ ⟨common, here, others⟩ => ⟨common, here, ?_⟩
      have same : location = common := Option.some.inj (found.symm.trans (here first rfl))
      subst same
      exact List.forall_mem_cons.mpr ⟨suits, others⟩
    | none =>
      cases place : arg.value.location with
      | none =>
        have constant : arg.value.isConstant = true := by simp [Value.isConstant, place]
        simp only [constant, if_true]
        refine (@ih none (by simp)).weaken fun _ ⟨common, _, others⟩ => ⟨common, ?_, ?_⟩
        · intro first absent
          cases absent
        · exact List.forall_mem_cons.mpr ⟨.inl place, others⟩
      | some location =>
        have elsewhere : arg.value.isConstant = false := by simp [Value.isConstant, place]
        simp only [elsewhere, Bool.false_eq_true, if_false]
        have known : ∀ first, some arg.value = some first → first.location.isSome := by
          intro first same
          cases same
          simp [place]
        refine (ih known).weaken fun _ ⟨common, here, others⟩ => ⟨common, ?_, ?_⟩
        · intro first absent
          cases absent
        · exact List.forall_mem_cons.mpr ⟨.inr (here _ rfl), others⟩

end MeshLang
