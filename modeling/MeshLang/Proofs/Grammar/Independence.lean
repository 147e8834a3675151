import MeshLang.Proofs.Grammar.Tree

namespace MeshLang

variable {α β γ : Type}

section Results

variable {ε : Type}

@[simp]
theorem toOption_bind (result : Except ε β) (next : β → Except ε γ) :
    (result >>= next).toOption = result.toOption.bind fun answer => (next answer).toOption := by
  cases result <;> rfl

@[simp]
theorem toOption_map (f : β → γ) (result : Except ε β) :
    (result.map f).toOption = result.toOption.map f := by
  cases result <;> rfl

@[simp]
theorem toOption_functor (f : β → γ) (result : Except ε β) :
    (f <$> result).toOption = result.toOption.map f := by
  cases result <;> rfl

@[simp]
theorem toOption_mapError {δ : Type} (f : ε → δ) (result : Except ε β) :
    (result.mapError f).toOption = result.toOption := by
  cases result <;> rfl

@[simp]
theorem toOption_ok (answer : β) : (Except.ok answer : Except ε β).toOption = some answer := rfl

@[simp]
theorem toOption_pure (answer : β) : (pure answer : Except ε β).toOption = some answer := rfl

@[simp]
theorem toOption_error (error : ε) : (Except.error error : Except ε β).toOption = none := rfl

@[simp]
theorem toOption_throw (error : ε) : (throw error : Except ε β).toOption = none := rfl

theorem toOption_eq_some {result : Except ε β} {answer : β} :
    result.toOption = some answer ↔ result = .ok answer := by
  cases result <;> simp

end Results

@[simp]
theorem Argument.require_toOption (arg : Argument α) (function : Token) (accepted : Bool)
    (expected : List String) :
    (arg.require function accepted expected).toOption = if accepted then some () else none := by
  unfold require
  split <;> rfl

@[simp]
theorem checkLocations_toOption (symbol : String) (v w : Value α) (place : Token) :
    (checkLocations symbol v w place).toOption = if v.meets w then some () else none := by
  unfold checkLocations Value.meets
  split
  · split <;> simp_all
  · simp_all

namespace Environment

variable [Scalar α] {env : Environment α} {builtin : Builtin} {f g : Token}

omit [Scalar α] in
theorem checkComponents_same {first? : Option (Value α)} {args others : List (Argument α)}
    (same : args.map (·.value) = others.map (·.value)) :
    (checkComponents f first? args).toOption = (checkComponents g first? others).toOption := by
  induction args generalizing others first? with
  | nil =>
    cases others with
    | nil => rfl
    | cons other others => simp at same
  | cons arg args ih =>
    cases others with
    | nil => simp at same
    | cons other others =>
      simp only [List.map_cons, List.cons.injEq] at same
      cases first? <;>
        simp [checkComponents, Argument.requireKind, same.1, ih same.2]

theorem applyNone_same : (env.applyNone builtin f).toOption = (env.applyNone builtin g).toOption := by
  unfold applyNone
  dsimp only
  split <;> rfl

theorem applyAlgebra_same {a b : Argument α} (same : a.value = b.value) :
    (applyAlgebra builtin f a).toOption = (applyAlgebra builtin g b).toOption := by
  unfold applyAlgebra
  split <;> simp [Argument.requireKind, same]

theorem applyOne_same {a b : Argument α} (same : a.value = b.value) :
    (env.applyOne builtin f a).toOption = (env.applyOne builtin g b).toOption := by
  unfold applyOne
  split
  case h_17 => exact applyAlgebra_same same
  all_goals simp [Argument.requireAt, same]

theorem applyLaplacian_same {a b c d : Argument α} (first : a.value = c.value)
    (second : b.value = d.value) :
    (env.applyLaplacian f a b).toOption = (env.applyLaplacian g c d).toOption := by
  unfold applyLaplacian
  simp only [Argument.requireAt, first, second]
  split <;> simp

theorem applyTwo_same {a b c d : Argument α} (first : a.value = c.value) (second : b.value = d.value) :
    (env.applyTwo builtin f a b).toOption = (env.applyTwo builtin g c d).toOption := by
  unfold applyTwo
  split
  case h_5 => exact applyLaplacian_same first second
  all_goals simp [Argument.requireKind, Argument.requireAt, first, second]

theorem apply_eq (other : ∀ kind, builtin ≠ .build kind) (args : List (Argument α)) :
    env.apply builtin f args =
      match args with
      | [] => env.applyNone builtin f
      | [a] => env.applyOne builtin f a
      | [a, b] => env.applyTwo builtin f a b
      | args => .error (wrongCount f 0 0 args.length) := by
  rcases args with _ | ⟨a, _ | ⟨b, _ | ⟨c, rest⟩⟩⟩ <;> cases builtin <;>
    first
      | rfl
      | exact absurd rfl (other _)

theorem apply_same {args others : List (Argument α)}
    (same : args.map (·.value) = others.map (·.value)) :
    (env.apply builtin f args).toOption = (env.apply builtin g others).toOption := by
  by_cases build : ∃ kind, builtin = .build kind
  · obtain ⟨kind, rfl⟩ := build
    have components : (checkComponents f none args).toOption = (checkComponents g none others).toOption :=
      checkComponents_same same
    simp only [apply, toOption_bind, ofField, toOption_mapError, same, components]
  · have other : ∀ kind, builtin ≠ .build kind := fun kind same => build ⟨kind, same⟩
    rw [apply_eq other, apply_eq other]
    rcases args with _ | ⟨a, _ | ⟨b, _ | ⟨c, rest⟩⟩⟩ <;>
      rcases others with _ | ⟨d, _ | ⟨e, _ | ⟨h, more⟩⟩⟩ <;> simp at same
    · exact applyNone_same
    · exact applyOne_same same
    · exact applyTwo_same same.1 same.2
    · rfl

theorem applyTable_same {table : LookupTable α} {args others : List (Argument α)}
    (same : args.map (·.value) = others.map (·.value)) :
    (env.applyTable table f args).toOption = (env.applyTable table g others).toOption := by
  rcases args with _ | ⟨a, _ | ⟨b, rest⟩⟩ <;> rcases others with _ | ⟨c, _ | ⟨d, more⟩⟩ <;>
    simp at same
  · rfl
  · simp [applyTable, Argument.requireKind, same]
  · rfl

theorem timeDerivative_same {second : Bool} (same : f.word = g.word) :
    (env.timeDerivative second f).toOption = (env.timeDerivative second g).toOption := by
  unfold timeDerivative
  simp only [same, toOption_bind]
  congr 1
  funext v
  split <;> simp

theorem applyNamed_same (same : f.word = g.word) :
    (env.applyNamed builtin f).toOption = (env.applyNamed builtin g).toOption := by
  unfold applyNamed
  split
  · simp [same]
  · exact timeDerivative_same same
  · exact timeDerivative_same same
  · simp [same]
  · simp [same]
  · simp [same]
  · rfl

theorem applyForeign_same {region : Region α} {old : Bool} {h k : Token} (same : h.word = k.word) :
    (env.applyForeign region f h old).toOption = (env.applyForeign region g k old).toOption := by
  unfold applyForeign
  simp only [same]
  split
  · rfl
  · split <;> simp

end Environment

end MeshLang
