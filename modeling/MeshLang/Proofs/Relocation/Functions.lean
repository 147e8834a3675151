import MeshLang.Proofs.Lockstep.Functions
import MeshLang.Proofs.Parallel.Functions
import MeshLang.Proofs.Relocation.Shift

namespace MeshLang

variable {α : Type}

section Failures

variable {β γ : Type} {distance : Nat}

theorem shiftFailure_bind (outcome : Except (EvalError α) β) (next : β → Except (EvalError α) γ) :
    shiftFailure distance (outcome >>= next) =
      shiftFailure distance outcome >>= fun answer => shiftFailure distance (next answer) := by
  cases outcome <;> rfl

@[simp]
theorem shiftFailure_ok (answer : β) :
    shiftFailure distance (.ok answer : Except (EvalError α) β) = .ok answer := rfl

@[simp]
theorem shiftFailure_pure (answer : β) :
    shiftFailure distance (pure answer : Except (EvalError α) β) = pure answer := rfl

@[simp]
theorem shiftFailure_error (error : EvalError α) :
    shiftFailure distance (.error error : Except (EvalError α) β) = .error (error.shift distance) := rfl

theorem shiftFailure_map (f : β → γ) (outcome : Except (EvalError α) β) :
    shiftFailure distance (outcome.map f) = (shiftFailure distance outcome).map f := by
  cases outcome <;> rfl

@[simp]
theorem shiftFailure_field (result : Except (FieldError α) β) :
    shiftFailure distance (result.mapError .field) = result.mapError .field := by
  cases result with
  | ok answer => rfl
  | error error =>
    unfold shiftFailure Except.mapError
    simp only [EvalError.shift]

@[simp]
theorem shiftFailure_mesh (result : Except MeshError β) :
    shiftFailure distance (result.mapError .mesh : Except (EvalError α) β) = result.mapError .mesh := by
  cases result with
  | ok answer => rfl
  | error error =>
    unfold shiftFailure Except.mapError
    simp only [EvalError.shift]

@[simp]
theorem shiftFailure_repository (result : Except RepositoryError β) :
    shiftFailure distance (result.mapError .ofRepository : Except (EvalError α) β) =
      result.mapError .ofRepository := by
  cases result with
  | ok answer => rfl
  | error error =>
    unfold shiftFailure Except.mapError
    cases error <;> simp only [EvalError.ofRepository, EvalError.shift]

end Failures

def Argument.shift (distance : Nat) (arg : Argument α) : Argument α :=
  ⟨arg.value, arg.start.shift distance⟩

section Conditions

variable {distance : Nat} {function : Token} {a b : Argument α}

@[simp]
theorem Argument.shift_value : (a.shift distance).value = a.value := rfl

theorem Argument.require_shift (accepted : Bool) (expected : List String) :
    (a.shift distance).require (function.shift distance) accepted expected =
      shiftFailure distance (a.require function accepted expected) := by
  cases accepted with
  | true => rfl
  | false => exact congrArg Except.error (Token.shift_mismatch .invalidArgument _ expected)

theorem Argument.requireKind_shift (kinds : List Kind) :
    (a.shift distance).requireKind (function.shift distance) kinds =
      shiftFailure distance (a.requireKind function kinds) :=
  require_shift _ _

theorem Argument.requireAt_shift (location : Location) (kinds : List Kind) (expected : List String) :
    (a.shift distance).requireAt (function.shift distance) location kinds expected =
      shiftFailure distance (a.requireAt function location kinds expected) :=
  require_shift _ _

theorem wrongCount_shift (least most found : Nat) :
    (wrongCount (function.shift distance) least most found : EvalError α) =
      (wrongCount function least most found).shift distance := by
  unfold wrongCount
  dsimp only
  rw [Token.shift_word, Token.shift_mismatch]

theorem checkLocations_shift (symbol : String) (v w : Value α) (place : Token) :
    checkLocations symbol v w (place.shift distance) =
      shiftFailure distance (checkLocations symbol v w place) := by
  unfold checkLocations
  split
  · split
    · rfl
    · rw [Token.shift_mismatch]
      rfl
  · rfl

theorem checkComponents_shift (first? : Option (Value α)) (args : List (Argument α)) :
    checkComponents (function.shift distance) first? (args.map (Argument.shift distance)) =
      shiftFailure distance (checkComponents function first? args) := by
  induction args generalizing first? with
  | nil => rfl
  | cons arg rest ih =>
    simp only [List.map_cons, checkComponents, shiftFailure_bind, Argument.requireKind_shift]
    cases first? with
    | none =>
      simp only [ih, Argument.shift_value]
      rfl
    | some first =>
      simp only [ih, Argument.shift_value, Token.shift_word, shiftFailure_bind]
      rw [← checkLocations_shift]
      rfl

end Conditions

namespace Environment

variable [Scalar α] (env : Environment α) {distance : Nat} {function : Token} {a b : Argument α}

theorem applyNone_shift (builtin : Builtin) :
    env.applyNone builtin (function.shift distance) =
      shiftFailure distance (env.applyNone builtin function) := by
  unfold applyNone
  dsimp only
  split <;> first | rfl | exact congrArg Except.error (wrongCount_shift 0 0 0)

theorem applyAlgebra_shift (builtin : Builtin) :
    applyAlgebra builtin (function.shift distance) (a.shift distance) =
      shiftFailure distance (applyAlgebra builtin function a) := by
  unfold applyAlgebra ofField
  split <;> simp only [shiftFailure_bind, shiftFailure_field, shiftFailure_pure, shiftFailure_error,
    Argument.requireKind_shift, Argument.shift_value, wrongCount_shift]

theorem applyOne_shift (builtin : Builtin) :
    env.applyOne builtin (function.shift distance) (a.shift distance) =
      shiftFailure distance (env.applyOne builtin function a) := by
  unfold applyOne ofField
  dsimp only
  split
  case h_1 =>
    simp only [shiftFailure_bind, shiftFailure_field, Argument.shift_value, Argument.require_shift]
    rfl
  all_goals
    simp only [shiftFailure_bind, shiftFailure_field, shiftFailure_pure, Argument.shift_value,
      Argument.requireAt_shift, Argument.require_shift, applyAlgebra_shift]

theorem applyLaplacian_shift :
    env.applyLaplacian (function.shift distance) (a.shift distance) (b.shift distance) =
      shiftFailure distance (env.applyLaplacian function a b) := by
  have value : (a.shift distance).value = a.value := rfl
  have value' : (b.shift distance).value = b.value := rfl
  unfold applyLaplacian ofField
  rw [value, value']
  simp only [shiftFailure_bind, Argument.requireAt_shift]
  congr 1
  funext _
  split
  · simp only [shiftFailure_bind, shiftFailure_field, shiftFailure_pure]
  · simp only [shiftFailure_bind, shiftFailure_field, Argument.require_shift]

theorem applyTwo_shift (builtin : Builtin) :
    env.applyTwo builtin (function.shift distance) (a.shift distance) (b.shift distance) =
      shiftFailure distance (env.applyTwo builtin function a b) := by
  unfold applyTwo ofField
  split <;> simp only [shiftFailure_bind, shiftFailure_field, shiftFailure_error, Argument.shift_value,
    Argument.requireAt_shift, Argument.requireKind_shift, checkLocations_shift, applyLaplacian_shift,
    wrongCount_shift, Token.shift_word]

theorem apply_shift (builtin : Builtin) (args : List (Argument α)) :
    env.apply builtin (function.shift distance) (args.map (Argument.shift distance)) =
      shiftFailure distance (env.apply builtin function args) := by
  have values : (args.map (Argument.shift distance)).map (·.value) = args.map (·.value) := by
    rw [List.map_map]
    rfl
  by_cases builds : ∃ kind, builtin = .build kind
  · obtain ⟨kind, rfl⟩ := builds
    simp only [apply, shiftFailure_bind, checkComponents_shift, values, ofField, shiftFailure_field]
  · have other : ∀ kind, builtin ≠ .build kind := fun kind same => builds ⟨kind, same⟩
    obtain _ | ⟨a, _ | ⟨b, _ | ⟨c, rest⟩⟩⟩ := args
    · rw [List.map_nil, apply_nil other, apply_nil other, applyNone_shift]
    · rw [List.map_singleton, apply_singleton other, apply_singleton other, applyOne_shift]
    · rw [List.map_cons, List.map_singleton, apply_pair other, apply_pair other, applyTwo_shift]
    · simp only [List.map_cons, apply_more other, List.length_map, shiftFailure_error, wrongCount_shift]

theorem applyTable_shift (table : LookupTable α) (args : List (Argument α)) :
    env.applyTable table (function.shift distance) (args.map (Argument.shift distance)) =
      shiftFailure distance (env.applyTable table function args) := by
  obtain _ | ⟨a, _ | ⟨b, rest⟩⟩ := args
  · rfl
  · simp only [applyTable, List.map_cons, List.map_nil, shiftFailure_bind, shiftFailure_pure,
      Argument.requireKind_shift, Argument.shift_value]
  · simp only [applyTable, List.map_cons, List.length_cons, List.length_map, shiftFailure_error,
      wrongCount_shift]

theorem applyForeign_shift (region : Region α) (name : Token) (old : Bool) :
    env.applyForeign region (function.shift distance) (name.shift distance) old =
      shiftFailure distance (env.applyForeign region function name old) := by
  have placeless : NoPlace "only volume fields can be mapped between meshes" :=
    noPlace_of_head (by decide)
  unfold applyForeign ofField
  simp only [Token.shift_word]
  cases region.classify name.word with
  | none => simp only [shiftFailure_error, EvalError.shift]
  | some type =>
    dsimp only
    split
    · rw [Token.shift_mismatch_withHint _ _ _ placeless, shiftFailure_error]
    · simp only [shiftFailure_bind, shiftFailure_field, shiftFailure_repository, shiftFailure_pure]

omit [Scalar α] in
theorem history_shift (name : String) (level : Nat) :
    shiftFailure distance (env.history name level) = env.history name level := by
  unfold history
  split
  · rfl
  · exact shiftFailure_repository _

omit [Scalar α] in
theorem lookup_shift (name : String) : shiftFailure distance (env.lookup name) = env.lookup name := by
  unfold lookup
  split
  · rfl
  · exact shiftFailure_repository _

theorem timeDerivative_shift (second : Bool) (name : Token) :
    env.timeDerivative second (name.shift distance) =
      shiftFailure distance (env.timeDerivative second name) := by
  have rates (current : Value α) : shiftFailure distance (env.firstDerivative name.word current) =
      env.firstDerivative name.word current := by
    simp only [firstDerivative, ofField, shiftFailure_bind, history_shift, shiftFailure_field,
      shiftFailure_pure]
  have secondRates (current : Value α) : shiftFailure distance (env.secondDerivative name.word current) =
      env.secondDerivative name.word current := by
    simp only [secondDerivative, ofField, shiftFailure_bind, history_shift, shiftFailure_field,
      shiftFailure_pure]
  simp only [timeDerivative, Token.shift_word, shiftFailure_bind, history_shift]
  congr 1
  funext current
  by_cases numeric : current.untagged.kind.isNumeric = true
  · cases second <;> simp [numeric, rates, secondRates]
  · simp [numeric, shiftFailure_bind]
    rfl

theorem applyNamed_shift (builtin : Builtin) (name : Token) :
    env.applyNamed builtin (name.shift distance) =
      shiftFailure distance (env.applyNamed builtin name) := by
  unfold applyNamed ofMesh
  split <;> simp only [shiftFailure_map, shiftFailure_mesh, shiftFailure_error, history_shift,
    timeDerivative_shift, wrongCount_shift, Token.shift_word]

end Environment

end MeshLang
