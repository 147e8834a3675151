import MeshLang.Proofs.Parallel.Scripts

namespace MeshLang

variable {α : Type}

def shiftHint (distance : Nat) (hint : String) : String :=
  let place := Nat.ofDigitChars 10 (hint.toList.drop "parenthesis opened at ".length) 0
  if hint = s!"parenthesis opened at {place}" then s!"parenthesis opened at {place + distance}"
  else hint

theorem shiftHint_opened (distance place : Nat) :
    shiftHint distance s!"parenthesis opened at {place}" = s!"parenthesis opened at {place + distance}" := by
  have digits : (s!"parenthesis opened at {place}".toList.drop "parenthesis opened at ".length) =
      Nat.toDigits 10 place := by
    have shown : s!"parenthesis opened at {place}".toList =
        "parenthesis opened at ".toList ++ Nat.toDigits 10 place := by
      rw [String.toList_append, Nat.toString_eq_repr, Nat.toList_repr]
      rfl
    rw [shown]
    exact List.drop_left
  unfold shiftHint
  rw [digits, Nat.ofDigitChars_toDigits (by decide) (by decide)]
  exact if_pos rfl

theorem shiftHint_of_noPlace (distance : Nat) {hint : String} (placeless : NoPlace hint) :
    shiftHint distance hint = hint :=
  if_neg (placeless _)

theorem shiftHint_zero (hint : String) : shiftHint 0 hint = hint := by
  unfold shiftHint
  dsimp only
  split
  · rename_i same
    exact same.symm
  · rfl

def Diagnostic.shift (distance : Nat) (diagnostic : Diagnostic) : Diagnostic :=
  { diagnostic with
    start := diagnostic.start + distance
    stop := diagnostic.stop + distance
    hint := diagnostic.hint.map (shiftHint distance) }

theorem Diagnostic.shift_zero (diagnostic : Diagnostic) : diagnostic.shift 0 = diagnostic := by
  have same : shiftHint 0 = id := funext shiftHint_zero
  unfold shift
  rw [same, Option.map_id]
  rfl

mutual

def EvalError.shift (distance : Nat) : EvalError α → EvalError α
  | .lexical diagnostic => .lexical (diagnostic.shift distance)
  | .grammar diagnostic => .grammar (diagnostic.shift distance)
  | .plugin name error => .plugin name (error.shift distance)
  | error => error

def PluginError.shift (distance : Nat) : PluginError α → PluginError α
  | .argument offset error => .argument offset (error.shift distance)
  | error => error

end

mutual

theorem EvalError.shift_zero : ∀ error : EvalError α, error.shift 0 = error
  | .lexical diagnostic => congrArg EvalError.lexical diagnostic.shift_zero
  | .grammar diagnostic => congrArg EvalError.grammar diagnostic.shift_zero
  | .plugin name error => congrArg (EvalError.plugin name) error.shift_zero
  | .field _ | .mesh _ | .repository _ | .unknownField _ | .unknownFunction _ | .exhausted => rfl

theorem PluginError.shift_zero : ∀ error : PluginError α, error.shift 0 = error
  | .argument offset error => congrArg (PluginError.argument offset) error.shift_zero
  | .expected _ _ | .wrongType _ _ | .overrun _ _ | .invertedBounds _ _ | .failed _ => rfl

end

def shiftFailure {β : Type} (distance : Nat) (outcome : Except (EvalError α) β) :
    Except (EvalError α) β :=
  outcome.mapError (EvalError.shift distance)

theorem shiftFailure_zero {β : Type} (outcome : Except (EvalError α) β) :
    shiftFailure 0 outcome = outcome := by
  cases outcome with
  | ok answer => rfl
  | error error => exact congrArg Except.error error.shift_zero

section Tokens

variable {distance : Nat} {token : Token}

@[simp]
theorem Token.shift_kind : (token.shift distance).kind = token.kind := rfl

@[simp]
theorem Token.shift_text : (token.shift distance).text = token.text := rfl

@[simp]
theorem Token.shift_word : (token.shift distance).word = token.word := rfl

@[simp]
theorem Token.shift_shown : (token.shift distance).shown = token.shown := rfl

@[simp]
theorem Token.shift_stop : (token.shift distance).stop = token.stop + distance :=
  Nat.add_right_comm _ _ _

theorem Token.shift_diagnostic (fault : Fault) (message found : String) (expected : List String) :
    (token.shift distance).diagnostic fault message found expected =
      (token.diagnostic fault message found expected).shift distance := by
  simp only [diagnostic, Diagnostic.shift, shift_stop, Option.map_none]
  rfl

@[simp]
theorem Token.shift_invalid :
    (token.shift distance).invalid = (token.invalid : EvalError α).shift distance :=
  congrArg EvalError.lexical (shift_diagnostic _ _ _ _)

@[simp]
theorem Token.shift_unexpected (fault : Fault) (expected : List String) :
    (token.shift distance).unexpected fault expected =
      (token.unexpected fault expected : EvalError α).shift distance :=
  congrArg EvalError.grammar (shift_diagnostic _ _ _ _)

@[simp]
theorem Token.shift_mismatch (fault : Fault) (message : String) (expected : List String) :
    (token.shift distance).mismatch fault message expected =
      (token.mismatch fault message expected : EvalError α).shift distance :=
  congrArg EvalError.grammar (shift_diagnostic _ _ _ _)

@[simp]
theorem Token.shift_wanted (expected : List String) :
    (token.shift distance).wanted expected =
      (token.wanted expected : EvalError α).shift distance := by
  unfold wanted
  rw [shift_kind, shift_invalid, shift_unexpected]
  split <;> rfl

@[simp]
theorem Token.shift_unclosed (opening : Token) :
    (token.shift distance).unclosed (opening.shift distance) =
      (token.unclosed opening : EvalError α).shift distance := by
  unfold unclosed
  dsimp only
  rw [shift_kind, shift_invalid, shift_unexpected]
  split
  · rfl
  · have hint := shiftHint_opened distance opening.offset
    simp only [EvalError.shift, unexpected, EvalError.withHint, Diagnostic.withHint, Diagnostic.shift,
      Option.map_some, hint]
    rfl

theorem Token.shift_mismatch_withHint (fault : Fault) (message : String) (expected : List String)
    {hint : String} (placeless : NoPlace hint) :
    ((token.shift distance).mismatch fault message expected).withHint hint =
      ((token.mismatch fault message expected : EvalError α).withHint hint).shift distance := by
  have same := shiftHint_of_noPlace distance placeless
  rw [shift_mismatch]
  simp only [EvalError.shift, mismatch, EvalError.withHint, Diagnostic.withHint, Diagnostic.shift,
    Option.map_some, same]

end Tokens

end MeshLang
