import MeshLang.Proofs.Local.Runs

namespace MeshLang

variable {α β γ : Type}

/-- Known tokens correspond to themselves, and nothing is said of places. -/
def Correspondence.ofKnown (α : Type) (known : Token → Prop) : Correspondence α where
  places _ _ := False
  holes _ _ := False
  tokens t t' := t = t' ∧ known t
  starts t t' := t = t'
  exact := True
  faults _ _ := False
  current never := never.elim
  advance never _ := never
  opened never _ := never.elim
  parted never _ _ _ := never.elim
  hole never := never.elim
  kind related := related.1 ▸ rfl
  text related := related.1 ▸ rfl
  start related := related.1
  recount never _ _ := never
  recountHole never _ _ := never
  samePlace _ _ _ never := never.elim
  sameHole _ _ _ := id
  sameToken _ _ _ related := related.1
  sameStart _ _ _ same := same
  sameFault _ _ _ never := never.elim

theorem Correspondence.Same.transfers {L : Correspondence α} {result other : Except (EvalError α) β}
    (same : L.Same Eq result other) (v : β) (done : result = .ok v) : other = .ok v := by
  subst done
  cases same with
  | ok same => rw [same]

abbrev Environment.SharesNames (env env' : Environment α) (known : Token → Prop) : Prop :=
  env.Shares env' (.ofKnown α known)

theorem Environment.SharesNames.refl (env : Environment α) (known : Token → Prop) :
    env.SharesNames env known where
  repository := rfl
  options := rfl
  bindings related := by rw [related.1]

namespace Local

variable {known : Token → Prop} {token : Token} {least bound : Nat}

theorem nameArgument {next next' : Token → Run α β}
    (rest : ∀ name, known name → Local known 0 (bound - 3) (next name) (next' name)) :
    Local known 1 bound (Run.nameArgument >>= next) (Run.nameArgument >>= next') := by
  have spread (next : Token → Run α β) : (Run.nameArgument >>= next) = (do
      let opening ← Run.expect .openParen
      let name ← Run.expect .word
      Run.close opening
      next name) := by
    simp only [Run.nameArgument, bind_assoc, pure_bind]
  rw [spread, spread]
  refine expecting (by decide) fun opening _ => any ?_
  refine expecting (by decide) fun name isKnown => any ?_
  exact (close opening).behind fun _ => rest name isKnown

theorem seedOf (token : Token) :
    Local known 0 bound (Run.seedOf token : Run α UInt64) (Run.seedOf token) := by
  unfold Run.seedOf
  dsimp only
  split
  · exact pure _
  · exact throw _

theorem seedArgument :
    Local known 1 bound (Run.seedArgument : Run α (Option UInt64)) Run.seedArgument := by
  refine expecting (by decide) fun opening _ => any (looking fun token => ?_)
  have last (bound : Nat) (seed : Option UInt64) : Local known 1 bound
      (do Run.close opening; return seed : Run α (Option UInt64))
      (do Run.close opening; return seed) :=
    (close opening).bind fun _ => pure seed
  dsimp only
  split
  · rename_i integer
    rw [Correspondence.discard_bind]
    refine .reading (by rw [integer]; decide) ?_
    exact (seedOf token).bind fun seed => (last _ (some seed)).any
  · split
    · exact last _ none token
    · exact .thrown _ _

theorem foreignArgument :
    Local known 1 bound (Run.foreignArgument : Run α (Token × Bool)) Run.foreignArgument := by
  refine expecting (by decide) fun opening _ => any ?_
  refine expecting (by decide) fun first _ => any (looking fun token => ?_)
  have last (bound : Nat) (name : Token) (old : Bool) : Local known 1 bound
      (do Run.close opening; return (name, old) : Run α (Token × Bool))
      (do Run.close opening; return (name, old)) :=
    (close opening).bind fun _ => pure (name, old)
  dsimp only
  split
  · exact (nameArgument fun name _ => (last _ name _).any) token
  · exact last _ first _ token

end Local

namespace Environment.SharesNames

variable [Scalar α] {env env' : Environment α} {known : Token → Prop} {token : Token}
  {least bound : Nat}

theorem random (shares : env.SharesNames env' known) (isNormal : Bool) (seed : Option UInt64) :
    Local known 0 bound (Run.random env isNormal seed) (Run.random env' isNormal seed) := by
  intro token state answer after _ _ done
  refine ⟨0, Nat.le_refl _, ?_⟩
  cases seed with
  | some seed =>
    cases done
    refine ⟨.refl, fun state' states _ => ⟨state', ?_, .refl, .refl states.generator⟩⟩
    simp only [Run.random, shares.mesh]
    rfl
  | none =>
    cases done
    refine ⟨⟨rfl, .zero, rfl⟩, fun state' states _ => ?_⟩
    refine ⟨{ state' with
      generator := (Generator.sample (α := α) isNormal env'.mesh.cells.length state'.generator).2 },
      ?_, ⟨rfl, .zero, rfl⟩, ?_⟩
    · rw [shares.mesh.symm, ← states.generator]
      rfl
    · refine ⟨?_, [], (List.append_nil _).symm, (List.append_nil _).symm⟩
      rw [shares.mesh, states.generator]

theorem applied (shares : env.SharesNames env' known) (name : Token) (builtin : Builtin)
    (least most : Nat) (args : List (Argument α)) :
    Local known 0 bound (Run.applied env name builtin least most args)
      (Run.applied env' name builtin least most args) := by
  unfold Run.applied
  rw [shares.functions.1]
  dsimp only
  split
  · exact fun _ => .thrown _ _
  · exact .lift fun _ same => same

theorem tabulated (shares : env.SharesNames env' known) (name : Token) (table : LookupTable α)
    (args : List (Argument α)) :
    Local known 0 bound (Run.tabulated env name table args) (Run.tabulated env' name table args) := by
  unfold Run.tabulated
  rw [shares.functions.2.1, shares.options]
  refine .bind (.lift fun _ same => same) fun value => ?_
  split
  · exact .bind (.note _ _) fun _ => .pure _
  · exact .pure _

omit [Scalar α] in
theorem relabelled {kind : Kind} (result : Except (FieldError α) (Value α)) :
    Local known 0 bound (do return (← Run.liftField result).relabel kind)
      (do return (← Run.liftField result).relabel kind) :=
  .bind (.liftField result) fun _ => .pure _

theorem unary (options : Options) (op : UnaryOp) (v : Value α) (place : Token) :
    Local known 0 bound (Run.unary options op v place) (Run.unary options op v place) := by
  unfold Run.unary
  split
  · exact .throw _
  · exact .bind (.note _ _) fun _ => relabelled _

theorem binary (options : Options) (op : BinaryOp) (v w : Value α) (place : Token) :
    Local known 0 bound (Run.binary options op v w place) (Run.binary options op v w place) := by
  unfold Run.binary
  split
  · exact .throw _
  · refine .bind (.lift fun _ same => same) fun _ => ?_
    exact .bind (.note _ _) fun _ => relabelled _

theorem choice (options : Options) (condition v w : Value α) (question colon : Token) :
    Local known 0 bound (Run.choice options condition v w question colon)
      (Run.choice options condition v w question colon) := by
  unfold Run.choice
  split
  · exact .throw _
  · refine .bind (.lift fun _ same => same) fun _ => ?_
    refine .bind (.lift fun _ same => same) fun _ => ?_
    refine .bind (.lift fun _ same => same) fun _ => ?_
    exact .bind (.note _ _) fun _ => relabelled _

omit [Scalar α] in
theorem part (options : Options) (v : Value α) (name : Token) :
    Local known 0 bound (Run.part options v name) (Run.part options v name) := by
  unfold Run.part
  split
  · exact .bind (.note _ _) fun _ => .pure _
  · exact .throw _

theorem tensorPart (shares : env.SharesNames env' known) (v : Value α) (name : Token)
    (function : TensorFunction) :
    Local known 1 bound (Run.tensorPart env v name function) (Run.tensorPart env' v name function) := by
  unfold Run.tensorPart
  rw [shares.options, Correspondence.discard_bind (Run.expect .openParen)]
  refine .expecting (by decide) fun _ _ => .any ?_
  rw [Correspondence.discard_bind (Run.expect .closeParen)]
  refine .expecting (by decide) fun _ _ => ?_
  split
  · exact fun _ => .thrown _ _
  · exact .bind (.note _ _) fun _ => .liftField _

theorem namedPart (shares : env.SharesNames env' known) (v : Value α) :
    Local known 1 bound (Run.namedPart env v) (Run.namedPart env' v) := by
  refine .looking fun token => ?_
  split
  · exact .thrown _ _
  · rename_i word
    refine .reading (by rw [Decidable.not_not.mp word]; decide) fun following => ?_
    cases TensorFunction.ofName? token.word with
    | none => exact .glancing (fun _ _ => rfl) (shares.options ▸ part _ v token following)
    | some function =>
      by_cases opens : following.kind = .openParen
      · exact .mono (.looking (by
          simp only [opens, if_true]
          exact shares.tensorPart v token function following)) (Nat.zero_le _)
      · have stops (other : Token) (same : other = following ∨ other.kind.endsExpression = true) :
            (if other.kind = .openParen then Run.tensorPart env' v token function
              else Run.part env'.options v token) = Run.part env'.options v token := by
          rcases same with rfl | ends
          · exact if_neg opens
          · exact if_neg (TokenKind.not_openParen_of_endsExpression ends)
        refine .glancing stops ?_
        simp only [opens, if_false]
        exact shares.options ▸ part _ v token following

theorem number (token : Token) :
    Local known 0 bound (Run.number token : Run α (Value α)) (Run.number token) := by
  unfold Run.number
  split
  · exact .pure _
  · exact .throw _

end Environment.SharesNames

end MeshLang
