import MeshLang.Proofs.Local.Plugins
import MeshLang.Proofs.Parallel.Steps

namespace MeshLang

variable {α β : Type} {known : Token → Prop} {token : Token} {least bound n : Nat}
  {recurse recurse' : Recursion α}

def Run.operateAt [Scalar α] (env : Environment α) (recurse : Recursion α) (v : Value α) (bound : Nat)
    (token : Token) (kind : TokenKind) : Run α (Value α) :=
  match kind.binding? v.kind with
  | none =>
    if kind = .doubleAmpersand && bound ≤ Binding.conjunction then
      throw (undefinedAfter "&&" v token)
    else return v
  | some binding =>
    if binding.left < bound then return v
    else if (binding.op.rightKinds v.kind).isEmpty then
      throw (undefinedAfter binding.op.symbol v token)
    else do recurse (some (← operation env recurse v binding)) bound

def Run.continueAt [Scalar α] (env : Environment α) (recurse : Recursion α) (v : Value α) (bound : Nat)
    (token : Token) : Run α (Value α) :=
  match token.kind with
  | .invalid => throw token.invalid
  | .point =>
    if Binding.component < bound then return v
    else do recurse (some (← component env v)) bound
  | .question =>
    if Binding.choice < bound then return v
    else do recurse (some (← choose env recurse v)) bound
  | kind => operateAt env recurse v bound token kind

theorem Run.continueFrom_eq [Scalar α] (env : Environment α) (recurse : Recursion α) (v : Value α)
    (bound : Nat) : Run.continueFrom env recurse v bound =
      Run.current >>= Run.continueAt env recurse v bound := rfl

theorem Run.name_eq [Scalar α] (env : Environment α) (recurse : Recursion α) :
    Run.name env recurse = (do
      let token ← Run.advance
      let following ← Run.current
      if following.kind = .openParen then Run.call env recurse token
      else if token.word = "unitTensor" then return .constantTensor .tensor Mat3.identity
      else return env.options.adopt (← Run.lift (env.lookup token.word))) := rfl

theorem Run.continueAt_ends [Scalar α] (env : Environment α) (recurse : Recursion α) (v : Value α)
    (bound : Nat) {last : Token} (ends : last.kind.endsExpression = true) :
    Run.continueAt env recurse v bound last = pure v := by
  unfold Run.continueAt
  cases kind : last.kind with
  | finish | closeParen | semicolon => rfl
  | _ => simp [kind, TokenKind.endsExpression] at ends

theorem Cursor.HasTokens.unique {cursor : Cursor} {i j : Nat} (has : cursor.HasTokens i)
    (has' : cursor.HasTokens j) (same : cursor.skip i = cursor.skip j) : i = j := by
  have ordered {i j : Nat} (has : cursor.HasTokens j) (same : cursor.skip i = cursor.skip j)
      (le : i ≤ j) : i = j := by
    have rest : (cursor.skip i).HasTokens (j - i) := by
      intro k below
      rw [← Cursor.skip_add]
      exact has _ (by omega)
    have shorter := rest.length_le
    rw [← Cursor.skip_add, Nat.add_sub_cancel' le, same] at shorter
    omega
  rcases Nat.le_total i j with le | le
  · exact ordered has' same le
  · exact (ordered has same.symm le).symm

namespace LocalAt

theorem measured {run run' : Nat → Run α β}
    (each : ∀ n less, less ≤ bound → LocalAt known token least less (run n) (run' less)) :
    LocalAt known token least bound (fun state => run (state.cursor.rest.length + 1) state)
      (fun state => run' (state.cursor.rest.length + 1) state) := by
  intro state answer after knows here done
  obtain ⟨count, enough, past, -⟩ :=
    each _ 0 (Nat.zero_le _) state answer after knows here done
  refine ⟨count, enough, past, fun state' shares below => ?_⟩
  obtain ⟨count', -, past', follows⟩ :=
    each _ (state'.cursor.rest.length + 1) below state answer after knows here done
  obtain rfl := past.tokens.unique past'.tokens (past.cursor.symm.trans past'.cursor)
  exact follows state' shares (Nat.lt_succ_self _)

theorem none {run run' run'' : Run α β} (isLocal : LocalAt known token least bound run run'') :
    LocalAt known token least 0 run run' := by
  intro state answer after knows here done
  obtain ⟨count, enough, past, -⟩ := isLocal state answer after knows here done
  exact ⟨count, enough, past, fun state' _ below => absurd below (Nat.not_lt_zero _)⟩

end LocalAt

namespace Local

structure Recurses (known : Token → Prop) (n : Nat) (recurse recurse' : Recursion α) : Prop where
  fresh : ∀ bound, Local known 1 n (recurse none bound) (recurse' none bound)
  further : ∀ v bound, Local known 0 n (recurse (some v) bound) (recurse' (some v) bound)

theorem less {less : Nat} {run run' : Run α β} (isLocal : Local known least bound run run')
    (le : less ≤ bound) : Local known least less run run' := by
  intro token state answer after knows here done
  obtain ⟨count, enough, past, follows⟩ := isLocal token state answer after knows here done
  exact ⟨count, enough, past, fun state' shares below => follows state' shares (Nat.lt_of_lt_of_le below le)⟩

theorem argumentsAfter_of {rounds rounds' : Nat} {opening : Token}
    (further : Local known 1 (bound - 1) (Run.argumentsFrom recurse opening rounds)
      (Run.argumentsFrom recurse' opening rounds')) (a : Argument α) :
    Local known 1 bound (Correspondence.argumentsAfter recurse opening rounds a)
      (Correspondence.argumentsAfter recurse' opening rounds' a) := by
  refine looking fun token => ?_
  cases kind : token.kind with
  | comma =>
    dsimp only
    rw [Correspondence.discard_bind, Correspondence.discard_bind]
    exact .reading (by rw [kind]; decide) (further.any.bind fun args => .pure _)
  | closeParen =>
    dsimp only
    rw [Correspondence.discard_bind]
    exact .reading (by rw [kind]; decide) (.pure _)
  | _ => exact .throw _

theorem argumentsFrom (recurses : Recurses known n recurse recurse') (opening : Token)
    (rounds : Nat) {rounds' : Nat} (room : bound ≤ n) (enough : bound ≤ rounds') :
    Local known 1 bound (Run.argumentsFrom recurse opening rounds)
      (Run.argumentsFrom recurse' opening rounds') := by
  induction rounds generalizing bound rounds' with
  | zero => exact .throw _
  | succ rounds ih =>
    have further {bound : Nat} (room : bound ≤ n) (rounds' : Nat) (enough : bound ≤ rounds' + 1) :
        Local known 1 bound (Run.argumentsFrom recurse opening (rounds + 1))
          (Run.argumentsFrom recurse' opening (rounds' + 1)) := by
      rw [Correspondence.argumentsFrom_succ, Correspondence.argumentsFrom_succ]
      refine looking fun token => (((recurses.fresh 0).less room).behind fun v => ?_) token
      exact (argumentsAfter_of (ih (by omega) (by omega)) ⟨v, token⟩).any
    cases rounds' with
    | zero =>
      obtain rfl : bound = 0 := by omega
      exact fun token => (further room 0 (Nat.zero_le _) token).none
    | succ rounds' => exact further room rounds' enough

theorem arguments (recurses : Recurses known n recurse recurse') :
    Local known 1 n (Run.arguments recurse) (Run.arguments recurse') := by
  refine expecting (by decide) fun opening _ => any (looking fun token => ?_)
  split
  · rename_i closes
    rw [Correspondence.discard_bind]
    exact .reading (by rw [closes]; decide) (.pure _)
  · have measured := LocalAt.measured fun rounds less (le : less ≤ n - 1) =>
      argumentsFrom recurses opening rounds (Nat.le_trans le (Nat.sub_le n 1)) (Nat.le_refl less) token
    exact measured

end Local

namespace Environment.SharesCalls

open Local

variable [Scalar α] {env env' : Environment α}

theorem names (shares : env.SharesCalls env' known) : env.SharesNames env' known := shares.toShares

theorem callBuiltin (shares : env.SharesCalls env' known) (recurses : Recurses known n recurse recurse')
    (name : Token) (builtin : Builtin) :
    Local known 1 n (Run.callBuiltin env recurse name builtin)
      (Run.callBuiltin env' recurse' name builtin) := by
  unfold Run.callBuiltin
  split
  · exact .nameArgument fun arg isKnown =>
      .lift (shares.toShares.applyNamed builtin ⟨rfl, isKnown⟩).transfers
  · refine .bind .seedArgument fun seed => ?_
    split
    · exact shares.names.random _ seed
    · exact .throw _
  · exact .bind (arguments recurses) fun args => shares.names.applied name builtin _ _ args

theorem callTable (shares : env.SharesCalls env' known) (recurses : Recurses known n recurse recurse')
    (name : Token) (table : LookupTable α) :
    Local known 1 n (Run.callTable env recurse name table) (Run.callTable env' recurse' name table) :=
  .bind (arguments recurses) fun args => shares.names.tabulated name table args

theorem call (shares : env.SharesCalls env' known) (recurses : Recurses known n recurse recurse')
    (name : Token) (opens : token.kind = .openParen) :
    LocalAt known token 1 n (Run.call env recurse name) (Run.call env' recurse' name) := by
  unfold Run.call
  rw [shares.repository]
  cases Builtin.ofName? name.word with
  | some builtin =>
    refine (shares.callBuiltin recurses name builtin token).bind fun value => ?_
    rw [shares.options]
    exact .bind (.note _ _) fun _ => .pure _
  | none =>
    cases env.repository.tables.get? name.word with
    | some table => exact shares.callTable recurses name table token
    | none =>
      cases env.repository.foreign.get? name.word with
      | some region =>
        refine (foreignArgument token).bind fun field => ?_
        rw [shares.toShares.functions.2.2]
        exact .lift fun _ same => same
      | none =>
        cases found : env.registry.get? name.word with
        | some plugin =>
          refine callPlugin (recurses.fresh 0) shares name opens found fun plugin' found' => ?_
          rw [found']
        | none => exact .throw _

theorem name (shares : env.SharesCalls env' known) (recurses : Recurses known n recurse recurse')
    (word : token.kind = .word) :
    LocalAt known token 1 (n + 1) (Run.name env recurse) (Run.name env' recurse') := by
  rw [Run.name_eq, Run.name_eq]
  refine .ofKnown fun isKnown => .reading (by rw [word]; decide) fun following => ?_
  by_cases opens : following.kind = .openParen
  · refine .mono (.looking ?_) (Nat.zero_le _)
    rw [if_pos opens, if_pos opens]
    exact shares.call recurses token opens
  · have stops (other : Token) (same : other = following ∨ other.kind.endsExpression = true) :
        other.kind ≠ .openParen := by
      rcases same with rfl | ends
      · exact opens
      · exact TokenKind.not_openParen_of_endsExpression ends
    refine .glancing (fun other same => if_neg (stops other same)) ?_
    rw [if_neg opens]
    have found := (shares.toShares.lookup (show (Correspondence.ofKnown α known).tokens token token from
      ⟨rfl, isKnown⟩)).transfers
    split
    · exact Local.pure _ following
    · rw [shares.options]
      exact Local.bind (.lift found) (fun _ => .pure _) following

theorem operand (shares : env.SharesCalls env' known) (recurses : Recurses known n recurse recurse') :
    Local known 1 (n + 1) (Run.operand env recurse) (Run.operand env' recurse') := by
  have signed (op : UnaryOp) {token : Token} (more : token.kind ≠ .finish) :
      LocalAt known token 1 (n + 1) (Run.signed env recurse op) (Run.signed env' recurse' op) := by
    refine .reading more (.bind (recurses.fresh _).any fun v => ?_)
    rw [shares.options]
    exact SharesNames.unary _ op v token
  refine looking fun token => ?_
  cases kind : token.kind with
  | minus => exact signed .negate (by rw [kind]; decide)
  | bang => exact signed .not (by rw [kind]; decide)
  | openParen =>
    exact .reading (by rw [kind]; decide) ((recurses.fresh 0).any.bind fun v =>
      (close token).any.bind fun _ => .pure v)
  | integer | decimal =>
    dsimp only
    rw [Correspondence.discard_bind]
    exact .reading (by rw [kind]; decide) (SharesNames.number token)
  | piWord | trueWord | falseWord =>
    dsimp only
    rw [Correspondence.discard_bind]
    exact .reading (by rw [kind]; decide) (.pure _)
  | word => exact shares.name recurses kind
  | _ => exact .throw _

theorem choose (shares : env.SharesCalls env' known) (recurses : Recurses known n recurse recurse')
    (condition : Value α) (more : token.kind ≠ .finish) :
    LocalAt known token 1 (n + 1) (Run.choose env recurse condition)
      (Run.choose env' recurse' condition) := by
  refine .reading more ?_
  split
  · exact fun _ => .thrown _ _
  · refine .bind (recurses.fresh 0).any fun first => .any (.expecting (by decide) fun colon _ => ?_)
    refine .bind ((recurses.fresh _).any.less (Nat.sub_le n 1)) fun second => ?_
    rw [shares.options]
    exact SharesNames.choice _ condition first second token colon

theorem operation (shares : env.SharesCalls env' known) (recurses : Recurses known n recurse recurse')
    (v : Value α) (binding : Binding) (more : token.kind ≠ .finish) :
    LocalAt known token 1 (n + 1) (Run.operation env recurse v binding)
      (Run.operation env' recurse' v binding) := by
  refine .reading more (.bind (recurses.fresh _).any fun w => ?_)
  rw [shares.options]
  exact SharesNames.binary _ binding.op v w token

theorem component (shares : env.SharesCalls env' known) (v : Value α) (more : token.kind ≠ .finish) :
    LocalAt known token 1 (n + 1) (Run.component env v) (Run.component env' v) := by
  have spread (env : Environment α) :
      Run.component env v = (Run.advance >>= fun _ => Run.namedPart env v) :=
    Correspondence.discard_bind _ _
  rw [spread, spread]
  exact .reading more (shares.names.namedPart v).any

omit [Scalar α] in
theorem goOn (recurses : Recurses known n recurse recurse') (bound : Nat) {first first' : Run α (Value α)}
    (isLocal : LocalAt known token 1 (n + 1) first first') :
    LocalAt known token 1 (n + 1) (do recurse (some (← first)) bound)
      (do recurse' (some (← first')) bound) :=
  isLocal.behind fun v => recurses.further v bound

theorem operateAt (shares : env.SharesCalls env' known) (recurses : Recurses known n recurse recurse')
    (v : Value α) (bound : Nat) (token : Token) :
    (Run.operateAt env recurse v bound token token.kind = Pure.pure v ∧
        Run.operateAt env' recurse' v bound token token.kind = Pure.pure v) ∨
      LocalAt known token 1 (n + 1) (Run.operateAt env recurse v bound token token.kind)
        (Run.operateAt env' recurse' v bound token token.kind) := by
  unfold Run.operateAt
  cases found : token.kind.binding? v.kind with
  | none =>
    dsimp only
    split
    · exact .inr (.throw _)
    · exact .inl ⟨rfl, rfl⟩
  | some binding =>
    have more : token.kind ≠ .finish := by
      intro finish
      rw [finish] at found
      cases found
    dsimp only
    split
    · exact .inl ⟨rfl, rfl⟩
    · split
      · exact .inr (.throw _)
      · exact .inr (goOn recurses bound (shares.operation recurses v binding more))

theorem continueAt (shares : env.SharesCalls env' known) (recurses : Recurses known n recurse recurse')
    (v : Value α) (bound : Nat) (token : Token) :
    (Run.continueAt env recurse v bound token = Pure.pure v ∧
        Run.continueAt env' recurse' v bound token = Pure.pure v) ∨
      LocalAt known token 1 (n + 1) (Run.continueAt env recurse v bound token)
        (Run.continueAt env' recurse' v bound token) := by
  have operates := shares.operateAt recurses v bound token
  unfold Run.continueAt
  cases kind : token.kind with
  | invalid => exact .inr (.throw _)
  | point =>
    dsimp only
    split
    · exact .inl ⟨rfl, rfl⟩
    · exact .inr (goOn recurses bound (shares.component v (by rw [kind]; decide)))
  | question =>
    dsimp only
    split
    · exact .inl ⟨rfl, rfl⟩
    · exact .inr (goOn recurses bound (shares.choose recurses v (by rw [kind]; decide)))
  | _ =>
    rw [kind] at operates
    exact operates

theorem continueFrom (shares : env.SharesCalls env' known) (recurses : Recurses known n recurse recurse')
    (v : Value α) (bound : Nat) :
    Local known 0 (n + 1) (Run.continueFrom env recurse v bound) (Run.continueFrom env' recurse' v bound) := by
  intro token
  rw [Run.continueFrom_eq, Run.continueFrom_eq]
  rcases shares.continueAt recurses v bound token with ⟨stops, stops'⟩ | goes
  · have stays (last : Token) (same : last = token ∨ last.kind.endsExpression = true) :
        Run.continueAt env' recurse' v bound last = Pure.pure v := by
      rcases same with rfl | ends
      · exact stops'
      · exact Run.continueAt_ends _ _ _ _ ends
    refine .glancing stays ?_
    rw [stops]
    exact Local.pure v token
  · exact .mono (.looking goes) (Nat.zero_le _)

theorem step (shares : env.SharesCalls env' known) (recurses : Recurses known n recurse recurse') :
    Recurses known (n + 1) (Run.step env recurse) (Run.step env' recurse') where
  fresh bound := (shares.operand recurses).bind fun v => shares.continueFrom recurses v bound
  further v bound := shares.continueFrom recurses v bound

theorem evaluate (shares : env.SharesCalls env' known) (depth n : Nat) :
    Recurses known n (Run.evaluate env depth) (Run.evaluate env' n) := by
  -- The bounds differ: the first evaluation succeeded, so only its depth has to be large enough.
  induction depth generalizing n with
  | zero => exact ⟨fun _ => .throw _, fun _ _ => .throw _⟩
  | succ depth ih =>
    have further (n : Nat) := shares.step (ih n)
    cases n with
    | zero => exact ⟨fun bound token => ((further 0).fresh bound token).none,
        fun v bound token => ((further 0).further v bound token).none⟩
    | succ n => exact further n

/-- The value of an expression, over every text that shares the tokens that have been read. -/
theorem expression (shares : env.SharesCalls env' known) {state after : State} {v : Value α}
    (knows : state.cursor.Knows known) (done : Run.expression env state = .ok v after) :
    ∃ count, state.Past count after ∧ ∀ state', state.Shares count state' →
      state'.Follows count v state after (Run.expression env' state') := by
  have isLocal (bound : Nat) := LocalAt.measured fun depth less (_ : less ≤ bound) =>
    (shares.evaluate depth less).fresh 0 state.cursor.current
  obtain ⟨count, -, past, -⟩ := isLocal 0 state v after knows rfl done
  refine ⟨count, past, fun state' states => ?_⟩
  obtain ⟨count', -, past', follows⟩ := isLocal (state'.cursor.rest.length + 1) state v after knows rfl done
  obtain rfl := past.tokens.unique past'.tokens (past.cursor.symm.trans past'.cursor)
  exact follows state' states (Nat.lt_succ_self _)

end Environment.SharesCalls

end MeshLang
