import MeshLang.Proofs.Local.Places
import MeshLang.Proofs.Parallel.Reductions

namespace MeshLang

variable {α β γ : Type}

structure State.Past (before : State) (count : Nat) (after : State) : Prop where
  cursor : after.cursor = before.cursor.skip count
  tokens : before.cursor.HasTokens count
  origins : after.origins = before.origins

namespace State.Past

variable {before middle after : State} {i j : Nat}

theorem refl : before.Past 0 before := ⟨rfl, .zero, rfl⟩

theorem one (more : before.cursor.current.kind ≠ .finish) :
    before.Past 1 { before with cursor := before.cursor.advance } :=
  ⟨rfl, .one more, rfl⟩

theorem trans (first : before.Past i middle) (rest : middle.Past j after) : before.Past (i + j) after where
  cursor := by rw [rest.cursor, first.cursor, Cursor.skip_add]
  tokens := first.tokens.add (first.cursor ▸ rest.tokens)
  origins := rest.origins.trans first.origins

theorem precedes (past : before.Past i after) : before.cursor.Precedes after.cursor := by
  rw [past.cursor]
  exact Cursor.precedes_skip _ i

theorem proceeds (past : before.Past i after) : before.Proceeds after := by
  refine ⟨⟨past.precedes, past.origins⟩, ?_⟩
  rw [past.cursor]
  exact Cursor.skip_base _ _

theorem length_le (past : before.Past i after) :
    after.cursor.rest.length + i ≤ before.cursor.rest.length := by
  rw [past.cursor]
  exact past.tokens.length_le

end State.Past

structure State.Shares (state : State) (count : Nat) (state' : State) : Prop where
  places : state.cursor.Shares count state'.cursor
  generator : state'.generator = state.generator

namespace State.Shares

variable {state state' middle middle' : State} {i j : Nat}

theorem first (shares : state.Shares (i + j) state') : state.Shares i state' :=
  ⟨shares.places.first, shares.generator⟩

theorem rest (shares : state.Shares (i + j) state') (past : state.Past i middle)
    (past' : state'.Past i middle') (generator : middle'.generator = middle.generator) :
    middle.Shares j middle' := by
  refine ⟨?_, generator⟩
  rw [past.cursor, past'.cursor]
  exact shares.places.rest

end State.Shares

structure State.Alongside (before after before' after' : State) : Prop where
  generator : after'.generator = after.generator
  noted : ∃ notes, after.trace = before.trace ++ notes ∧ after'.trace = before'.trace ++ notes

namespace State.Alongside

variable {before middle after before' middle' after' : State}

theorem refl (generator : before'.generator = before.generator) :
    Alongside before before before' before' :=
  ⟨generator, [], (List.append_nil _).symm, (List.append_nil _).symm⟩

theorem trans (first : Alongside before middle before' middle')
    (rest : Alongside middle after middle' after') : Alongside before after before' after' := by
  obtain ⟨notes, noted, noted'⟩ := first.noted
  obtain ⟨more, further, further'⟩ := rest.noted
  refine ⟨rest.generator, notes ++ more, ?_, ?_⟩
  · rw [further, noted, List.append_assoc]
  · rw [further', noted', List.append_assoc]

end State.Alongside

def State.Follows (state : State) (count : Nat) (answer : β) (before after : State)
    (result : EStateM.Result (EvalError α) State β) : Prop :=
  ∃ after', result = .ok answer after' ∧ state.Past count after' ∧
    State.Alongside before after state after'

/-- Before known tokens, of which `token` is the next one: what the first step succeeds with, by reading
at least so many of them, the second one does over every text that shares those, if few characters are
ahead. -/
def LocalAt (known : Token → Prop) (token : Token) (least bound : Nat) (run run' : Run α β) : Prop :=
  ∀ state answer after, state.cursor.Knows known → state.cursor.current = token →
    run state = .ok answer after → ∃ count, least ≤ count ∧ state.Past count after ∧
      ∀ state', state.Shares count state' → state'.cursor.rest.length < bound →
        state'.Follows count answer state after (run' state')

/-- A step whose successes depend on the tokens that it reads only. -/
def Local (known : Token → Prop) (least bound : Nat) (run run' : Run α β) : Prop :=
  ∀ token, LocalAt known token least bound run run'

namespace Run

theorem bind_eq_ok {first : Run α β} {next : β → Run α γ} {before after : State} {answer : γ} :
    (first >>= next) before = .ok answer after ↔
      ∃ v middle, first before = .ok v middle ∧ next v middle = .ok answer after := by
  change EStateM.bind first next before = _ ↔ _
  unfold EStateM.bind
  cases first before with
  | ok v middle => simp
  | error error middle => simp

end Run

variable {known : Token → Prop} {token : Token} {least less bound i j : Nat} {run run' : Run α β}
  {next next' : β → Run α γ}

namespace LocalAt

theorem ofKnown (localAt : known token → LocalAt known token least bound run run') :
    LocalAt known token least bound run run' := by
  intro state answer after knows here
  exact localAt (here ▸ knows 0) state answer after knows here

theorem mono (localAt : LocalAt known token least bound run run') (fewer : less ≤ least) :
    LocalAt known token less bound run run' := by
  intro state answer after knows here done
  obtain ⟨count, enough, rest⟩ := localAt state answer after knows here done
  exact ⟨count, Nat.le_trans fewer enough, rest⟩

theorem bindWithin (first : LocalAt known token i bound run run') (room : bound ≤ less + i)
    (rest : ∀ v, Local known j less (next v) (next' v)) :
    LocalAt known token (i + j) bound (run >>= next) (run' >>= next') := by
  intro state answer after knows here done
  obtain ⟨v, middle, ran, done⟩ := Run.bind_eq_ok.mp done
  obtain ⟨read, enough, past, follows⟩ := first state v middle knows here ran
  obtain ⟨further, more, onward, ends⟩ :=
    rest v _ middle answer after (past.cursor ▸ knows.skip read) rfl done
  refine ⟨read + further, Nat.add_le_add enough more, past.trans onward, ?_⟩
  intro state' shares below
  obtain ⟨middle', ran', past', same⟩ := follows state' shares.first below
  have shorter := past'.length_le
  obtain ⟨after', done', onward', same'⟩ :=
    ends middle' (shares.rest past past' same.generator) (by omega)
  exact ⟨after', Run.bind_eq_ok.mpr ⟨v, middle', ran', done'⟩, past'.trans onward', same.trans same'⟩

theorem bind (first : LocalAt known token least bound run run')
    (rest : ∀ v, Local known 0 bound (next v) (next' v)) :
    LocalAt known token least bound (run >>= next) (run' >>= next') :=
  first.bindWithin (Nat.le_add_right _ _) rest

theorem behind (first : LocalAt known token 1 bound run run')
    (rest : ∀ v, Local known 0 (bound - 1) (next v) (next' v)) :
    LocalAt known token 1 bound (run >>= next) (run' >>= next') :=
  first.bindWithin (by omega) rest

theorem looking {next next' : Token → Run α β}
    (rest : LocalAt known token 1 bound (next token) (next' token)) :
    LocalAt known token 1 bound (Run.current >>= next) (Run.current >>= next') := by
  intro state answer after knows here done
  subst here
  obtain ⟨count, enough, past, follows⟩ := rest state answer after knows rfl done
  refine ⟨count, enough, past, fun state' shares below => ?_⟩
  have same := shares.places.current (by omega)
  change state'.Follows count answer _ _ (next' state'.cursor.current state')
  rw [same]
  exact follows state' shares below

theorem glancing {next next' : Token → Run α β} {last : Run α β}
    (same : ∀ token', token' = token ∨ token'.kind.endsExpression = true → next' token' = last)
    (rest : LocalAt known token least bound (next token) last) :
    LocalAt known token least bound (Run.current >>= next) (Run.current >>= next') := by
  intro state answer after knows here done
  subst here
  obtain ⟨count, enough, past, follows⟩ := rest state answer after knows rfl done
  refine ⟨count, enough, past, fun state' shares below => ?_⟩
  change state'.Follows count answer _ _ (next' state'.cursor.current state')
  rw [same _ shares.places.glance]
  exact follows state' shares below

theorem reading {next next' : Token → Run α β} (more : token.kind ≠ .finish)
    (rest : Local known 0 (bound - 1) (next token) (next' token)) :
    LocalAt known token 1 bound (Run.advance >>= next) (Run.advance >>= next') := by
  intro state answer after knows here done
  subst here
  obtain ⟨count, -, past, follows⟩ :=
    rest _ { state with cursor := state.cursor.advance } answer after (knows.skip 1) rfl done
  refine ⟨1 + count, by omega, (State.Past.one more).trans past, fun state' shares below => ?_⟩
  have same := shares.places.current (by omega)
  have more' : state'.cursor.current.kind ≠ .finish := by rwa [same]
  have shorter := Cursor.advance_length more'
  obtain ⟨after', done', onward, same'⟩ :=
    follows { state' with cursor := state'.cursor.advance }
      (shares.rest (.one more) (.one more') shares.generator) (by dsimp only; omega)
  refine ⟨after', ?_, (State.Past.one more').trans onward, same'.generator, same'.noted⟩
  change next' state'.cursor.current _ = _
  rw [same]
  exact done'

theorem throw (error : EvalError α) {run' : Run α β} :
    LocalAt known token least bound (throw error : Run α β) run' := by
  intro state answer after _ _ done
  cases done

theorem thrown (error : EvalError α) (next : β → Run α γ) {run' : Run α γ} :
    LocalAt known token least bound ((MonadExcept.throw error : Run α β) >>= next) run' := by
  intro state answer after _ _ done
  cases done

end LocalAt

namespace Local

theorem any (isLocal : Local known 1 bound run run') : Local known 0 bound run run' :=
  fun token => (isLocal token).mono (Nat.zero_le _)

theorem bind (first : Local known least bound run run')
    (rest : ∀ v, Local known 0 bound (next v) (next' v)) :
    Local known least bound (run >>= next) (run' >>= next') :=
  fun token => (first token).bind rest

theorem behind (first : Local known 1 bound run run')
    (rest : ∀ v, Local known 0 (bound - 1) (next v) (next' v)) :
    Local known 1 bound (run >>= next) (run' >>= next') :=
  fun token => (first token).behind rest

theorem looking {next next' : Token → Run α β}
    (rest : ∀ token, LocalAt known token 1 bound (next token) (next' token)) :
    Local known 1 bound (Run.current >>= next) (Run.current >>= next') :=
  fun token => (rest token).looking

theorem pure (v : β) : Local known 0 bound (Pure.pure v : Run α β) (Pure.pure v) := by
  intro token state answer after _ _ done
  cases done
  exact ⟨0, Nat.le_refl _, .refl, fun state' shares _ =>
    ⟨state', rfl, .refl, .refl shares.generator⟩⟩

theorem throw (error : EvalError α) {run' : Run α β} :
    Local known least bound (throw error : Run α β) run' :=
  fun _ => .throw error

theorem lift {result other : Except (EvalError α) β} (same : ∀ v, result = .ok v → other = .ok v) :
    Local known 0 bound (Run.lift result) (Run.lift other) := by
  cases result with
  | error error => exact throw error
  | ok v =>
    rw [same v rfl]
    exact pure v

theorem liftField (result : Except (FieldError α) β) :
    Local known 0 bound (Run.liftField result) (Run.liftField result) :=
  lift fun _ same => same

theorem note (options : Options) (rule : String) :
    Local known 0 bound (Run.note options rule : Run α Unit) (Run.note options rule) := by
  intro token state answer after _ _ done
  rw [Run.note_eq] at done
  cases done
  refine ⟨0, Nat.le_refl _, ⟨rfl, .zero, rfl⟩, fun state' shares _ => ?_⟩
  exact ⟨_, Run.note_eq options rule state', ⟨rfl, .zero, rfl⟩, shares.generator, _, rfl, rfl⟩

theorem expecting {kind : TokenKind} (more : kind ≠ .finish) {next next' : Token → Run α β}
    (rest : ∀ token, known token → Local known 0 (bound - 1) (next token) (next' token)) :
    Local known 1 bound (Run.expect kind >>= next) (Run.expect kind >>= next') := by
  have asked (next : Token → Run α β) : (Run.expect kind >>= next) = (do
      let token ← Run.current
      if token.kind = kind then Run.advance >>= next
      else MonadExcept.throw (token.wanted [kind.displayName])) := by
    funext state
    rw [Correspondence.expect_bind]
    change _ = (if state.cursor.current.kind = kind then Run.advance >>= next
      else MonadExcept.throw _ : Run α β) state
    split <;> rfl
  rw [asked, asked]
  refine looking fun token => ?_
  split
  · rename_i found
    exact .ofKnown fun isKnown => .reading (found ▸ more) (rest token isKnown)
  · exact .throw _

theorem close (opening : Token) :
    Local known 1 bound (Run.close opening : Run α Unit) (Run.close opening) := by
  refine looking fun token => ?_
  split
  · rename_i found
    have read : LocalAt known token 1 bound (Run.advance >>= fun _ => Pure.pure ())
        (Run.advance >>= fun _ => Pure.pure () : Run α Unit) :=
      .reading (by rw [found]; decide) (.pure ())
    exact read
  · exact .throw _

end Local

end MeshLang
