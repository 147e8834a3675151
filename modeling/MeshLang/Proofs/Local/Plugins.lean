import MeshLang.Proofs.Local.Reductions
import MeshLang.Proofs.Plugin.Bounded

namespace MeshLang

variable {α β γ : Type}

theorem Token.shift_injective {token token' : Token} {distance : Nat}
    (same : token.shift distance = token'.shift distance) : token = token' := by
  obtain ⟨kind, text, offset⟩ := token
  obtain ⟨kind', text', offset'⟩ := token'
  simp only [shift, mk.injEq] at same
  obtain ⟨rfl, rfl, distances⟩ := same
  rw [Nat.add_right_cancel distances]

namespace Cursor

variable {cursor cursor' base : Cursor} {i : Nat}

theorem next?_eq (cursor : Cursor) :
    cursor.next? =
      if cursor.current.kind = .finish then none else some (cursor.current, cursor.advance) := by
  split
  · rename_i finish
    exact cursor.next?_eq_none_iff.mpr finish
  · rename_i more
    exact next?_of_more more

theorem skip_shift (cursor : Cursor) (distance count : Nat) :
    (cursor.shift distance).skip count = (cursor.skip count).shift distance := by
  induction count generalizing cursor with
  | zero => rfl
  | succ count ih => rw [skip_succ, skip_succ, advance_shift, ih]

def inside (cursor base : Cursor) : Cursor := (cursor.since base).shift base.place

theorem Precedes.meets_inside (precedes : base.Precedes cursor) : cursor.Meets (cursor.inside base) :=
  precedes.shift_since

theorem advance_inside (cursor : Cursor) : cursor.advance.Meets (cursor.advance.inside cursor) :=
  advance_precedes.meets_inside

theorem skip_since (precedes : base.Precedes cursor) (count : Nat) :
    (cursor.since base).skip count = (cursor.skip count).since base := by
  have here := precedes.shift_since.skip count
  rw [skip_shift] at here
  have there := here.symm.trans (precedes.trans (cursor.precedes_skip count)).shift_since
  have place := there.place
  rw [place_shift, place_shift] at place
  have meets : ((cursor.since base).skip count).Meets ((cursor.skip count).since base) :=
    ⟨there.rest, Nat.add_right_cancel place⟩
  exact (meets.eq_of_base ((skip_base (cursor.since base) count).symm)).symm

theorem current_since (precedes : base.Precedes cursor) :
    (cursor.since base).current.shift base.place = cursor.current := by
  rw [← current_shift, precedes.shift_since.current]

theorem HasTokens.of_since (precedes : base.Precedes cursor) (has : (cursor.since base).HasTokens i) :
    cursor.HasTokens i := by
  intro k below
  have there := has k below
  rw [skip_since precedes] at there
  have here := current_since (precedes.trans (cursor.precedes_skip k))
  rw [← here]
  exact there

theorem Shares.since {base' : Cursor} (shares : cursor.Shares i cursor') (bases : base'.place = base.place)
    (precedes : base.Precedes cursor) (precedes' : base'.Precedes cursor') :
    (cursor.since base).Shares i (cursor'.since base') := by
  have place (k : Nat) : ((cursor.since base).skip k).place = (cursor.skip k).place - base.place := by
    rw [skip_since precedes]
    exact Nat.zero_add _
  have place' (k : Nat) :
      ((cursor'.since base').skip k).place = (cursor'.skip k).place - base'.place := by
    rw [skip_since precedes']
    exact Nat.zero_add _
  have current (k : Nat) :
      ((cursor.since base).skip k).current.shift base.place = (cursor.skip k).current := by
    rw [skip_since precedes]
    exact current_since (precedes.trans (cursor.precedes_skip k))
  have current' (k : Nat) :
      ((cursor'.since base').skip k).current.shift base.place = (cursor'.skip k).current := by
    rw [skip_since precedes', ← bases]
    exact current_since (precedes'.trans (cursor'.precedes_skip k))
  have same (k : Nat) (there : (cursor'.skip k).current = (cursor.skip k).current) :
      ((cursor'.since base').skip k).current = ((cursor.since base).skip k).current := by
    rw [← current, ← current'] at there
    exact Token.shift_injective there
  refine ⟨fun k below => ?_, fun k below => same k (shares.token k below), ?_⟩
  · rw [place, place', shares.place k below, bases]
  · rcases shares.last with there | ends
    · exact .inl (same i there)
    · rw [← current'] at ends
      exact .inr ends

end Cursor

namespace Arguments

def Local (read : Arguments → Except (PluginError α) (β × Arguments)) : Prop :=
  ∀ args answer rest, read args = .ok (answer, rest) → ∃ count, rest = args.skip count ∧
    args.HasTokens count ∧
      ∀ args', args.Shares count args' → read args' = .ok (answer, args'.skip count)

namespace Local

theorem pure (answer : β) : Local fun args => (.ok (answer, args) : Except (PluginError α) _) := by
  intro args found rest done
  cases done
  exact ⟨0, rfl, .zero, fun _ _ => rfl⟩

theorem bind {first : Arguments → Except (PluginError α) (β × Arguments)}
    {next : β → Arguments → Except (PluginError α) (γ × Arguments)} (isLocal : Local first)
    (rest : ∀ v, Local (next v)) :
    Local fun args => first args >>= fun answer => next answer.1 answer.2 := by
  intro args answer final done
  dsimp only at done
  cases ran : first args with
  | error error =>
    rw [ran] at done
    cases done
  | ok found =>
    obtain ⟨v, middle⟩ := found
    rw [ran] at done
    obtain ⟨i, rfl, has, follows⟩ := isLocal args v middle ran
    obtain ⟨j, rfl, more, ends⟩ := rest v _ answer final done
    refine ⟨i + j, (Cursor.skip_add args i j).symm, has.add more, fun args' shares => ?_⟩
    dsimp only
    rw [follows args' shares.first, Cursor.skip_add]
    exact ends _ shares.rest

theorem sign (kind : TokenKind) : Local (α := α) fun args => args.sign kind := by
  intro args answer rest done
  dsimp only at done
  unfold Arguments.sign at done
  rw [args.next?_eq] at done
  split at done
  · rename_i token after found
    split at found
    · cases found
    · rename_i more
      cases found
      split at done
      · rename_i same
        cases done
        refine ⟨1, rfl, .one more, fun args' shares => ?_⟩
        have here := shares.current Nat.one_pos
        dsimp only
        unfold Arguments.sign
        rw [args'.next?_eq, here, if_neg more]
        exact if_pos same
      · cases done
  · cases done

theorem signed {args rest : Arguments} {negative : Bool} {token : Token}
    (found : args.signed? = some (negative, token, rest)) : ∃ count, rest = args.skip count ∧
      args.HasTokens count ∧
        ∀ args' : Arguments, args.Shares count args' → args'.signed? = some (negative, token, args'.skip count) := by
  unfold Arguments.signed? at found
  rw [args.next?_eq] at found
  by_cases finish : args.current.kind = .finish
  · rw [if_pos finish] at found
    cases found
  have reads (args' : Arguments) (here : args'.current = args.current) :
      args'.next? = some (args.current, args'.advance) := by
    rw [args'.next?_eq, here, if_neg finish]
  rw [if_neg finish] at found
  dsimp only at found
  by_cases minus : args.current.kind = .minus
  · rw [if_pos minus, args.advance.next?_eq] at found
    split at found
    · cases found
    · rename_i more
      cases found
      have has : args.HasTokens 2 := (Cursor.HasTokens.one finish).add (.one more)
      refine ⟨2, rfl, has, fun args' shares => ?_⟩
      have here := shares.current (by decide)
      have following : args'.advance.current = args.advance.current := shares.token 1 (by decide)
      unfold Arguments.signed?
      rw [reads args' here]
      dsimp only
      rw [if_pos minus, args'.advance.next?_eq, following, if_neg more]
      rfl
  · rw [if_neg minus] at found
    cases found
    refine ⟨1, rfl, .one finish, fun args' shares => ?_⟩
    unfold Arguments.signed?
    rw [reads args' (shares.current Nat.one_pos)]
    exact if_neg minus

theorem scalar (α : Type) [Scalar α] : Local fun args => args.scalar (α := α) := by
  intro args answer rest done
  dsimp only at done
  unfold Arguments.scalar at done
  split at done
  · cases done
  · rename_i negative token after found
    obtain ⟨count, rfl, has, follows⟩ := signed found
    split at done
    · rename_i size written
      cases done
      refine ⟨count, rfl, has, fun args' shares => ?_⟩
      dsimp only
      unfold Arguments.scalar
      rw [follows args' shares]
      dsimp only
      rw [written]
    · cases done

end Local

end Arguments

namespace Plugin

open Arguments

variable [Scalar α]

theorem bounds_local : Arguments.Local (bounds (α := α)) := by
  have ordered (low high : α) : Arguments.Local fun args =>
      (if Scalar.lt high low then .error (.invertedBounds low high) else .ok ((low, high), args) :
        Except (PluginError α) _) := by
    split
    · intro _ _ _ done
      cases done
    · exact .pure (low, high)
  exact .bind (.sign .comma) fun _ => .bind (.scalar α) fun low => .bind (.sign .comma) fun _ =>
    .bind (.scalar α) fun high => .bind (.sign .closeParen) fun _ => ordered low high

theorem answerBounded_local {make : Bounded α → Value α} {v w : Value α} {args : Arguments} {used : Nat}
    (done : answerBounded make v args = .ok (w, used)) : ∃ count, args.HasTokens count ∧
      used = (args.skip count).offset ∧
        ∀ args', args.Shares count args' → answerBounded make v args' = .ok (w, (args'.skip count).offset) := by
  unfold answerBounded at done
  split at done
  · cases done
  · rename_i scalar
    cases read : bounds (α := α) args with
    | error error =>
      rw [read] at done
      cases done
    | ok found =>
      obtain ⟨range, rest⟩ := found
      rw [read] at done
      cases done
      obtain ⟨count, rfl, has, follows⟩ := bounds_local args range rest read
      refine ⟨count, has, rfl, fun args' shares => ?_⟩
      unfold answerBounded
      rw [if_neg scalar, follows args' shares]
      rfl

theorem finishBounded_ok (env : Environment α) (name : Token) (make : Bounded α → Value α) {base : Cursor}
    (v : Value α) {state : State} (onward : base.advance.Precedes state.cursor)
    (own : state.cursor.base = base.place) :
    finishBounded env name make base (.ok v state) =
      Environment.Corresponds.handBack env name base (answerBounded make v (state.cursor.since base)) state := by
  have place : Cursor.mk ((Text.dropBytes? (state.cursor.offset -
      (base.advance.since base).offset) (base.advance.since base).rest).getD [])
        (base.advance.since base).base state.cursor.offset = state.cursor.since base := by
    have first : base.place ≤ base.advance.place := Cursor.advance_precedes.place_le
    have here : state.cursor.place = base.place + state.cursor.offset := by rw [Cursor.place, own]
    have rest := onward.dropBytes?
    rw [show state.cursor.place - base.advance.place =
      state.cursor.offset - (base.advance.place - base.place) by omega] at rest
    unfold Cursor.since
    dsimp only
    rw [rest, here, Nat.add_sub_cancel_left]
    rfl
  unfold finishBounded Arguments.afterExpression
  dsimp only
  rw [place]
  rfl

end Plugin

namespace Environment.Corresponds

theorem handBack_since (env : Environment α) (name : Token) {base stop final : Cursor} (v : Value α)
    (precedes : base.Precedes stop) (meets : stop.Meets final) (own : final.base = base.base)
    (state : State) :
    handBack env name base (.ok (v, (stop.since base).offset)) state =
      .ok (env.options.adopt v)
        { state with
          cursor := final
          origins := state.origins.drop 1
          trace := state.trace ++ Run.notes env.options s!"{name.word}<plugin> -> {v.describe}" } := by
  have done := handBack_eq env name v precedes.dropBytes? state
  have later := precedes.place_le
  have place : Cursor.mk stop.rest base.base (base.offset + (stop.place - base.place)) = final := by
    have place : base.base + (base.offset + (stop.place - base.place)) = stop.place := by
      rw [← Nat.add_assoc]
      exact Nat.add_sub_cancel' later
    have here : final.Meets ⟨stop.rest, base.base, base.offset + (stop.place - base.place)⟩ :=
      ⟨meets.rest.symm, place.trans meets.place.symm⟩
    exact here.eq_of_base own.symm
  rw [place] at done
  exact done

theorem handBack_ok {env : Environment α} {name : Token} {base : Cursor}
    {outcome : Except (PluginError α) (Value α × Nat)} {state after : State} {answer : Value α}
    (done : handBack env name base outcome state = .ok answer after) : ∃ v used, outcome = .ok (v, used) := by
  cases outcome with
  | error error => cases done
  | ok found => exact ⟨found.1, found.2, rfl⟩

end Environment.Corresponds

variable [Scalar α]

/-- Two environments that known names cannot tell apart. Wherever a plugin of the first one is called,
it refuses the text at once, or it reads a bounded expression as the plugin of the other one does. -/
structure Environment.SharesCalls (env env' : Environment α) (known : Token → Prop) : Prop extends
    env.SharesNames env' known where
  plugins : ∀ name plugin, env.registry.get? name = some plugin → ∀ text,
    (∃ error, plugin.call text = .done (.error error)) ∨
      ∃ make plugin', env'.registry.get? name = some plugin' ∧
        plugin.call text = (Plugin.ofBounded make).run text ∧ plugin'.call = (Plugin.ofBounded make).run

namespace Local

open Plugin Environment.Corresponds

variable {known : Token → Prop} {token : Token} {bound : Nat} {recurse recurse' : Recursion α}
  {env env' : Environment α} {plugin plugin' : Plugin α} {make : Bounded α → Value α}

omit [Scalar α] in
theorem behind_inside {base cursor : Cursor} {i : Nat} (behind : cursor = (base.advance.inside base).skip i) :
    base.advance.Precedes cursor ∧ cursor.base = base.place := by
  have meets := base.advance_inside
  subst behind
  exact ⟨meets.precedes.trans (Cursor.precedes_skip _ i), Cursor.skip_base _ _⟩

theorem callBounded_ok {env : Environment α} {recurse : Recursion α} {plugin : Plugin α} {name : Token}
    {state middle : State} {i j : Nat} {v w : Value α}
    (call : plugin.call state.cursor.rest = (ofBounded make).run state.cursor.rest)
    (opens : state.cursor.current.kind = .openParen)
    (ran : recurse none 0 { state with
      cursor := state.cursor.advance.inside state.cursor
      origins := state.cursor.place :: state.origins } = .ok v middle)
    (behind : middle.cursor = (state.cursor.advance.inside state.cursor).skip i)
    (answered : answerBounded make v (middle.cursor.since state.cursor) =
      .ok (w, ((middle.cursor.since state.cursor).skip j).offset)) :
    Run.callPlugin env recurse name plugin state = .ok (env.options.adopt w)
      { middle with
        cursor := state.cursor.skip (1 + (i + j))
        origins := middle.origins.drop 1
        trace := middle.trace ++ Run.notes env.options s!"{name.word}<plugin> -> {w.describe}" } := by
  have meets := state.cursor.advance_inside
  obtain ⟨onward, own⟩ := behind_inside behind
  have precedes := Cursor.advance_precedes.trans onward
  have ends : (middle.cursor.skip j).Meets (state.cursor.skip (1 + (i + j))) := by
    rw [behind, ← Cursor.skip_add, Cursor.skip_add state.cursor]
    exact (meets.skip (i + j)).symm
  have handed := handBack_since env name w (precedes.trans (Cursor.precedes_skip middle.cursor j)) ends
    (Cursor.skip_base _ _) middle
  have whole := callBounded_eq env recurse name call opens
  change _ = finishBounded env name make state.cursor (recurse none 0 { state with
    cursor := state.cursor.advance.inside state.cursor, origins := _ }) at whole
  rw [whole, ran, finishBounded_ok env name make v onward own, answered, Cursor.skip_since precedes, handed]

theorem callBounded (fresh : Local known 1 bound (recurse none 0) (recurse' none 0))
    (shares : env.SharesNames env' known) (name : Token) (opens : token.kind = .openParen)
    {state after : State} {answer : Value α} (knows : state.cursor.Knows known)
    (here : state.cursor.current = token)
    (call : plugin.call state.cursor.rest = (ofBounded make).run state.cursor.rest)
    (call' : plugin'.call = (ofBounded make).run)
    (done : Run.callPlugin env recurse name plugin state = .ok answer after) :
    ∃ count, 1 ≤ count ∧ state.Past count after ∧
      ∀ state', state.Shares count state' → state'.cursor.rest.length < bound →
        state'.Follows count answer state after
          (Run.callPlugin env' recurse' name plugin' state') := by
  subst here
  have whole := callBounded_eq env recurse name call opens
  have meets := state.cursor.advance_inside
  change _ = finishBounded env name make state.cursor (recurse none 0 { state with
    cursor := state.cursor.advance.inside state.cursor, origins := _ }) at whole
  cases ran : recurse none 0 { state with
      cursor := state.cursor.advance.inside state.cursor
      origins := state.cursor.place :: state.origins } with
  | error error failed =>
    rw [whole, ran] at done
    cases done
  | ok v middle =>
    -- The parenthesis is one token; `i` more belong to the expression and `j` to the bounds behind it.
    obtain ⟨i, -, past, follows⟩ := fresh _ _ v middle (meets.knows (knows.skip 1)) rfl ran
    have behind : middle.cursor = (state.cursor.advance.inside state.cursor).skip i := past.cursor
    obtain ⟨onward, own⟩ := behind_inside behind
    rw [ran, finishBounded_ok env name make v onward own] at whole
    obtain ⟨w, used, answered⟩ := handBack_ok (whole ▸ done)
    obtain ⟨j, has, rfl, bounds⟩ := answerBounded_local answered
    rw [callBounded_ok call opens ran behind answered] at done
    cases done
    have more : state.cursor.current.kind ≠ .finish := by rw [opens]; decide
    have read : state.cursor.HasTokens (1 + (i + j)) :=
      (Cursor.HasTokens.one more).add (meets.symm.hasTokens
        (past.tokens.add (behind ▸ has.of_since (Cursor.advance_precedes.trans onward))))
    refine ⟨1 + (i + j), by omega, ⟨rfl, read, congrArg (List.drop 1) past.origins⟩,
      fun state' states below => ?_⟩
    have opens' : state'.cursor.current.kind = .openParen := by
      rw [states.places.current (by omega), opens]
    have meets' := state'.cursor.advance_inside
    have inside := (show state.cursor.advance.Shares (i + j) state'.cursor.advance from
      states.places.rest).recount meets meets'
    obtain ⟨middle', ran', past', same⟩ := follows { state' with
      cursor := state'.cursor.advance.inside state'.cursor
      origins := state'.cursor.place :: state'.origins }
        ⟨inside.first, states.generator⟩ (Nat.lt_of_le_of_lt Cursor.advance_precedes.length_le below)
    have behind' : middle'.cursor = (state'.cursor.advance.inside state'.cursor).skip i := past'.cursor
    have further : middle.cursor.Shares j middle'.cursor := by
      rw [behind, behind']
      exact inside.rest
    obtain ⟨onward', -⟩ := behind_inside behind'
    have answered' := bounds _ (further.since (states.places.place 0 (Nat.zero_le _))
      (Cursor.advance_precedes.trans onward) (Cursor.advance_precedes.trans onward'))
    rw [callBounded_ok (congrFun call' _) opens' ran' behind' answered', shares.options]
    exact ⟨_, rfl, ⟨rfl, states.places.hasTokens read, congrArg (List.drop 1) past'.origins⟩,
      .trans ⟨same.generator, same.noted⟩ ⟨same.generator, _, rfl, rfl⟩⟩

theorem callPlugin (fresh : Local known 1 bound (recurse none 0) (recurse' none 0))
    (shares : env.SharesCalls env' known) (name : Token) (opens : token.kind = .openParen)
    (found : env.registry.get? name.word = some plugin) {next' : Run α (Value α)}
    (next : ∀ plugin', env'.registry.get? name.word = some plugin' →
      next' = Run.callPlugin env' recurse' name plugin') :
    LocalAt known token 1 bound (Run.callPlugin env recurse name plugin) next' := by
  intro state answer after knows here done
  rcases shares.plugins _ _ found state.cursor.rest with ⟨error, refuses⟩ | ⟨make, plugin', found', call, call'⟩
  · rw [callPlugin_eq, refuses] at done
    cases done
  · rw [next plugin' found']
    exact callBounded fresh shares.toShares name opens knows here call call' done

end Local

end MeshLang
