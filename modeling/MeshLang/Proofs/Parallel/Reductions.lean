import MeshLang.Proofs.Grammar.Steps
import MeshLang.Proofs.Parallel.Functions

namespace MeshLang

variable {α : Type}

namespace Run

def applied [Scalar α] (env : Environment α) (name : Token) (builtin : Builtin) (least most : Nat)
    (args : List (Argument α)) : Run α (Value α) := do
  if args.length < least || most < args.length then throw (wrongCount name least most args.length)
  lift (env.apply builtin name args)

def tabulated [Scalar α] (env : Environment α) (name : Token) (table : LookupTable α)
    (args : List (Argument α)) : Run α (Value α) := do
  let value ← lift (env.applyTable table name args)
  match args with
  | [a] => note env.options s!"{name.word}({a.value.describe}) -> scalar"
  | _ => pure ()
  return value

def namedPart [Scalar α] (env : Environment α) (v : Value α) : Run α (Value α) := do
  let token ← current
  if token.kind ≠ .word then
    throw (token.unexpected .invalidComponent (quoted v.kind.componentNames))
  let name ← advance
  let following ← current
  match TensorFunction.ofName? name.word with
  | some function =>
    if following.kind = .openParen then tensorPart env v name function
    else part env.options v name
  | none => part env.options v name

end Run

namespace Correspondence

variable {L : Correspondence α} {n n' : Nat} {β γ : Type} {R : β → γ → Prop}

theorem expect_bind (kind : TokenKind) (next : Token → Run α β) (state : State) :
    (Run.expect kind >>= next) state =
      if state.cursor.current.kind = kind then next state.cursor.current (behind state)
      else .error (state.cursor.current.wanted [kind.displayName]) state := by
  change EStateM.bind (Run.expect kind) next state = _
  have looked : Run.expect kind state =
      (if state.cursor.current.kind = kind then Run.advance
      else throw (state.cursor.current.wanted [kind.displayName]) : Run α Token) state := rfl
  unfold EStateM.bind
  rw [looked]
  by_cases found : state.cursor.current.kind = kind
  · rw [if_pos found, if_pos found]
    rfl
  · rw [if_neg found, if_neg found]
    rfl

theorem discard_bind (run : Run α β) (next : Unit → Run α γ) :
    (discard run >>= next) = (run >>= fun _ => next ()) := by
  funext state
  change EStateM.bind (EStateM.map _ run) next state = EStateM.bind run (fun _ => next ()) state
  unfold EStateM.bind EStateM.map
  cases run state <;> rfl

namespace Parallel

theorem expect {kind : TokenKind} (bars : kind.barsOperand = true) :
    L.Parallel n n' (fun token token' => L.tokens token token' ∧ token.kind = kind)
      (Run.expect kind : Run α Token) (Run.expect kind) := by
  intro state state' states _ _
  have related := L.current states.places
  have same := L.kind related
  refine .fromCurrent ?_
  rw [same]
  split
  · rename_i found
    exact .ok ⟨related, found⟩ .advance .advance
      ⟨L.advance states.places (found ▸ bars), states.generator⟩
  · exact .error (.wanted related _) rfl rfl states.generator

theorem expectBarred {kind : TokenKind} (bars : kind.barsOperand = true) (notWord : kind ≠ .word) :
    L.ParallelFrom L.barred n n' (fun token token' => L.tokens token token' ∧ token.kind = kind)
      (Run.expect kind : Run α Token) (Run.expect kind) := by
  intro state state' states below below'
  rcases states.places with places | missed
  · exact expect bars _ _ ⟨places, states.generator⟩ below below'
  · obtain ⟨word, opens, -⟩ := L.hole missed.1
    have other : TokenKind.openParen ≠ kind := by
      rintro rfl
      cases bars
    refine .fromCurrent ?_
    rw [word, opens, if_neg notWord.symm, if_neg other]
    exact .error (.missing missed _) rfl rfl states.generator

theorem expecting {P : Cursor → Cursor → Prop} (enters : L.Enters P) {kind : TokenKind}
    (more : kind ≠ .finish) {next : Token → Run α β} {next' : Token → Run α γ}
    (rest : ∀ t t', L.tokens t t' → t.kind = kind → L.ParallelFrom L.opens n n' R (next t) (next' t')) :
    L.ParallelFrom P n n' R (Run.expect kind >>= next) (Run.expect kind >>= next') := by
  intro state state' states below below'
  have related := enters.token states.places
  rw [expect_bind, expect_bind, L.kind related]
  split
  · rename_i found
    have opens := enters.opens states.places (found ▸ more)
    have shorter : (behind state).cursor.rest.length ≤ state.cursor.rest.length :=
      Cursor.advance_precedes.length_le
    have shorter' : (behind state').cursor.rest.length ≤ state'.cursor.rest.length :=
      Cursor.advance_precedes.length_le
    exact (rest _ _ related found (behind state) (behind state') ⟨opens, states.generator⟩ (by omega)
      (by omega)).fromBehind
  · exact .error (.wanted related _) rfl rfl states.generator

theorem expectingClosed {P : Cursor → Cursor → Prop} {next : Token → Run α β} {next' : Token → Run α γ}
    (rest : ∀ t t', L.tokens t t' → t.kind = .openParen → L.ParallelFrom P n n' R (next t) (next' t')) :
    L.ParallelFrom (L.Closed P) n n' R (Run.expect .openParen >>= next)
      (Run.expect .openParen >>= next') := by
  intro state state' states below below'
  have related := states.places.token
  rw [expect_bind, expect_bind, L.kind related]
  split
  · rename_i found
    have past : State.Related P (behind state) (behind state') :=
      ⟨states.places.inside found, states.generator⟩
    have shorter : (behind state).cursor.rest.length ≤ state.cursor.rest.length :=
      Cursor.advance_precedes.length_le
    have shorter' : (behind state').cursor.rest.length ≤ state'.cursor.rest.length :=
      Cursor.advance_precedes.length_le
    exact (rest _ _ related found _ _ past (by omega) (by omega)).fromBehind
  · exact .error (.wanted related _) rfl rfl states.generator

theorem close {opening opening' : Token} (related : L.tokens opening opening')
    (kind : opening.kind = .openParen) :
    L.Parallel n n' Eq (Run.close opening : Run α Unit) (Run.close opening') := by
  intro state state' states _ _
  have here := L.current states.places
  refine .fromCurrent ?_
  rw [L.kind here]
  split
  · rename_i closes
    exact .ok rfl .advance .advance
      ⟨L.advance states.places (by rw [closes]; rfl), states.generator⟩
  · exact .error (.unclosed here related kind) rfl rfl states.generator

theorem nameArgument : L.ParallelFrom (L.Closed L.places) n n' L.tokens (Run.nameArgument : Run α Token)
    Run.nameArgument := by
  refine expectingClosed fun opening opening' opened kind => ?_
  refine Parallel.bind (.expect rfl) fun name name' named => ?_
  exact .andThen (.close opened kind) fun _ => .pure named.1

theorem foreignArgument
    (old : ∀ {c c'}, L.places c c' → c.current.kind = .word → c.advance.current.kind = .openParen →
      c.current.word = "oldTime" → L.places c.advance.advance c'.advance.advance) :
    L.ParallelFrom (L.Closed L.places) n n'
      (fun answer answer' => L.tokens answer.1 answer'.1 ∧ answer.2 = answer'.2)
      (Run.foreignArgument : Run α (Token × Bool)) Run.foreignArgument := by
  refine expectingClosed fun opening opening' opened kind => ?_
  have last {name name' : Token} (related : L.tokens name name') (old : Bool) :
      L.Parallel n n' (fun answer answer' => L.tokens answer.1 answer'.1 ∧ answer.2 = answer'.2)
        (do Run.close opening; return (name, old) : Run α (Token × Bool))
        (do Run.close opening'; return (name', old)) :=
    .andThen (.close opened kind) fun _ => .pure ⟨related, rfl⟩
  intro state state' states below below'
  have first := L.current states.places
  rw [expect_bind, expect_bind, L.kind first]
  split
  · rename_i word
    have reads : L.Reads state state' := reads states (by rw [word]; decide)
    have past := reads.past (by rw [word]; rfl)
    have shorter := reads.length_lt (Nat.lt_succ_of_lt below)
    have shorter' := reads.length_lt' (Nat.lt_succ_of_lt below')
    refine Arrives.fromBehind (.fromCurrent ?_)
    dsimp only
    rw [L.word first, L.kind (L.current past.places)]
    split
    · rename_i isOld
      obtain ⟨isOld, opens⟩ : state.cursor.current.word = "oldTime" ∧
          (behind state).cursor.current.kind = .openParen := by simpa using isOld
      have closed : State.Related (L.Closed L.places) (behind state) (behind state') :=
        ⟨⟨L.current past.places, fun _ => old states.places word opens isOld⟩, past.generator⟩
      exact (nameArgument.bind fun name name' related => last related _) _ _ closed shorter shorter'
    · exact last first _ _ _ past shorter shorter'
  · exact .error (.wanted first _) rfl rfl states.generator

theorem seedOf {token token' : Token} (related : L.tokens token token') :
    L.Parallel n n' Eq (Run.seedOf token : Run α UInt64) (Run.seedOf token') := by
  unfold Run.seedOf
  rw [L.text related, L.word related]
  dsimp only
  split
  · exact .pure rfl
  · exact .throw (.mismatch (L.start related) (by decide))

theorem seedArgument :
    L.ParallelFrom (L.Closed L.barred) n n' Eq (Run.seedArgument : Run α (Option UInt64))
      Run.seedArgument := by
  refine expectingClosed fun opening opening' opened kind => ?_
  have last (n n' : Nat) (seed : Option UInt64) : L.Parallel n n' Eq
      (do Run.close opening; return seed : Run α (Option UInt64))
      (do Run.close opening'; return seed) :=
    .andThen (.close opened kind) fun _ => .pure rfl
  intro state state' states below below'
  refine .fromCurrent ?_
  dsimp only
  rcases states.places with places | missed
  rotate_left
  · obtain ⟨word, opens, -⟩ := L.hole missed.1
    rw [word, opens]
    exact .error (.taken (missed.2 _ _)) rfl rfl states.generator
  have here := L.current places
  have states : L.States state state' := ⟨places, states.generator⟩
  rw [L.kind here]
  split
  · rename_i integer
    have reads : L.Reads state state' := reads states (by rw [integer]; decide)
    rw [discard_bind, discard_bind]
    exact (reads.arrivesPast (by rw [integer]; rfl)
      (.andThen (.seedOf here) fun seed => last _ _ (some seed)) (Nat.lt_succ_of_lt below)
      (Nat.lt_succ_of_lt below')).fromBehind
  · split
    · exact last n n' none state state' states below below'
    · exact .error (.unexpected here) rfl rfl states.generator

theorem finish (v : Value α) :
    L.Parallel n n' Eq (Run.finish v : Run α Unit) (Run.finish v) := by
  refine .bind .current fun token token' here => ?_
  rw [L.kind here]
  split
  · exact .pure rfl
  · exact .throw (.invalid here)
  · exact .throw (.unexpected here)

section Reductions

variable [Scalar α]

omit [Scalar α] in
theorem relabelled {kind : Kind} (result : Except (FieldError α) (Value α)) :
    L.Parallel n n' Eq (do return (← Run.liftField result).relabel kind)
      (do return (← Run.liftField result).relabel kind) :=
  .andThen (.liftField result) fun _ => .pure rfl

theorem number {token token' : Token} (related : L.tokens token token') :
    L.Parallel n n' Eq (Run.number token : Run α (Value α)) (Run.number token') := by
  unfold Run.number
  rw [L.text related]
  split
  · exact .pure rfl
  · exact .throw (.number related)

end Reductions

end Parallel

end Correspondence

namespace Environment.Shares

open Correspondence

variable {env env' : Environment α} {L : Correspondence α} {n n' : Nat}

theorem mesh (shares : env.Shares env' L) : env'.mesh = env.mesh := by
  unfold Environment.mesh
  rw [shares.repository]

theorem note (shares : env.Shares env' L) {rule rule' : String} :
    L.Parallel n n' Eq (Run.note env.options rule : Run α Unit) (Run.note env'.options rule') := by
  rw [shares.options]
  exact .noted

theorem conform (shares : env.Shares env' L) (v : Value α) (type : ValueType)
    {start stop start' stop' : Nat} (same : L.exact → start = start' ∧ stop = stop') :
    L.Same Eq (Run.conform env v type start stop) (Run.conform env' v type start' stop') := by
  cases located : v.location with
  | none | some =>
    simp only [Run.conform, located, shares.repository]
    split
    · exact .ok rfl
    · refine .error (.formed fun exactly => ?_)
      obtain ⟨rfl, rfl⟩ := same exactly
      exact ⟨rfl, rfl⟩

section Reductions

variable [Scalar α]

theorem random (shares : env.Shares env' L) (isNormal : Bool) (seed : Option UInt64) :
    L.Parallel n n' Eq (Run.random env isNormal seed) (Run.random env' isNormal seed) := by
  intro state state' states _ _
  cases seed with
  | some seed =>
    simp only [Run.random, shares.mesh]
    exact .ok rfl .refl .refl states
  | none =>
    change L.Arrives Eq state state'
      (.ok (Value.scalar .volume (Generator.sample isNormal env.mesh.cells.length state.generator).1)
        { state with
          generator := (Generator.sample isNormal env.mesh.cells.length state.generator).2 })
      (.ok (Value.scalar .volume (Generator.sample isNormal env'.mesh.cells.length state'.generator).1)
        { state' with
          generator := (Generator.sample isNormal env'.mesh.cells.length state'.generator).2 })
    rw [shares.mesh, states.generator]
    exact .ok rfl ⟨⟨.refl, rfl⟩, rfl⟩ ⟨⟨.refl, rfl⟩, rfl⟩ ⟨states.places, rfl⟩

theorem applied_alike (shares : env.Shares env' L) {name name' : Token}
    (named : L.tokens name name') (builtin : Builtin) (least most : Nat)
    {args args' : List (Argument α)} (alike : List.Forall₂ L.Matches args args') :
    L.Parallel n n' Eq (Run.applied env name builtin least most args)
      (Run.applied env' name' builtin least most args') := by
  unfold Run.applied
  rw [shares.functions.1, alike.length_eq]
  dsimp only
  split
  · exact .bind (.lift (.wrongCount (R := fun _ _ => False) named _ _ _)) fun _ _ never => never.elim
  · exact .lift (apply_alike named alike builtin)

theorem tabulated_alike (shares : env.Shares env' L) {name name' : Token}
    (named : L.tokens name name') (table : LookupTable α) {args args' : List (Argument α)}
    (alike : List.Forall₂ L.Matches args args') :
    L.Parallel n n' Eq (Run.tabulated env name table args) (Run.tabulated env' name' table args') := by
  unfold Run.tabulated
  rw [shares.functions.2.1]
  refine .andThen (.lift (applyTable_alike named alike table)) fun value => ?_
  rcases alike with _ | ⟨_, _ | ⟨_, _⟩⟩
  · exact .pure rfl
  · exact .andThen shares.note fun _ => .pure rfl
  · exact .pure rfl

theorem unary (shares : env.Shares env' L) (op : UnaryOp) (v : Value α)
    {place place' : Token} (related : L.tokens place place') :
    L.Parallel n n' Eq (Run.unary env.options op v place) (Run.unary env'.options op v place') := by
  unfold Run.unary
  split
  · exact .throw (.mismatch (L.start related) (by decide))
  · exact .andThen shares.note fun _ => Parallel.relabelled _

theorem binary (shares : env.Shares env' L) (op : BinaryOp) (v w : Value α)
    {place place' : Token} (related : L.tokens place place') :
    L.Parallel n n' Eq (Run.binary env.options op v w place)
      (Run.binary env'.options op v w place') := by
  unfold Run.binary
  split
  · exact .throw (.mismatch (L.start related) (by decide))
  · refine .andThen (.lift (.locations (L.start related) _ v w)) fun _ => ?_
    exact .andThen shares.note fun _ => Parallel.relabelled _

theorem choice (shares : env.Shares env' L) (condition v w : Value α)
    {question question' colon colon' : Token} (asked : L.tokens question question')
    (parted : L.tokens colon colon') :
    L.Parallel n n' Eq (Run.choice env.options condition v w question colon)
      (Run.choice env'.options condition v w question' colon') := by
  unfold Run.choice
  split
  · exact .throw (.mismatch (L.start parted) (by decide))
  · refine .andThen (.lift (.locations (L.start asked) _ condition v)) fun _ => ?_
    refine .andThen (.lift (.locations (L.start parted) _ v w)) fun _ => ?_
    refine .andThen (.lift (.locations (L.start asked) _ condition w)) fun _ => ?_
    exact .andThen shares.note fun _ => Parallel.relabelled _

omit [Scalar α] in
theorem part (shares : env.Shares env' L) (v : Value α) {name name' : Token}
    (named : L.tokens name name') :
    L.Parallel n n' Eq (Run.part env.options v name) (Run.part env'.options v name') := by
  unfold Run.part
  rw [L.word named]
  split
  · exact .andThen shares.note fun _ => .pure rfl
  · refine .throw (.hinted named (by decide) (noPlace_of_head ?_))
    generalize v.kind = kind
    cases kind <;> decide

theorem tensorPart (shares : env.Shares env' L) (v : Value α) {name name' : Token}
    (named : L.tokens name name') (function : TensorFunction) :
    L.ParallelFrom (L.Closed L.barred) n n' Eq (Run.tensorPart env v name function)
      (Run.tensorPart env' v name' function) := by
  unfold Run.tensorPart
  rw [discard_bind (Run.expect .openParen), discard_bind (Run.expect .openParen)]
  refine Parallel.expectingClosed fun _ _ _ _ => ?_
  rw [discard_bind (Run.expect .closeParen), discard_bind (Run.expect .closeParen)]
  refine .bind (Parallel.expectBarred rfl (by decide)) fun _ _ _ => ?_
  rw [L.word named]
  have applied : L.Parallel n n' Eq
      (do
        Run.note env.options s!"{v.describe}.{name.word}() -> {(function.resultKind v.kind).text}"
        Run.liftField (v.applyTensor function))
      (do
        Run.note env'.options s!"{v.describe}.{name.word}() -> {(function.resultKind v.kind).text}"
        Run.liftField (v.applyTensor function)) :=
    .andThen shares.note fun _ => .liftField _
  split
  · exact .thrown (.mismatch (L.start named) (by decide)) _ _
  · exact applied

theorem namedPart (shares : env.Shares env' L) (v : Value α) {state state' : State}
    (states : L.States state state') (below : state.cursor.rest.length < n)
    (below' : state'.cursor.rest.length < n')
    (inside : state.cursor.current.kind = .word → state.cursor.advance.current.kind = .openParen →
      L.barred state.cursor.advance.advance state'.cursor.advance.advance) :
    L.Arrives Eq state state' (Run.namedPart env v state) (Run.namedPart env' v state') := by
  have named := L.current states.places
  refine .fromCurrent ?_
  rw [L.kind named]
  split
  · exact .error (.unexpected named) rfl rfl states.generator
  · rename_i word
    have word : state.cursor.current.kind = .word := Decidable.not_not.mp word
    have reads : L.Reads state state' := reads states (by rw [word]; decide)
    have past : L.States (behind state) (behind state') := reads.past (by rw [word]; rfl)
    have closed : State.Related (L.Closed L.barred) (behind state) (behind state') :=
      ⟨⟨L.current past.places, inside word⟩, past.generator⟩
    have shorter := reads.length_lt (Nat.lt_succ_of_lt below)
    have shorter' := reads.length_lt' (Nat.lt_succ_of_lt below')
    have part := shares.part v named _ _ past shorter shorter'
    change L.Arrives Eq state state'
      ((match TensorFunction.ofName? state.cursor.current.word with
        | some function =>
          if (behind state).cursor.current.kind = .openParen then
            Run.tensorPart env v state.cursor.current function
          else Run.part env.options v state.cursor.current
        | none => Run.part env.options v state.cursor.current : Run α (Value α)) (behind state))
      ((match TensorFunction.ofName? state'.cursor.current.word with
        | some function =>
          if (behind state').cursor.current.kind = .openParen then
            Run.tensorPart env' v state'.cursor.current function
          else Run.part env'.options v state'.cursor.current
        | none => Run.part env'.options v state'.cursor.current : Run α (Value α)) (behind state'))
    rw [L.word named, L.kind (L.current past.places)]
    cases TensorFunction.ofName? state.cursor.current.word with
    | none => exact part.fromBehind
    | some function =>
      dsimp only
      split
      · exact (shares.tensorPart v named function _ _ closed shorter shorter').fromBehind
      · exact part.fromBehind

theorem component (shares : env.Shares env' L) (v : Value α) {state state' : State}
    (states : L.States state state') (point : state.cursor.current.kind = .point)
    (below : state.cursor.rest.length < n + 1) (below' : state'.cursor.rest.length < n' + 1) :
    L.Arrives Eq (behind state) (behind state') (Run.component env v state)
      (Run.component env' v state') := by
  have reads : L.Reads state state' := reads states (by rw [point]; decide)
  have part := shares.namedPart v (reads.past (by rw [point]; rfl)) (reads.length_lt below)
    (reads.length_lt' below') fun word opens => L.parted states.places point word opens
  exact part

end Reductions

end Environment.Shares

end MeshLang
