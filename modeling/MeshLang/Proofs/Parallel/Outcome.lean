import MeshLang.Evaluation
import MeshLang.Proofs.Token.Advance

namespace MeshLang

variable {α β γ β' γ' : Type}

def TokenKind.barsOperand : TokenKind → Bool
  | .word | .integer | .decimal | .piWord | .trueWord | .falseWord | .closeParen | .point
  | .semicolon | .invalid | .finish => true
  | _ => false

/-- How the places of two texts and the tokens there correspond. Where an operand may start there may
also be a hole: a name on one side, an expression in parentheses on the other one, and only as a whole
do they correspond. In parentheses that follow the name of a part there is none, or both sides fail
there. `starts` is what the tokens have in common at which two arguments start. Failures in `faults` are
taken to correspond wherever they arise. It does not matter from where places are counted. If the
correspondence is exact it relates nothing but equals. -/
structure Correspondence (α : Type) where
  places : Cursor → Cursor → Prop
  holes : Cursor → Cursor → Prop
  tokens : Token → Token → Prop
  starts : Token → Token → Prop
  exact : Prop
  faults : EvalError α → EvalError α → Prop
  current : ∀ {c c'}, places c c' → tokens c.current c'.current
  advance : ∀ {c c'}, places c c' → c.current.kind.barsOperand = true → places c.advance c'.advance
  opened : ∀ {c c'}, places c c' → c.current.kind ≠ .finish →
    places c.advance c'.advance ∨ holes c.advance c'.advance
  parted : ∀ {c c'}, places c c' → c.current.kind = .point → c.advance.current.kind = .word →
    c.advance.advance.current.kind = .openParen →
    places c.advance.advance.advance c'.advance.advance.advance ∨
      (holes c.advance.advance.advance c'.advance.advance.advance ∧ ∀ fault expected,
        faults (c.advance.advance.advance.current.unexpected fault expected)
          (c'.advance.advance.advance.current.unexpected fault expected))
  recount : ∀ {c c' d d'}, places c c' → c.Meets d → c'.Meets d' → places d d'
  recountHole : ∀ {c c' d d'}, holes c c' → c.Meets d → c'.Meets d' → holes d d'
  hole : ∀ {c c'}, holes c c' →
    c.current.kind = .word ∧ c'.current.kind = .openParen ∧ starts c.current c'.current
  kind : ∀ {t t'}, tokens t t' → t'.kind = t.kind
  text : ∀ {t t'}, tokens t t' → t'.text = t.text
  start : ∀ {t t'}, tokens t t' → starts t t'
  samePlace : exact → ∀ {c c'}, places c c' → c.Meets c'
  sameHole : exact → ∀ {c c'}, ¬ holes c c'
  sameToken : exact → ∀ {t t'}, tokens t t' → t = t'
  sameStart : exact → ∀ {t t'}, starts t t' → t = t'
  sameFault : exact → ∀ {error error'}, faults error error' → error = error'

def EvalError.IsPlaceless : EvalError α → Prop
  | .field _ | .mesh _ | .repository _ | .unknownField _ | .unknownFunction _ => True
  | _ => False

def PluginError.IsPlaceless : PluginError α → Prop
  | .wrongType _ _ | .invertedBounds _ _ => True
  | _ => False

def NoPlace (hint : String) : Prop := ∀ place : Nat, hint ≠ s!"parenthesis opened at {place}"

namespace Correspondence

def opens (L : Correspondence α) (c c' : Cursor) : Prop := L.places c c' ∨ L.holes c c'

def missed (L : Correspondence α) (c c' : Cursor) : Prop :=
  L.holes c c' ∧ ∀ fault expected,
    L.faults (c.current.unexpected fault expected) (c'.current.unexpected fault expected)

def barred (L : Correspondence α) (c c' : Cursor) : Prop := L.places c c' ∨ L.missed c c'

/-- How failures arise at tokens that correspond. -/
inductive Fails (L : Correspondence α) : EvalError α → EvalError α → Prop where
  | taken {error error' : EvalError α} : L.faults error error' → Fails L error error'
  | plain {error : EvalError α} : error.IsPlaceless → Fails L error error
  | invalid {t t' : Token} : L.tokens t t' → Fails L t.invalid t'.invalid
  | unexpected {t t' : Token} {fault : Fault} {expected : List String} : L.tokens t t' →
      Fails L (t.unexpected fault expected) (t'.unexpected fault expected)
  | unclosed {t t' opening opening' : Token} : L.tokens t t' → L.tokens opening opening' →
      opening.kind = .openParen → Fails L (t.unclosed opening) (t'.unclosed opening')
  | number {t t' : Token} {message : String} : L.tokens t t' →
      Fails L (.lexical (t.diagnostic .invalidNumber message t.word []))
        (.lexical (t'.diagnostic .invalidNumber message t'.word []))
  | mismatch {t t' : Token} {fault : Fault} {message : String} {expected : List String} :
      L.starts t t' → fault ≠ .wrongResultType →
      Fails L (t.mismatch fault message expected) (t'.mismatch fault message expected)
  | hinted {t t' : Token} {fault : Fault} {message hint : String} {expected : List String} :
      L.tokens t t' → fault ≠ .wrongResultType → NoPlace hint →
      Fails L ((t.mismatch fault message expected).withHint hint)
        ((t'.mismatch fault message expected).withHint hint)
  | formed {message found : String} {expected : List String} {start stop start' stop' : Nat} :
      (L.exact → start = start' ∧ stop = stop') →
      Fails L (.grammar ⟨.wrongResultType, message, start, stop, found, expected, none⟩)
        (.grammar ⟨.wrongResultType, message, start', stop', found, expected, none⟩)
  | expected {name what : String} {offset offset' : Nat} : (L.exact → offset = offset') →
      Fails L (.plugin name (.expected what offset)) (.plugin name (.expected what offset'))
  | argument {name : String} {offset offset' : Nat} {error error' : EvalError α} :
      (L.exact → offset = offset') → Fails L error error' →
      Fails L (.plugin name (.argument offset error)) (.plugin name (.argument offset' error'))
  | overrun {name : String} {consumed consumed' available available' : Nat} :
      (L.exact → consumed = consumed' ∧ available = available') →
      Fails L (.plugin name (.overrun consumed available)) (.plugin name (.overrun consumed' available'))
  | refused {name : String} {error : PluginError α} : error.IsPlaceless →
      Fails L (.plugin name error) (.plugin name error)

variable {L : Correspondence α}

theorem Fails.eq (exactly : L.exact) {error error' : EvalError α} (fails : L.Fails error error') :
    error = error' := by
  induction fails with
  | taken same => exact L.sameFault exactly same
  | plain | refused => rfl
  | invalid related | unexpected related | number related | hinted related =>
    rw [L.sameToken exactly related]
  | unclosed related opening => rw [L.sameToken exactly related, L.sameToken exactly opening]
  | mismatch related => rw [L.sameStart exactly related]
  | formed same => rw [(same exactly).1, (same exactly).2]
  | expected same => rw [same exactly]
  | argument same _ ih => rw [same exactly, ih]
  | overrun same => rw [(same exactly).1, (same exactly).2]

theorem Fails.wanted {t t' : Token} (related : L.tokens t t') (expected : List String) :
    L.Fails (t.wanted expected) (t'.wanted expected) := by
  unfold Token.wanted
  rw [L.kind related]
  split
  · exact .invalid related
  · exact .unexpected related

theorem Fails.missing {c c' : Cursor} (missed : L.missed c c') (expected : List String) :
    L.Fails (c.current.wanted expected) (c'.current.wanted expected) := by
  obtain ⟨word, opens, -⟩ := L.hole missed.1
  unfold Token.wanted
  rw [word, opens]
  exact .taken (missed.2 _ _)

theorem word {t t' : Token} (related : L.tokens t t') : t'.word = t.word := by
  rw [Token.word, Token.word, L.text related]

inductive Same (L : Correspondence α) (R : β → γ → Prop) :
    Except (EvalError α) β → Except (EvalError α) γ → Prop where
  | ok {v : β} {w : γ} : R v w → Same L R (.ok v) (.ok w)
  | error {error error' : EvalError α} : L.Fails error error' → Same L R (.error error) (.error error')

namespace Same

variable {R : β → γ → Prop} {Q : β' → γ' → Prop}

theorem bind {first : Except (EvalError α) β} {first' : Except (EvalError α) γ}
    {next : β → Except (EvalError α) β'} {next' : γ → Except (EvalError α) γ'}
    (same : L.Same R first first') (rest : ∀ v w, R v w → L.Same Q (next v) (next' w)) :
    L.Same Q (first >>= next) (first' >>= next') := by
  cases same with
  | ok related => exact rest _ _ related
  | error fails => exact .error fails

theorem mapError {ε : Type} {wrap : ε → EvalError α} (placeless : ∀ error, (wrap error).IsPlaceless)
    (result : Except ε β) : L.Same Eq (result.mapError wrap) (result.mapError wrap) := by
  cases result with
  | ok v => exact .ok rfl
  | error error => exact .error (.plain (placeless error))

theorem field (result : Except (FieldError α) β) :
    L.Same Eq (result.mapError .field) (result.mapError .field) := by
  refine mapError (fun error => ?_) result
  trivial

theorem mesh (result : Except MeshError β) :
    L.Same Eq (result.mapError .mesh) (result.mapError .mesh) := by
  refine mapError (fun error => ?_) result
  trivial

theorem repository (result : Except RepositoryError β) :
    L.Same Eq (result.mapError .ofRepository) (result.mapError .ofRepository) := by
  refine mapError (fun error => ?_) result
  cases error <;> trivial

theorem map {f : β → β'} {g : γ → γ'} {result : Except (EvalError α) β}
    {other : Except (EvalError α) γ} (same : L.Same R result other)
    (related : ∀ v w, R v w → Q (f v) (g w)) : L.Same Q (result.map f) (other.map g) := by
  cases same with
  | ok holds => exact .ok (related _ _ holds)
  | error fails => exact .error fails

end Same

end Correspondence

/-- States at related places. What has been noted so far does not matter. -/
structure State.Related (P : Cursor → Cursor → Prop) (state state' : State) : Prop where
  places : P state.cursor state'.cursor
  generator : state'.generator = state.generator

abbrev Correspondence.States (L : Correspondence α) : State → State → Prop := State.Related L.places

structure State.Goes (before after : State) : Prop where
  precedes : before.cursor.Precedes after.cursor
  origins : after.origins = before.origins

structure State.Proceeds (before after : State) : Prop extends State.Goes before after where
  base : after.cursor.base = before.cursor.base

theorem State.Goes.refl {state : State} : state.Goes state := ⟨.refl, rfl⟩

theorem State.Goes.trans {before state after : State} (first : before.Goes state)
    (rest : state.Goes after) : before.Goes after :=
  ⟨first.precedes.trans rest.precedes, rest.origins.trans first.origins⟩

namespace State.Proceeds

variable {before state after : State}

theorem refl : state.Proceeds state := ⟨⟨.refl, rfl⟩, rfl⟩

theorem trans (first : before.Proceeds state) (rest : state.Proceeds after) : before.Proceeds after :=
  ⟨first.toGoes.trans rest.toGoes, rest.base.trans first.base⟩

theorem advance : state.Proceeds { state with cursor := state.cursor.advance } :=
  ⟨⟨Cursor.advance_precedes, rfl⟩, Cursor.advance_base _⟩

end State.Proceeds

theorem Run.current_bind (next : Token → Run α β) (state : State) :
    (Run.current >>= next) state = next state.cursor.current state := rfl

namespace Correspondence

inductive Arrives (L : Correspondence α) (R : β → γ → Prop) (before before' : State) :
    EStateM.Result (EvalError α) State β → EStateM.Result (EvalError α) State γ → Prop where
  | ok {v : β} {w : γ} {after after' : State} : R v w → before.Proceeds after →
      before'.Proceeds after' → L.States after after' → Arrives L R before before' (.ok v after) (.ok w after')
  | error {error error' : EvalError α} {after after' : State} : L.Fails error error' →
      after.origins = before.origins → after'.origins = before'.origins →
      after'.generator = after.generator → Arrives L R before before' (.error error after) (.error error' after')

/-- From related places, with fewer characters ahead than two bounds, two steps arrive alike. -/
def ParallelFrom (L : Correspondence α) (P : Cursor → Cursor → Prop) (n n' : Nat) (R : β → γ → Prop)
    (run : Run α β) (run' : Run α γ) : Prop :=
  ∀ state state', State.Related P state state' → state.cursor.rest.length < n →
    state'.cursor.rest.length < n' → L.Arrives R state state' (run state) (run' state')

abbrev Parallel (L : Correspondence α) : Nat → Nat → (β → γ → Prop) → Run α β → Run α γ → Prop :=
  L.ParallelFrom L.places

variable {L : Correspondence α} {R : β → γ → Prop} {Q : β' → γ' → Prop} {n n' : Nat}

namespace Arrives

variable {before before' state state' : State}

theorem after {result : EStateM.Result (EvalError α) State β}
    {other : EStateM.Result (EvalError α) State γ} (arrives : L.Arrives R state state' result other)
    (proceeds : before.Proceeds state) (proceeds' : before'.Proceeds state') :
    L.Arrives R before before' result other := by
  cases arrives with
  | ok related onward onward' states =>
    exact .ok related (proceeds.trans onward) (proceeds'.trans onward') states
  | error fails origins origins' generator =>
    exact .error fails (origins.trans proceeds.origins) (origins'.trans proceeds'.origins) generator

theorem bind {first : Run α β} {first' : Run α γ} {next : β → Run α β'} {next' : γ → Run α γ'}
    (arrives : L.Arrives R before before' (first state) (first' state'))
    (rest : ∀ v w after after', R v w → before.Proceeds after → before'.Proceeds after' →
      L.States after after' → L.Arrives Q after after' (next v after) (next' w after')) :
    L.Arrives Q before before' ((first >>= next) state) ((first' >>= next') state') := by
  change L.Arrives Q before before' (EStateM.bind first next state) (EStateM.bind first' next' state')
  unfold EStateM.bind
  generalize first state = result at arrives
  generalize first' state' = other at arrives
  cases arrives with
  | ok related onward onward' states =>
    exact (rest _ _ _ _ related onward onward' states).after onward onward'
  | error fails origins origins' generator => exact .error fails origins origins' generator

theorem fromCurrent {next : Token → Run α β} {next' : Token → Run α γ}
    (rest : L.Arrives R before before' (next state.cursor.current state)
      (next' state'.cursor.current state')) :
    L.Arrives R before before' ((Run.current >>= next) state) ((Run.current >>= next') state') :=
  rest

end Arrives

namespace ParallelFrom

variable {P : Cursor → Cursor → Prop}

theorem bind {first : Run α β} {first' : Run α γ} {next : β → Run α β'} {next' : γ → Run α γ'}
    (parallel : L.ParallelFrom P n n' R first first')
    (rest : ∀ v w, R v w → L.Parallel n n' Q (next v) (next' w)) :
    L.ParallelFrom P n n' Q (first >>= next) (first' >>= next') := by
  intro state state' states below below'
  refine (parallel state state' states below below').bind ?_
  intro v w after after' related onward onward' states
  exact rest v w related after after' states (Nat.lt_of_le_of_lt onward.precedes.length_le below)
    (Nat.lt_of_le_of_lt onward'.precedes.length_le below')

theorem andThen {first first' : Run α β} {next : β → Run α β'} {next' : β → Run α γ'}
    (parallel : L.ParallelFrom P n n' Eq first first')
    (rest : ∀ v, L.Parallel n n' Q (next v) (next' v)) :
    L.ParallelFrom P n n' Q (first >>= next) (first' >>= next') :=
  .bind parallel fun v _ same => same ▸ rest v

theorem throw {error error' : EvalError α} (fails : L.Fails error error') :
    L.ParallelFrom P n n' R (MonadExcept.throw error : Run α β) (MonadExcept.throw error' : Run α γ) :=
  fun _ _ states _ _ => .error fails rfl rfl states.generator

theorem thrown {error error' : EvalError α} (fails : L.Fails error error')
    (next : β → Run α β') (next' : γ → Run α γ') :
    L.ParallelFrom P n n' Q ((MonadExcept.throw error : Run α β) >>= next)
      ((MonadExcept.throw error' : Run α γ) >>= next') :=
  bind (throw (R := fun _ _ => False) fails) fun _ _ never => never.elim

end ParallelFrom

namespace Parallel

theorem bind {first : Run α β} {first' : Run α γ} {next : β → Run α β'} {next' : γ → Run α γ'}
    (parallel : L.Parallel n n' R first first')
    (rest : ∀ v w, R v w → L.Parallel n n' Q (next v) (next' w)) :
    L.Parallel n n' Q (first >>= next) (first' >>= next') :=
  ParallelFrom.bind parallel rest

theorem andThen {first first' : Run α β} {next : β → Run α β'} {next' : β → Run α γ'}
    (parallel : L.Parallel n n' Eq first first')
    (rest : ∀ v, L.Parallel n n' Q (next v) (next' v)) :
    L.Parallel n n' Q (first >>= next) (first' >>= next') :=
  ParallelFrom.andThen parallel rest

theorem pure {v : β} {w : γ} (related : R v w) :
    L.Parallel n n' R (Pure.pure v : Run α β) (Pure.pure w) :=
  fun _ _ states _ _ => .ok related .refl .refl states

theorem throw {error error' : EvalError α} (fails : L.Fails error error') :
    L.Parallel n n' R (MonadExcept.throw error : Run α β) (MonadExcept.throw error' : Run α γ) :=
  ParallelFrom.throw fails

theorem thrown {error error' : EvalError α} (fails : L.Fails error error')
    (next : β → Run α β') (next' : γ → Run α γ') :
    L.Parallel n n' Q ((MonadExcept.throw error : Run α β) >>= next)
      ((MonadExcept.throw error' : Run α γ) >>= next') :=
  ParallelFrom.thrown fails next next'

theorem lift {result : Except (EvalError α) β} {other : Except (EvalError α) γ}
    (same : L.Same R result other) : L.Parallel n n' R (Run.lift result) (Run.lift other) := by
  cases same with
  | ok related => exact .pure related
  | error fails => exact .throw fails

theorem liftField (result : Except (FieldError α) β) :
    L.Parallel n n' Eq (Run.liftField result) (Run.liftField result) :=
  .lift (.field result)

theorem current : L.Parallel n n' L.tokens (Run.current : Run α Token) Run.current :=
  fun _ _ states _ _ => .ok (L.current states.places) .refl .refl states

theorem noted {options : Options} {rule rule' : String} :
    L.Parallel n n' Eq (Run.note options rule : Run α Unit) (Run.note options rule') := by
  intro state state' states _ _
  unfold Run.note
  cases options.trace with
  | false => exact .ok rfl .refl .refl states
  | true => exact .ok rfl ⟨⟨.refl, rfl⟩, rfl⟩ ⟨⟨.refl, rfl⟩, rfl⟩ ⟨states.places, states.generator⟩

end Parallel

def behind (state : State) : State := { state with cursor := state.cursor.advance }

structure Readable (L : Correspondence α) (c c' : Cursor) : Prop where
  token : L.tokens c.current c'.current
  more : c.current.kind ≠ .finish
  opens : L.opens c.advance c'.advance
  stays : c.current.kind.barsOperand = true → L.places c.advance c'.advance

abbrev Reads (L : Correspondence α) : State → State → Prop := State.Related L.Readable

theorem reads {state state' : State} (states : L.States state state')
    (more : state.cursor.current.kind ≠ .finish) : L.Reads state state' :=
  ⟨⟨L.current states.places, more, L.opened states.places more, L.advance states.places⟩, states.generator⟩

structure Enters (L : Correspondence α) (P : Cursor → Cursor → Prop) : Prop where
  token : ∀ {c c'}, P c c' → L.tokens c.current c'.current
  opens : ∀ {c c'}, P c c' → c.current.kind ≠ .finish → L.opens c.advance c'.advance
  recount : ∀ {c c' d d'}, P c c' → c.Meets d → c'.Meets d' → P d d'

theorem recount_opens {c c' d d' : Cursor} (opens : L.opens c c') (meets : c.Meets d)
    (meets' : c'.Meets d') : L.opens d d' :=
  opens.imp (L.recount · meets meets') (L.recountHole · meets meets')

theorem Readable.recount {c c' d d' : Cursor} (reads : L.Readable c c') (meets : c.Meets d)
    (meets' : c'.Meets d') : L.Readable d d' where
  token := by
    rw [meets.current, meets'.current]
    exact reads.token
  more := by
    rw [meets.current]
    exact reads.more
  opens := recount_opens reads.opens meets.advance meets'.advance
  stays bars := by
    rw [meets.current] at bars
    exact L.recount (reads.stays bars) meets.advance meets'.advance

theorem enters_places : L.Enters L.places := ⟨L.current, L.opened, L.recount⟩

theorem enters_readable : L.Enters L.Readable := ⟨(·.token), fun reads _ => reads.opens, .recount⟩

structure Closed (L : Correspondence α) (P : Cursor → Cursor → Prop) (c c' : Cursor) : Prop where
  token : L.tokens c.current c'.current
  inside : c.current.kind = .openParen → P c.advance c'.advance

namespace Reads

variable {state state' : State}

theorem token (reads : L.Reads state state') :
    L.tokens state.cursor.current state'.cursor.current := reads.places.token

theorem more (reads : L.Reads state state') : state.cursor.current.kind ≠ .finish := reads.places.more

theorem states (reads : L.Reads state state') : State.Related L.opens (behind state) (behind state') :=
  ⟨reads.places.opens, reads.generator⟩

theorem past (reads : L.Reads state state') (bars : state.cursor.current.kind.barsOperand = true) :
    L.States (behind state) (behind state') :=
  ⟨reads.places.stays bars, reads.generator⟩

theorem length_lt (reads : L.Reads state state') (below : state.cursor.rest.length < n + 1) :
    (behind state).cursor.rest.length < n :=
  Nat.lt_of_lt_of_le (Cursor.advance_length reads.more) (Nat.le_of_lt_succ below)

theorem length_lt' (reads : L.Reads state state') (below : state'.cursor.rest.length < n + 1) :
    (behind state').cursor.rest.length < n := by
  have more : state'.cursor.current.kind ≠ .finish := by
    rw [L.kind reads.token]
    exact reads.more
  exact Nat.lt_of_lt_of_le (Cursor.advance_length more) (Nat.le_of_lt_succ below)

theorem arrives (reads : L.Reads state state') {run : Run α β} {run' : Run α γ}
    (parallel : L.ParallelFrom L.opens n n' R run run') (below : state.cursor.rest.length < n + 1)
    (below' : state'.cursor.rest.length < n' + 1) :
    L.Arrives R (behind state) (behind state') (run (behind state)) (run' (behind state')) :=
  parallel _ _ reads.states (reads.length_lt below) (reads.length_lt' below')

theorem arrivesPast (reads : L.Reads state state') (bars : state.cursor.current.kind.barsOperand = true)
    {run : Run α β} {run' : Run α γ} (parallel : L.Parallel n n' R run run')
    (below : state.cursor.rest.length < n + 1) (below' : state'.cursor.rest.length < n' + 1) :
    L.Arrives R (behind state) (behind state') (run (behind state)) (run' (behind state')) :=
  parallel _ _ (reads.past bars) (reads.length_lt below) (reads.length_lt' below')

theorem read (reads : L.Reads state state') {next : Token → Run α β} {next' : Token → Run α γ}
    (below : state.cursor.rest.length < n + 1) (below' : state'.cursor.rest.length < n' + 1)
    (rest : L.ParallelFrom L.opens n n' R (next state.cursor.current) (next' state'.cursor.current)) :
    L.Arrives R (behind state) (behind state') ((Run.advance >>= next) state)
      ((Run.advance >>= next') state') :=
  reads.arrives rest below below'

end Reads

theorem Arrives.fromBehind {before before' : State} {result : EStateM.Result (EvalError α) State β}
    {other : EStateM.Result (EvalError α) State γ}
    (arrives : L.Arrives R (behind before) (behind before') result other) :
    L.Arrives R before before' result other :=
  arrives.after .advance .advance

end Correspondence

inductive SameHint : Option String → Option String → Prop where
  | same {hint : Option String} : SameHint hint hint
  | opened {place other : Nat} : SameHint (some s!"parenthesis opened at {place}")
      (some s!"parenthesis opened at {other}")

/-- Two messages that differ in the bytes they are about, and in what was found there as `F` allows. -/
structure Diagnostic.Alike (F : String → String → Prop) (diagnostic diagnostic' : Diagnostic) :
    Prop where
  fault : diagnostic.fault = diagnostic'.fault
  message : diagnostic.message = diagnostic'.message
  found : F diagnostic.found diagnostic'.found
  expected : diagnostic.expected = diagnostic'.expected
  hint : SameHint diagnostic.hint diagnostic'.hint

inductive EvalError.Alike (F : String → String → Prop) : EvalError α → EvalError α → Prop where
  | plain {error : EvalError α} : error.IsPlaceless → Alike F error error
  | lexical {diagnostic diagnostic' : Diagnostic} : diagnostic.Alike F diagnostic' →
      Alike F (.lexical diagnostic) (.lexical diagnostic')
  | grammar {diagnostic diagnostic' : Diagnostic} : diagnostic.Alike F diagnostic' →
      Alike F (.grammar diagnostic) (.grammar diagnostic')
  | expected {name what : String} {offset offset' : Nat} :
      Alike F (.plugin name (.expected what offset)) (.plugin name (.expected what offset'))
  | argument {name : String} {offset offset' : Nat} {error error' : EvalError α} : error.Alike F error' →
      Alike F (.plugin name (.argument offset error)) (.plugin name (.argument offset' error'))
  | overrun {name : String} {consumed consumed' available available' : Nat} :
      Alike F (.plugin name (.overrun consumed available)) (.plugin name (.overrun consumed' available'))
  | refused {name : String} {error : PluginError α} : error.IsPlaceless →
      Alike F (.plugin name error) (.plugin name error)

inductive Outcome.Alike {β : Type} (F : String → String → Prop) :
    Except (EvalError α) β → Except (EvalError α) β → Prop where
  | ok {answer : β} : Alike F (.ok answer) (.ok answer)
  | error {error error' : EvalError α} : error.Alike F error' → Alike F (.error error) (.error error')

theorem Outcome.Alike.toOption_eq {β : Type} {F : String → String → Prop}
    {outcome outcome' : Except (EvalError α) β} (alike : Outcome.Alike F outcome outcome') :
    outcome.toOption = outcome'.toOption := by
  cases alike <;> rfl

namespace Correspondence

variable {L : Correspondence α} {F : String → String → Prop}

theorem Fails.alike (found : ∀ text, F text text) (starts : ∀ {t t'}, L.starts t t' → F t.word t'.word)
    (none : ∀ error error', ¬ L.faults error error') {error error' : EvalError α}
    (fails : L.Fails error error') : error.Alike F error' := by
  have shown {t t' : Token} (related : L.tokens t t') : t'.shown = t.shown := by
    unfold Token.shown
    rw [L.kind related, L.word related]
  have invalid {t t' : Token} (related : L.tokens t t') :
      EvalError.Alike F (t.invalid : EvalError α) t'.invalid := by
    unfold Token.invalid
    rw [L.word related]
    exact .lexical ⟨rfl, rfl, found _, rfl, .same⟩
  induction fails with
  | taken same => exact absurd same (none _ _)
  | plain placeless => exact .plain placeless
  | invalid related => exact invalid related
  | unexpected related =>
    unfold Token.unexpected
    rw [shown related]
    exact .grammar ⟨rfl, rfl, found _, rfl, .same⟩
  | unclosed related =>
    unfold Token.unclosed
    rw [L.kind related]
    split
    · exact invalid related
    · unfold Token.unexpected
      rw [shown related]
      exact .grammar ⟨rfl, rfl, found _, rfl, .opened⟩
  | number related =>
    rw [L.word related]
    exact .lexical ⟨rfl, rfl, found _, rfl, .same⟩
  | mismatch related => exact .grammar ⟨rfl, rfl, starts related, rfl, .same⟩
  | hinted related =>
    unfold Token.mismatch
    rw [L.word related]
    exact .grammar ⟨rfl, rfl, found _, rfl, .same⟩
  | formed => exact .grammar ⟨rfl, rfl, found _, rfl, .same⟩
  | expected => exact .expected
  | argument _ _ ih => exact .argument ih
  | overrun => exact .overrun
  | refused placeless => exact .refused placeless

end Correspondence

end MeshLang
