import MeshLang.Proofs.PrefixCoherence
import MeshLang.Proofs.RelocationInvariance
import MeshLang.Proofs.SignificantTokens
import MeshLang.Proofs.Token.Substitute

namespace MeshLang

variable {α : Type} [Scalar α]

/-- The text is an expression of the value, at whatever place and whatever random numbers are ahead,
and it takes none of these. -/
def Environment.Denotes (env : Environment α) (expression : List Char) (v : Value α) : Prop :=
  ∀ base offset generator, ∃ state after, state.cursor = ⟨expression, base, offset⟩ ∧
    state.generator = generator ∧ Run.expression env state = .ok v after ∧
    after.cursor.current.kind = .finish ∧ after.generator = generator

namespace Environment.Denotes

variable {env : Environment α} {expression : List Char} {v : Value α}

theorem significant (library : ∀ name plugin, env.registry.get? name = some plugin → plugin.IsLibrary)
    (denotes : env.Denotes expression v) (state' : State)
    (same : MeshLang.significant expression = MeshLang.significant state'.cursor.rest) :
    ∃ after', Run.expression env state' = .ok v after' ∧ after'.cursor.current.kind = .finish ∧
      after'.generator = state'.generator := by
  obtain ⟨state, after, start, generator, done, finish, kept⟩ := denotes 0 0 state'.generator
  have corresponds := Correspondence.library_corresponds Correspondence.significant id library
  have places : Correspondence.significant.places (α := α) state.cursor state'.cursor := by
    rw [start]
    exact same
  have arrives := corresponds.expression ⟨.inl places, generator.symm⟩
  rw [done] at arrives
  generalize Run.expression env state' = result at arrives
  cases arrives with
  | ok same _ _ states =>
    subst same
    refine ⟨_, rfl, ?_, states.generator.trans kept⟩
    rw [← Cursor.significant_eq_nil_iff, ← states.places, Cursor.significant_eq_nil_iff]
    exact finish

theorem line (library : ∀ name plugin, env.registry.get? name = some plugin → plugin.IsLibrary)
    (denotes : env.Denotes expression v) (state' : State) {line : List Char} {depth : Nat}
    (rest : state'.cursor.rest = expression ++ '\n' :: line)
    (ends : ∀ base offset, (Cursor.mk line base offset).current.kind.endsExpression = true)
    (enough : state'.cursor.rest.length < depth) :
    ∃ after' base offset, Run.evaluate env depth none 0 state' = .ok v after' ∧ state'.Proceeds after' ∧
      after'.cursor.read = Cursor.read ⟨line, base, offset⟩ ∧ after'.generator = state'.generator := by
  obtain ⟨state, after, start, generator, done, finish, kept⟩ :=
    denotes state'.cursor.base state'.cursor.offset state'.generator
  have shares : env.SharesCalls env fun _ => True := .library library _
  have isLocal := (shares.evaluate (expression.length + 1) depth).fresh 0 state.cursor.current
  have ran : Run.evaluate env (expression.length + 1) none 0 state = .ok v after := by
    rw [← done]
    change _ = Run.evaluate env (state.cursor.rest.length + 1) none 0 state
    rw [start]
  obtain ⟨count, -, past, follows⟩ := isLocal state v after (fun _ => trivial) rfl ran
  have whole : state'.cursor = state.cursor.andLine line := by
    rw [start]
    exact congrArg (Cursor.mk · _ _) rest
  have last : (state.cursor.skip count).current.kind = .finish := by
    rw [← past.cursor]
    exact finish
  obtain ⟨after', done', past', same⟩ := follows state'
    ⟨whole ▸ past.tokens.andLine last ends, generator.symm⟩ enough
  have onLine : ((state.cursor.skip count).andLine line).read = _ := Cursor.read_andLine last
  rw [← past.tokens.skip_andLine, ← whole, ← past'.cursor] at onLine
  exact ⟨after', _, _, done', past'.proceeds, onLine, same.generator.trans kept⟩

end Environment.Denotes

/-- Behind a token that is read the name is an operand by itself, if it comes next: it stands where an
operand can start, which is not behind a point, it is not called, and it is no bare name that a function
takes. -/
structure Environment.StandsAlone (env : Environment α) (name : String) (cursor : Cursor) : Prop where
  starts : cursor.advance.current.word = name → cursor.current.kind.barsOperand = false
  uncalled : cursor.current.word = name → cursor.advance.current.kind ≠ .openParen
  unnamed : cursor.current.kind = .word → env.takesName cursor.current.word = true →
    cursor.advance.current.kind = .openParen → cursor.advance.advance.current.word ≠ name

def Environment.BareOperand (env : Environment α) (name : String) (text : List Char) : Prop :=
  ∀ i, env.StandsAlone name ((Cursor.ofText text).skip i)

instance {env : Environment α} {name : String} {cursor : Cursor} : Decidable (env.StandsAlone name cursor) :=
  decidable_of_iff
    ((cursor.advance.current.word = name → cursor.current.kind.barsOperand = false) ∧
      (cursor.current.word = name → cursor.advance.current.kind ≠ .openParen) ∧
      (cursor.current.kind = .word → env.takesName cursor.current.word = true →
        cursor.advance.current.kind = .openParen → cursor.advance.advance.current.word ≠ name))
    ⟨fun ⟨starts, uncalled, unnamed⟩ => ⟨starts, uncalled, unnamed⟩,
      fun ⟨starts, uncalled, unnamed⟩ => ⟨starts, uncalled, unnamed⟩⟩

structure Substitutes (name : String) (expression text : List Char) (c c' : Cursor) : Prop where
  reached : ∃ i, ((Cursor.ofText text).skip i).Meets c
  rest : c'.rest = substitute name expression c.rest

namespace Substitutes

variable {env : Environment α} {name : String} {expression text : List Char} {c c' : Cursor}

omit [Scalar α] in
theorem standsAlone (substitutes : Substitutes name expression text c c') (bare : env.BareOperand name text) :
    env.StandsAlone name c := by
  obtain ⟨i, meets⟩ := substitutes.reached
  obtain ⟨starts, uncalled, unnamed⟩ := bare i
  rw [← meets.current, ← meets.advance.current] at starts uncalled
  rw [← meets.current, ← meets.advance.current, ← meets.advance.advance.current] at unnamed
  exact ⟨starts, uncalled, unnamed⟩

theorem advance (isName : IsName name) (substitutes : Substitutes name expression text c c')
    (other : c.current.word ≠ name) : Substitutes name expression text c.advance c'.advance := by
  obtain ⟨i, meets⟩ := substitutes.reached
  refine ⟨⟨i + 1, ?_⟩, (Cursor.kept_of_other isName substitutes.rest other).2.2⟩
  rw [Cursor.skip_add]
  exact meets.advance

theorem recount {d d' : Cursor} (substitutes : Substitutes name expression text c c') (meets : c.Meets d)
    (meets' : c'.Meets d') : Substitutes name expression text d d' := by
  obtain ⟨i, here⟩ := substitutes.reached
  exact ⟨⟨i, here.trans meets⟩, by rw [meets.rest, meets'.rest]; exact substitutes.rest⟩

theorem other_of_kind (isName : IsName name) (substitutes : Substitutes name expression text c c')
    (kind : c.current.kind ≠ .word) : c.current.word ≠ name :=
  fun same => kind (Cursor.replaced_of_name isName substitutes.rest same).1

end Substitutes

/-- The places of a text and of the same text with an expression in parentheses in place of the name.
Nothing is said of how failures correspond. -/
def Correspondence.substitution {env : Environment α} {name : String} {text : List Char}
    (isName : IsName name) (expression : List Char) (bare : env.BareOperand name text) :
    Correspondence α where
  places c c' := Substitutes name expression text c c' ∧ c.current.word ≠ name
  holes c c' := Substitutes name expression text c c' ∧ c.current.word = name
  tokens t t' := t'.kind = t.kind ∧ t'.text = t.text ∧ t.word ≠ name
  starts _ _ := True
  exact := False
  faults _ _ := True
  current := by
    rintro c c' ⟨substitutes, other⟩
    obtain ⟨kind, text, -⟩ := Cursor.kept_of_other isName substitutes.rest other
    exact ⟨kind, text, other⟩
  advance := by
    rintro c c' ⟨substitutes, other⟩ bars
    refine ⟨substitutes.advance isName other, fun same => ?_⟩
    rw [(substitutes.standsAlone bare).starts same] at bars
    cases bars
  opened := by
    rintro c c' ⟨substitutes, other⟩ -
    have onward := substitutes.advance isName other
    by_cases same : c.advance.current.word = name
    · exact .inr ⟨onward, same⟩
    · exact .inl ⟨onward, same⟩
  parted := by
    rintro c c' ⟨substitutes, other⟩ point - opens
    have named := substitutes.advance isName other
    have unnamed : c.advance.current.word ≠ name := by
      intro same
      have starts := (substitutes.standsAlone bare).starts same
      rw [point] at starts
      cases starts
    have called := named.advance isName unnamed
    have inside := called.advance isName (called.other_of_kind isName (by rw [opens]; decide))
    by_cases same : c.advance.advance.advance.current.word = name
    · exact .inr ⟨⟨inside, same⟩, fun _ _ => trivial⟩
    · exact .inl ⟨inside, same⟩
  recount := by
    rintro c c' d d' ⟨substitutes, other⟩ meets meets'
    exact ⟨substitutes.recount meets meets', by rwa [meets.current]⟩
  recountHole := by
    rintro c c' d d' ⟨substitutes, same⟩ meets meets'
    exact ⟨substitutes.recount meets meets', by rwa [meets.current]⟩
  hole := by
    rintro c c' ⟨substitutes, same⟩
    obtain ⟨word, opens, -⟩ := Cursor.replaced_of_name isName substitutes.rest same
    exact ⟨word, opens, trivial⟩
  kind related := related.1
  text related := related.2.1
  start _ := trivial
  samePlace never := never.elim
  sameHole never := never.elim
  sameToken never := never.elim
  sameStart never := never.elim
  sameFault never := never.elim

omit [Scalar α] in
theorem Cursor.read_closing (line : List Char) (base offset : Nat) :
    (Cursor.mk (')' :: line) base offset).current.kind = .closeParen ∧
      (Cursor.mk (')' :: line) base offset).advance.rest = line := by
  have found := Cursor.nextFrom_solid ⟨')', line, rfl, by decide, by simp⟩ base offset
  rw [TokenKind.first_close line] at found
  have next : Cursor.next? ⟨')' :: line, base, offset⟩ = _ := found
  simp [Cursor.current, Cursor.advance, Cursor.read, next]

namespace Environment

def withVariable (env : Environment α) (name : String) (v : Value α) : Environment α :=
  { env with bindings := env.bindings.insert name v }

variable {env : Environment α} {name : String} {expression text : List Char} {v : Value α}

theorem operand_withVariable (notUnit : name ≠ "unitTensor") {recurse : Recursion α} {state : State}
    (word : state.cursor.current.kind = .word) (same : state.cursor.current.word = name)
    (uncalled : state.cursor.advance.current.kind ≠ .openParen) :
    Run.operand (env.withVariable name v) recurse state =
      .ok (env.options.adopt v) { state with cursor := state.cursor.advance } := by
  have held : (env.withVariable name v).bindings.get? state.cursor.current.word = some v := by
    unfold withVariable
    rw [same, OrderedMap.get?_insert, if_pos rfl]
  exact Run.operand_variable word uncalled (same ▸ notUnit) held

theorem Denotes.operand (library : ∀ name plugin, env.registry.get? name = some plugin → plugin.IsLibrary)
    (denotes : env.Denotes expression v) {state : State} {depth : Nat} {line : List Char}
    (opens : state.cursor.current.kind = .openParen)
    (rest : state.cursor.advance.rest = expression ++ '\n' :: ')' :: line)
    (enough : state.cursor.rest.length < depth + 1) :
    ∃ after, Run.operand env (Run.evaluate env depth) state = .ok v after ∧ state.Proceeds after ∧
      after.cursor.rest = line ∧ after.generator = state.generator := by
  have shorter : state.cursor.advance.rest.length < state.cursor.rest.length :=
    Cursor.advance_length (by rw [opens]; decide)
  have within : state.cursor.advance.rest.length < depth := by omega
  obtain ⟨after, base, offset, done, proceeds, onLine, kept⟩ :=
    denotes.line library { state with cursor := state.cursor.advance } rest
      (fun base offset => by rw [(Cursor.read_closing line base offset).1]; rfl) within
  obtain ⟨closing, behind⟩ := Cursor.read_closing line base offset
  have closes : after.cursor.current.kind = .closeParen := by
    rw [← closing, Cursor.current, onLine, Cursor.current]
  have advances : after.cursor.advance = (Cursor.mk (')' :: line) base offset).advance := by
    rw [Cursor.advance, onLine, Cursor.advance]
  exact ⟨_, Run.operand_grouped opens done closes,
    .trans .advance (proceeds.trans .advance), by rw [← behind, ← advances], kept⟩

theorem Denotes.bridges (library : ∀ name plugin, env.registry.get? name = some plugin → plugin.IsLibrary)
    (denotes : env.Denotes expression v) (checked : env.options.checkDimensions = true)
    (isName : IsName name) (notUnit : name ≠ "unitTensor") (bare : env.BareOperand name text)
    (n n' : Nat) :
    (Correspondence.substitution isName expression bare).Bridges (env.withVariable name v) env
      (n + 1) (n' + 1) (Run.evaluate (env.withVariable name v) n) (Run.evaluate env n') := by
  intro state state' ⟨⟨substitutes, same⟩, generator⟩ _ below'
  obtain ⟨word, opens, rest⟩ := Cursor.replaced_of_name isName substitutes.rest same
  have alone := substitutes.standsAlone bare
  obtain ⟨after, done, proceeds, behind, kept⟩ := denotes.operand library opens rest below'
  have adopted : env.options.adopt v = v := by
    unfold Options.adopt
    rw [if_pos checked]
  rw [operand_withVariable notUnit word same (alone.uncalled same), done, adopted]
  refine .ok rfl .advance proceeds ⟨⟨⟨?_, behind⟩, ?_⟩, kept.trans generator⟩
  · obtain ⟨i, here⟩ := substitutes.reached
    refine ⟨i + 1, ?_⟩
    rw [Cursor.skip_add]
    exact here.advance
  · intro again
    have starts := alone.starts again
    rw [word] at starts
    cases starts

/-- An environment with the variable goes along with the one without it. -/
theorem Denotes.corresponds (library : ∀ name plugin, env.registry.get? name = some plugin → plugin.IsLibrary)
    (denotes : env.Denotes expression v) (checked : env.options.checkDimensions = true)
    (isName : IsName name) (notUnit : name ≠ "unitTensor") (bare : env.BareOperand name text) :
    (env.withVariable name v).Corresponds env (.substitution isName expression bare) where
  repository := rfl
  options := rfl
  bindings := by
    rintro t t' ⟨-, -, other⟩
    unfold withVariable
    rw [OrderedMap.get?_insert, if_neg (Ne.symm other)]
  plugins places word _ := Correspondence.library_plugins
    (fun plugin found => library _ plugin (Environment.get?_of_plugin? found)) places word
  names := by
    rintro c c' ⟨substitutes, other⟩ word opens takes
    have behind := substitutes.advance isName other
    have inside := behind.advance isName (behind.other_of_kind isName (by rw [opens]; decide))
    exact ⟨inside, (substitutes.standsAlone bare).unnamed word takes opens⟩
  seeds := by
    rintro c c' builtin ⟨substitutes, other⟩ - opens - -
    have behind := substitutes.advance isName other
    have inside := behind.advance isName (behind.other_of_kind isName (by rw [opens]; decide))
    by_cases same : c.advance.advance.current.word = name
    · exact .inr ⟨⟨inside, same⟩, fun _ _ => trivial⟩
    · exact .inl ⟨inside, same⟩
  bridges := denotes.bridges library checked isName notUnit bare

end Environment

def assignment (name : String) (expression : List Char) : List Char :=
  name.toList ++ " = ".toList ++ expression

namespace Session

variable {session : Session α} {name : String} {expression text : List Char} {v : Value α}

theorem assignFrom_assignment (session : Session α) (isName : IsName name) (rest : List Char)
    (offset rounds : Nat) : ∃ place, session.assignFrom ⟨assignment name [] ++ rest, 0, offset⟩ (rounds + 1) =
      session.assigned name rounds
        (Run.expression session.environment (session.stateAt ⟨' ' :: rest, 0, place⟩)) := by
  have text : assignment name [] ++ rest = name.toList ++ ' ' :: ('=' :: ' ' :: rest) := by
    unfold assignment
    rw [List.append_nil, List.append_assoc]
    rfl
  have named : Cursor.next? ⟨name.toList ++ ' ' :: ('=' :: ' ' :: rest), 0, offset⟩ = _ :=
    Cursor.nextFrom_lexeme ⟨.word, name.toList, isName, rfl⟩
      (show ' ' ∈ TokenKind.breaks by decide) ('=' :: ' ' :: rest) 0 offset
  have signed (offset : Nat) : Cursor.read ⟨' ' :: '=' :: ' ' :: rest, 0, offset⟩ =
      (⟨.assign, ['='], 0 + (offset + 1)⟩, ⟨' ' :: rest, 0, offset + 1 + 1⟩) := by
    have found := Cursor.nextFrom_lexeme ⟨.assign, ['='], rfl, rfl⟩
      (show ' ' ∈ TokenKind.breaks by decide) rest 0 (offset + 1)
    have spaced : Cursor.next? ⟨' ' :: '=' :: ' ' :: rest, 0, offset⟩ = _ :=
      (Cursor.nextFrom_blank (by decide) 0 offset _).trans found
    unfold Cursor.read
    rw [spaced]
    rfl
  rw [← text] at named
  have current (offset : Nat) := congrArg (·.1.kind) (signed offset)
  have assigns := session.assignFrom_named named rfl (current _) rounds
  refine ⟨offset + Text.byteSize name.toList + 1 + 1, ?_⟩
  rw [assigns, Token.word, String.ofList_toList]
  change session.assigned name rounds (Run.expression _ (session.stateAt (Cursor.read _).2)) = _
  rw [signed]

end Session

end MeshLang
