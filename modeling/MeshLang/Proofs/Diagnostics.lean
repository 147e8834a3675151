import MeshLang.Proofs.Parallel.Sessions
import MeshLang.Proofs.Plugin.Library

namespace MeshLang

variable {α : Type}

mutual

/-- The message behind all plugins that hand on the failure of an argument. -/
def EvalError.innermost? : EvalError α → Option Diagnostic
  | .lexical diagnostic | .grammar diagnostic => some diagnostic
  | .plugin _ error => error.innermost?
  | _ => none

def PluginError.innermost? : PluginError α → Option Diagnostic
  | .argument _ error => error.innermost?
  | _ => none

end

/-- The message is about a part of the text, on which it stands, or about the end of the text; and
where its hint says that a parenthesis was opened there is one. -/
structure Diagnostic.PointsAt (diagnostic : Diagnostic) (text : List Char) : Prop where
  part : ∃ before found after, text = before ++ (found ++ after) ∧
    diagnostic.start = Text.byteSize before ∧ diagnostic.stop = diagnostic.start + Text.byteSize found ∧
    (diagnostic.found = String.ofList found ∨
      found = [] ∧ after = [] ∧ diagnostic.found = "end of input")
  opened : ∀ place : Nat, diagnostic.hint = some s!"parenthesis opened at {place}" →
    ∃ before after, text = before ++ '(' :: after ∧ Text.byteSize before = place

structure Token.StandsIn (token : Token) (text : List Char) : Prop where
  part : ∃ before after, text = before ++ (token.text ++ after) ∧ token.offset = Text.byteSize before ∧
    (token.kind = .finish → token.text = [] ∧ after = [])
  paren : token.kind = .openParen → token.text = ['(']

theorem Cursor.current_standsIn {cursor : Cursor} {text : List Char}
    (precedes : Precedes (.ofText text) cursor) : cursor.current.StandsIn text := by
  obtain ⟨before, split, offset⟩ := precedes
  change text = _ at split
  change cursor.place = 0 + _ at offset
  rw [Nat.zero_add] at offset
  rcases cursor.read_cases with ⟨-, current, -⟩ | ⟨-, finds⟩
  · rw [current]
    refine ⟨⟨text, [], by simp, ?_, fun _ => ⟨rfl, rfl⟩⟩, fun paren => by cases paren⟩
    rw [Cursor.finish, split, offset, Text.byteSize_append]
  · obtain ⟨between, further, place⟩ := finds.split
    refine ⟨⟨before ++ between, cursor.advance.rest, ?_, ?_, fun finish => absurd finish finds.more⟩,
      fun paren => ?_⟩
    · rw [split, further, List.append_assoc]
    · rw [place, offset, Text.byteSize_append]
    · have lexed := finds.lexed
      rw [paren] at lexed
      obtain ⟨single, rest, starts⟩ := TokenKind.first_openParen lexed
      have taken := congrArg (List.take cursor.current.text.length) starts
      rwa [List.take_left, single] at taken

namespace Token.StandsIn

variable {token opening : Token} {text : List Char} {fault : Fault} {message : String}
  {expected : List String}

theorem pointsAt (stands : token.StandsIn text) {hint : Option String}
    (placeless : ∀ here, hint = some here → NoPlace here) {found : String}
    (shown : found = token.word ∨ found = token.shown) :
    Diagnostic.PointsAt ⟨fault, message, token.offset, token.stop, found, expected, hint⟩ text := by
  obtain ⟨before, after, split, offset, finish⟩ := stands.part
  refine ⟨⟨before, token.text, after, split, offset, rfl, ?_⟩, fun place here =>
    absurd rfl (placeless _ here place)⟩
  rcases shown with word | shown
  · exact .inl word
  · unfold Token.shown at shown
    split at shown
    · rename_i last
      rw [last] at shown
      exact .inr ⟨(finish last).1, (finish last).2, shown⟩
    · exact .inl shown

theorem invalid_pointsAt (stands : token.StandsIn text) {diagnostic : Diagnostic}
    (innermost : (token.invalid : EvalError α).innermost? = some diagnostic) :
    diagnostic.PointsAt text := by
  cases innermost
  exact stands.pointsAt (by simp) (.inl rfl)

theorem opened_inj {place other : Nat}
    (same : s!"parenthesis opened at {place}" = s!"parenthesis opened at {other}") : place = other := by
  have shown : toString place = toString other := (String.append_right_inj _).mp same
  have digits : Nat.toDigits 10 place = Nat.toDigits 10 other := String.ofList_injective shown
  rw [← Nat.ofDigitChars_toDigits (n := place) (b := 10) (by decide) (by decide), digits,
    Nat.ofDigitChars_toDigits (by decide) (by decide)]

theorem unclosed_pointsAt (stands : token.StandsIn text) (opens : opening.StandsIn text)
    (kind : opening.kind = .openParen) {diagnostic : Diagnostic}
    (innermost : (token.unclosed opening : EvalError α).innermost? = some diagnostic) :
    diagnostic.PointsAt text := by
  unfold Token.unclosed at innermost
  split at innermost
  · exact stands.invalid_pointsAt innermost
  · have about := @pointsAt token text .unexpectedToken "" [] stands none (by simp) _ (.inr rfl)
    cases innermost
    refine ⟨about.part, fun place here => ?_⟩
    have same := opened_inj (Option.some.inj here)
    obtain ⟨before, after, split, offset, -⟩ := opens.part
    rw [opens.paren kind] at split
    exact ⟨before, after, split, offset.symm.trans same⟩

end Token.StandsIn

/-- Every place of a text and every token of it correspond to themselves, and so do the failures that
plugins find by themselves. -/
def Correspondence.located (α : Type) (text : List Char) : Correspondence α where
  places c c' := c.Meets c' ∧ Cursor.Precedes (.ofText text) c
  holes _ _ := False
  tokens t t' := t = t' ∧ t.StandsIn text
  starts t t' := t = t' ∧ t.StandsIn text
  exact := True
  faults error error' := error = error' ∧ error.innermost? = none
  current related := ⟨related.1.current.symm, Cursor.current_standsIn related.2⟩
  advance related _ := ⟨related.1.advance, related.2.trans Cursor.advance_precedes⟩
  opened related _ := .inl ⟨related.1.advance, related.2.trans Cursor.advance_precedes⟩
  parted related _ _ _ := .inl ⟨related.1.advance.advance.advance,
    ((related.2.trans Cursor.advance_precedes).trans Cursor.advance_precedes).trans
      Cursor.advance_precedes⟩
  recount related meets meets' :=
    ⟨(meets.symm.trans related.1).trans meets', related.2.trans meets.precedes⟩
  recountHole never _ _ := never
  hole never := never.elim
  kind related := related.1 ▸ rfl
  text related := related.1 ▸ rfl
  start related := related
  samePlace _ _ _ related := related.1
  sameHole _ _ _ := id
  sameToken _ _ _ related := related.1
  sameStart _ _ _ related := related.1
  sameFault _ _ _ related := related.1

namespace Correspondence

variable {text : List Char}

theorem Fails.pointsAt {error error' : EvalError α} (fails : (located α text).Fails error error')
    {diagnostic : Diagnostic} (innermost : error.innermost? = some diagnostic)
    (fault : diagnostic.fault ≠ .wrongResultType) : diagnostic.PointsAt text := by
  induction fails with
  | taken related =>
    rw [related.2] at innermost
    cases innermost
  | @plain error placeless =>
    cases error with
    | field | mesh | repository | unknownField | unknownFunction => cases innermost
    | _ => exact placeless.elim
  | invalid related => exact related.2.invalid_pointsAt innermost
  | unexpected related =>
    cases innermost
    exact related.2.pointsAt (by simp) (.inr rfl)
  | unclosed related opens kind => exact related.2.unclosed_pointsAt opens.2 kind innermost
  | number related | mismatch related =>
    cases innermost
    exact related.2.pointsAt (by simp) (.inl rfl)
  | hinted related _ placeless =>
    cases innermost
    exact related.2.pointsAt (fun here same => Option.some.inj same ▸ placeless) (.inl rfl)
  | formed =>
    cases innermost
    exact absurd rfl fault
  | expected | overrun => cases innermost
  | argument _ _ ih => exact ih innermost
  | @refused name error placeless =>
    cases error with
    | wrongType | invertedBounds => cases innermost
    | _ => exact placeless.elim

/-- A script that makes up no failures fails with none but those of the text. -/
theorem scripts_of_relays {b b' : Cursor} (meets : b.Meets b')
    (precedes : Cursor.Precedes (.ofText text) b)
    {script : Script α (Except (PluginError α) (Value α × Nat))} {heard : EvalError α → Prop}
    (relays : script.Relays heard) (fails : ∀ error, heard error → (located α text).Fails error error) :
    (located α text).Scripts b b'
      (fun answer other => answer.1 = other.1 ∧ (located α text).Stops b b' answer.2 other.2)
      script script := by
  induction script generalizing heard with
  | done outcome =>
    cases outcome with
    | ok answer =>
      refine .ok ⟨rfl, ?_⟩
      cases cut : Text.dropBytes? answer.2 b.rest with
      | none => exact .beyond cut (meets.rest ▸ cut) fun _ => rfl
      | some rest =>
        refine .fits cut (meets.rest ▸ cut) ⟨⟨rfl, ?_⟩, precedes.trans (.of_dropBytes? cut)⟩
        exact (Nat.add_assoc _ _ _).symm.trans
          ((congrArg (· + answer.2) meets.place).trans (Nat.add_assoc _ _ _))
    | error error =>
      refine .error fun name => ?_
      cases error with
      | argument offset inner => exact .argument (fun _ => rfl) (fails inner relays)
      | _ => exact .taken ⟨rfl, rfl⟩
  | argument start expected next ih =>
    have start_eq : Cursor.within b'.place b'.rest start = .within b.place b.rest start := by
      rw [meets.place, meets.rest]
    refine .ask (.inl ⟨?_, precedes.trans (b.precedes_within start)⟩) (fun _ => rfl) ?_ ?_
    · rw [start_eq]
      exact .refl
    · rintro v c c' - - ⟨same, -⟩
      rw [same.place, meets.place]
      exact ih _ (relays.1 _) fails
    · intro error error' arises
      cases arises.eq trivial
      refine ih _ (relays.2 error) fun other told => ?_
      rcases told with rfl | told
      · exact arises
      · exact fails other told

/-- An environment whose plugins make up no failures corresponds to itself in every text. -/
theorem located_corresponds [Scalar α] {env : Environment α}
    (relays : ∀ name plugin, env.registry.get? name = some plugin → plugin.Relays) :
    env.Corresponds env (located α text) where
  repository := rfl
  options := rfl
  bindings := by
    rintro t _ ⟨rfl, -⟩
    rfl
  plugins := by
    rintro c c' ⟨meets, precedes⟩ - -
    cases found : env.plugin? c.current.word with
    | none => exact .none
    | some plugin =>
      have calls := scripts_of_relays meets.advance (precedes.trans Cursor.advance_precedes)
        (relays _ _ (Environment.get?_of_plugin? found) c.advance.rest) fun _ never => never.elim
      refine .some ?_
      unfold Calls
      rw [meets.advance.rest]
      exact calls
  names related _ _ _ := ⟨related.1.advance.advance,
    (related.2.trans Cursor.advance_precedes).trans Cursor.advance_precedes⟩
  seeds related _ _ _ _ := .inl ⟨related.1.advance.advance,
    (related.2.trans Cursor.advance_precedes).trans Cursor.advance_precedes⟩
  bridges _ _ _ _ states := states.places.elim

end Correspondence

def Outcome.Located {β : Type} (text : List Char) (outcome : Except (EvalError α) β) : Prop :=
  ∀ error diagnostic, outcome = .error error → error.innermost? = some diagnostic →
    diagnostic.fault ≠ .wrongResultType → diagnostic.PointsAt text

theorem Outcome.Located.of_concludes {β : Type} {text : List Char} {S : Session α → Session α → Prop}
    {R : β → β → Prop} {result other : Session α × Except (EvalError α) β}
    (concludes : (Correspondence.located α text).Concludes S R result other) :
    Outcome.Located text result.2 := by
  intro error diagnostic failed innermost fault
  cases concludes with
  | ok => cases failed
  | error fails _ =>
    cases failed
    exact fails.pointsAt innermost fault

namespace Session

/-- Failures point at the text that was given, entry point by entry point. -/
structure LocatesFaults [Scalar α] (session : Session α) : Prop where
  whole : ∀ text, Outcome.Located text (session.evaluate text).2
  typed : ∀ text type, Outcome.Located text (session.evaluateAs text type).2
  logical : ∀ text location, Outcome.Located text (session.evaluateLogical text location).2
  start : ∀ text, Outcome.Located text (session.evaluateStart text).2
  argument : ∀ text first expected, Outcome.Located text (session.argument text first expected).2
  assignments : ∀ text, Outcome.Located text (session.assign text).2

/-- Failures point at the text that was given if no plugin is active and none makes failures up. -/
theorem locates_faults [Scalar α] (session : Session α) (idle : session.origins = [])
    (relays : ∀ name plugin, session.registry.get? name = some plugin → plugin.Relays) :
    session.LocatesFaults := by
  have corresponds (text : List Char) (bindings : OrderedMap String (Value α)) :
      { session.environment with bindings }.Corresponds { session.environment with bindings }
        (.located α text) :=
    Correspondence.located_corresponds relays
  have start (text : List Char) :
      (Correspondence.located α text).places (.ofText text) (.ofText text) := ⟨.refl, .refl⟩
  have accepted (text : List Char) (expected : Option ValueType) (whole : Bool) :
      Outcome.Located text (session.accept text expected whole).2 :=
    .of_concludes (accept_parallel (corresponds text session.bindings) rfl (.inl (start text)) expected whole)
  refine ⟨fun text => accepted text none true, fun text type => accepted text (some type) true,
    fun text location => accepted text (some ⟨.logical, location⟩) true,
    fun text => accepted text none false, ?_, ?_⟩
  · intro text first expected
    have places : (Correspondence.located α text).places
        (.within (session.origins.headD 0) text first)
        (.within (session.origins.headD 0) text first) := by
      rw [idle]
      exact ⟨.refl, Cursor.precedes_within (.ofText text) first⟩
    exact .of_concludes (argument_parallel (corresponds text session.bindings) rfl (.inl places)
      (fun _ => ⟨rfl, rfl, rfl⟩) expected)
  · intro text
    exact .of_concludes (assignFrom_parallel (corresponds text) rfl rfl (start text)
      (Nat.lt_succ_self text.length) (Nat.lt_succ_self text.length))

/-- An operand is missing in the inner one of two calls, behind a letter of two bytes. -/
theorem locates_faults_tetrahedron :
    let text := "clamp( // é\n clamp(1 + , 0, 2), 0, 2)".toList
    overTetrahedron.origins = [] ∧
      (∀ name plugin, overTetrahedron.registry.get? name = some plugin → plugin.Relays) ∧
      (match (overTetrahedron.evaluate text).2 with
        | .ok _ => none
        | .error error => error.innermost?.map fun found => (found.start, found.stop)) = some (24, 25) ∧
      overTetrahedron.LocatesFaults := by
  have relays (name : String) (plugin : Plugin Exact)
      (found : overTetrahedron.registry.get? name = some plugin) : plugin.Relays :=
    Plugin.library_relays found
  exact ⟨rfl, relays, by decide +kernel, locates_faults overTetrahedron rfl relays⟩

end Session

end MeshLang
