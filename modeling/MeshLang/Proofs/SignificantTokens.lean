import MeshLang.Proofs.Parallel.Outcome
import MeshLang.Proofs.Parallel.Sessions
import MeshLang.Proofs.Token.Significant

namespace MeshLang

variable {α : Type}

/-- Places with the same tokens ahead, wherever these stand. -/
def Correspondence.significant : Correspondence α where
  places c c' := MeshLang.significant c.rest = MeshLang.significant c'.rest
  holes _ _ := False
  tokens t t' := t'.kind = t.kind ∧ t'.text = t.text
  starts t t' := t'.kind = t.kind ∧ t'.text = t.text
  exact := False
  faults _ _ := False
  current := Cursor.current_of_significant
  advance same _ := Cursor.advance_of_significant same
  opened same _ := .inl (Cursor.advance_of_significant same)
  parted same _ _ _ := .inl <|
    Cursor.advance_of_significant (Cursor.advance_of_significant (Cursor.advance_of_significant same))
  recount same meets meets' := by rw [meets.rest, meets'.rest]; exact same
  recountHole never _ _ := never
  hole never := never.elim
  kind related := related.1
  text related := related.2
  start related := related
  samePlace never := never.elim
  sameHole never := never.elim
  sameToken never := never.elim
  sameStart never := never.elim
  sameFault never := never.elim

theorem Correspondence.significant_alike {error error' : EvalError α}
    (fails : Correspondence.significant.Fails error error') : error.Alike Eq error' := by
  refine fails.alike (fun _ => rfl) (fun related => ?_) fun _ _ => not_false
  rw [Token.word, Token.word, related.2]

theorem Outcome.of_concludes {L : Correspondence α} {F : String → String → Prop}
    (alike : ∀ {error error' : EvalError α}, L.Fails error error' → error.Alike F error')
    {β γ : Type} {S : Session α → Session α → Prop} {R : β → β → Prop}
    (view : β → γ) {result other : Session α × Except (EvalError α) β}
    (concludes : L.Concludes S R result other) (same : ∀ v w, R v w → view v = view w) :
    Outcome.Alike F (result.2.map view) (other.2.map view) := by
  cases concludes with
  | @ok _ _ v w related _ =>
    change Outcome.Alike F (.ok (view v)) (.ok (view w))
    rw [same v w related]
    exact .ok
  | error fails _ => exact .error (alike fails)

namespace Session

structure SharesTokens (text text' : List Char) : Prop where
  same : significant text = significant text'
  addressable : Text.Addressable text
  addressable' : Text.Addressable text'

/-- Texts with the same tokens that count have the same outcome but for places, entry point by entry
point. An argument is given by what follows its start. -/
structure ReadsTokens [Scalar α] (session : Session α) : Prop where
  whole : ∀ text text', SharesTokens text text' →
    Outcome.Alike Eq (session.evaluate text).2 (session.evaluate text').2
  typed : ∀ text text' type, SharesTokens text text' →
    Outcome.Alike Eq (session.evaluateAs text type).2 (session.evaluateAs text' type).2
  logical : ∀ text text' location, SharesTokens text text' →
    Outcome.Alike Eq (session.evaluateLogical text location).2 (session.evaluateLogical text' location).2
  start : ∀ text text', SharesTokens text text' →
    Outcome.Alike Eq (session.evaluateStart text).2 (session.evaluateStart text').2
  argument : ∀ text text' first first' expected, session.Addresses text → session.Addresses text' →
    significant (Cursor.within 0 text first).rest = significant (Cursor.within 0 text' first').rest →
    Outcome.Alike Eq ((session.argument text first expected).2.map Prod.fst)
      ((session.argument text' first' expected).2.map Prod.fst)
  assignments : ∀ text text', SharesTokens text text' →
    Outcome.Alike Eq (session.assign text).2 (session.assign text').2 ∧
      (session.assign text').1.bindings = (session.assign text).1.bindings

theorem within_rest (base other : Nat) (text : List Char) (start : Nat) :
    (Cursor.within base text start).rest = (Cursor.within other text start).rest := by
  unfold Cursor.within
  split <;> rfl

/-- Evaluation depends on the tokens that count only. -/
theorem reads_tokens [Scalar α] (session : Session α) (library : session.registry = Plugin.library) :
    session.ReadsTokens := by
  have corresponds (bindings : OrderedMap String (Value α)) :
      { session.environment with bindings }.Corresponds { session.environment with bindings }
        .significant :=
    Correspondence.library_corresponds _ id fun name plugin found =>
      Plugin.library_isLibrary (by rw [← library]; exact found)
  have accepted (text text' : List Char) (expected : Option ValueType) (whole : Bool)
      (same : significant text = significant text') :
      Outcome.Alike Eq (session.accept text expected whole).2 (session.accept text' expected whole).2 := by
    have concludes := accept_parallel (corresponds session.bindings) rfl (.inl same) expected whole
    have alike := Outcome.of_concludes Correspondence.significant_alike id concludes fun _ _ equal => equal
    rwa [Except.map_id, id, id] at alike
  refine ⟨fun text text' shares => accepted text text' none true shares.same, fun text text' type shares =>
    accepted text text' (some type) true shares.same, fun text text' location shares =>
    accepted text text' (some ⟨.logical, location⟩) true shares.same, fun text text' shares =>
    accepted text text' none false shares.same, ?_, ?_⟩
  · intro text text' first first' expected _ _ same
    have places : Correspondence.significant.places (α := α)
        (.within (session.origins.headD 0) text first) (.within (session.origins.headD 0) text' first') := by
      change significant _ = significant _
      rwa [within_rest _ 0, within_rest _ 0 text']
    exact Outcome.of_concludes Correspondence.significant_alike Prod.fst
      (argument_parallel (corresponds session.bindings) rfl (.inl places) False.elim expected)
      fun _ _ equal => equal
  · intro text text' shares
    have places : Correspondence.significant.places (α := α) (.ofText text) (.ofText text') := shares.same
    have concludes := assignFrom_parallel corresponds rfl rfl places
      (Nat.lt_succ_self text.length) (Nat.lt_succ_self text'.length)
    refine ⟨?_, ?_⟩
    · have alike := Outcome.of_concludes Correspondence.significant_alike id concludes fun _ _ _ => rfl
      rwa [Except.map_id, id, id] at alike
    · unfold assign
      generalize session.assignFrom _ _ = result at concludes ⊢
      generalize session.assignFrom _ _ = other at concludes ⊢
      cases concludes with
      | ok _ both => exact both.2
      | error _ both => exact both.2

theorem reads_tokens_tetrahedron :
    let plain := "clamp(5,0,2)+1".toList
    let spaced := " clamp ( 5, // a number\n 0, 2 ) + 1".toList
    overTetrahedron.registry = Plugin.library ∧ SharesTokens plain spaced ∧
      (overTetrahedron.evaluate plain).2.isOk = true ∧
      Outcome.Alike Eq (overTetrahedron.evaluate plain).2 (overTetrahedron.evaluate spaced).2 := by
  intro plain spaced
  have shares : SharesTokens plain spaced := ⟨by decide +kernel, by decide +kernel, by decide +kernel⟩
  exact ⟨rfl, shares, by decide +kernel, (reads_tokens overTetrahedron rfl).whole plain spaced shares⟩

/-- At the same byte of texts with the same tokens another argument may start. -/
theorem argument_depends_on_start :
    let plain := "1-2".toList
    let spaced := " 1-2".toList
    SharesTokens plain spaced ∧
      ¬ Outcome.Alike Eq ((overTetrahedron.argument plain 1 none).2.map Prod.fst)
        ((overTetrahedron.argument spaced 1 none).2.map Prod.fst) := by
  refine ⟨⟨by decide +kernel, by decide +kernel, by decide +kernel⟩, fun alike => ?_⟩
  exact absurd alike.toOption_eq (by decide +kernel)

end Session

end MeshLang
