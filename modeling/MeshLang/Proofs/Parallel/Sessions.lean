import MeshLang.Proofs.Lockstep.Sessions
import MeshLang.Proofs.Parallel.Steps
import MeshLang.Proofs.Repository.Built
import MeshLang.Proofs.Scalar.Exact

namespace MeshLang

variable {α : Type}

/-- How one call of each of two sessions ends: with related answers or failures that correspond, in
sessions that are related. -/
inductive Correspondence.Concludes {β γ : Type} (L : Correspondence α)
    (S : Session α → Session α → Prop) (R : β → γ → Prop) :
    Session α × Except (EvalError α) β → Session α × Except (EvalError α) γ → Prop where
  | ok {after after' : Session α} {v : β} {w : γ} : R v w → S after after' →
      Concludes L S R (after, .ok v) (after', .ok w)
  | error {after after' : Session α} {error error' : EvalError α} : L.Fails error error' →
      S after after' → Concludes L S R (after, .error error) (after', .error error')

/-- Every place in the text is a number of 32 bits, counted in the outermost text. -/
def Session.Addresses (session : Session α) (text : List Char) : Prop :=
  session.origins.headD 0 + Text.byteSize text < UInt32.size

instance {session : Session α} {text : List Char} : Decidable (session.Addresses text) :=
  inferInstanceAs (Decidable (_ < _))

namespace Correspondence

variable [Scalar α] {L : Correspondence α}

theorem library_plugins {c c' : Cursor} {found : Option (Plugin α)}
    (library : ∀ plugin, found = some plugin → plugin.IsLibrary)
    (places : L.places c c') (word : c.current.kind = .word) :
    L.Plugins c.advance c'.advance found found := by
  have past : L.places c.advance c'.advance := L.advance places (by rw [word]; rfl)
  cases found with
  | none => exact .none
  | some plugin =>
    exact .some ((library plugin rfl).calls enters_places past fun exact => L.samePlace exact past)

theorem library_corresponds (L : Correspondence α) (solid : ∀ {c c'}, ¬ L.holes c c')
    {env : Environment α}
    (library : ∀ name plugin, env.registry.get? name = some plugin → plugin.IsLibrary) :
    env.Corresponds env L where
  repository := rfl
  options := rfl
  bindings := fun _ => rfl
  plugins places word _ :=
    library_plugins (fun plugin found => library _ plugin (Environment.get?_of_plugin? found)) places word
  names places word opens _ := by
    have past : L.places _ _ := L.advance places (by rw [word]; rfl)
    exact (L.opened past (by rw [opens]; decide)).resolve_right solid
  seeds places word opens _ _ := by
    have past : L.places _ _ := L.advance places (by rw [word]; rfl)
    exact .inl ((L.opened past (by rw [opens]; decide)).resolve_right solid)
  bridges _ _ _ _ states := absurd states.places solid

end Correspondence

namespace Session

def overTetrahedron : Session Exact := ofRepository (.ofMesh Mesh.tetrahedron)

def SameGenerator (session session' : Session α) : Prop := session'.generator = session.generator

variable [Scalar α] {session session' : Session α} {L : Correspondence α}

theorem shape_parallel (corresponds : session.environment.Corresponds session'.environment L)
    (expected : Option ValueType) (v : Value α) {stop stop' : Nat} (same : L.exact → stop = stop') :
    L.Same Eq (session.shape expected v stop) (session'.shape expected v stop') := by
  cases expected with
  | none =>
    have options : session'.options = session.options := corresponds.options
    have repository : session'.repository = session.repository := corresponds.repository
    unfold shape
    rw [options, repository]
    exact .ok rfl
  | some type => exact corresponds.conform v type fun exact => ⟨rfl, same exact⟩

theorem reading_parallel (corresponds : session.environment.Corresponds session'.environment L)
    (whole : Bool) {state state' : State} (states : State.Related L.opens state state') :
    L.Arrives Eq state state' (reading session.environment whole state)
      (reading session'.environment whole state') := by
  refine (corresponds.expression states).bind ?_
  intro v _ after after' same _ _ states
  subst same
  have last : L.Parallel (after.cursor.rest.length + 1) (after'.cursor.rest.length + 1) Eq
      (do
        if whole then Run.finish v
        return v : Run α (Value α))
      (do
        if whole then Run.finish v
        return v) := by
    cases whole with
    | false => exact .pure rfl
    | true => exact .andThen (Correspondence.Parallel.finish v) fun _ => .pure rfl
  exact last after after' states (Nat.lt_succ_self _) (Nat.lt_succ_self _)

theorem accept_parallel (corresponds : session.environment.Corresponds session'.environment L)
    (generator : session.SameGenerator session') {text text' : List Char}
    (places : L.opens (.ofText text) (.ofText text')) (expected : Option ValueType) (whole : Bool) :
    L.Concludes SameGenerator Eq (session.accept text expected whole) (session'.accept text' expected whole) := by
  have states : State.Related L.opens (session.cleared.stateAt (.ofText text))
      (session'.cleared.stateAt (.ofText text')) := ⟨places, generator⟩
  have arrives := reading_parallel corresponds whole states
  rw [accept_eq, accept_eq]
  generalize reading session.environment whole _ = result at arrives ⊢
  generalize reading session'.environment whole _ = other at arrives ⊢
  cases arrives with
  | error fails _ _ generator => exact .error fails generator
  | @ok v _ state state' same onward onward' states =>
    subst same
    have stops (exact : L.exact) : state.cursor.offset = state'.cursor.offset := by
      have same := (L.samePlace exact states.places).place
      have base : state.cursor.base = 0 := onward.base
      have base' : state'.cursor.base = 0 := onward'.base
      rw [Cursor.place, Cursor.place, base, base'] at same
      omega
    have shaped : L.Same Eq ((session.cleared.resume state).shape expected v state.cursor.offset)
        ((session'.cleared.resume state').shape expected v state'.cursor.offset) :=
      shape_parallel corresponds expected v stops
    unfold conclude
    dsimp only
    generalize (session.cleared.resume state).shape _ _ _ = first at shaped ⊢
    generalize (session'.cleared.resume state').shape _ _ _ = second at shaped ⊢
    cases shaped with
    | ok same => exact .ok same states.generator
    | error fails => exact .error fails states.generator

theorem argument_parallel (corresponds : session.environment.Corresponds session'.environment L)
    (generator : session.SameGenerator session') {text text' : List Char} {start start' : Nat}
    (places : L.opens (.within (session.origins.headD 0) text start)
      (.within (session'.origins.headD 0) text' start'))
    (exactly : L.exact → session.origins.headD 0 = session'.origins.headD 0 ∧ text = text' ∧ start = start')
    (expected : Option ValueType) :
    L.Concludes SameGenerator (fun answer answer' => answer.1 = answer'.1) (session.argument text start expected)
      (session'.argument text' start' expected) := by
  have exact (is : L.exact) : Cursor.Meets ⟨text, session.origins.headD 0, 0⟩
      ⟨text', session'.origins.headD 0, 0⟩ ∧ start = start' := by
    obtain ⟨base, rfl, rfl⟩ := exactly is
    exact ⟨by rw [base]; exact .refl, rfl⟩
  have arrives := @Environment.Corresponds.argumentAt _ _ _ _ _ _ _ _ _ corresponds
    (corresponds.evaluate (text.length + 1) (text'.length + 1)) ⟨text, session.origins.headD 0, 0⟩
    ⟨text', session'.origins.headD 0, 0⟩ start start' expected (session.stateAt (.ofText text))
    (session'.stateAt (.ofText text')) places exact rfl rfl generator (Nat.lt_succ_self _)
    (Nat.lt_succ_self _)
  rw [argument_eq, argument_eq]
  dsimp only at arrives
  generalize Run.argumentAt session.environment _ _ _ _ _ = result at arrives ⊢
  generalize Run.argumentAt session'.environment _ _ _ _ _ = other at arrives ⊢
  cases arrives with
  | ok told _ _ states => exact .ok told.1 states.generator
  | error fails _ _ generator => exact .error fails generator

omit [Scalar α] in
theorem next_parallel {cursor cursor' : Cursor} (places : L.places cursor cursor') :
    (cursor.next? = none ∧ cursor'.next? = none) ∨
      (cursor.next? = some (cursor.current, cursor.advance) ∧
        cursor'.next? = some (cursor'.current, cursor'.advance) ∧
        cursor.advance.rest.length < cursor.rest.length ∧
        cursor'.advance.rest.length < cursor'.rest.length) := by
  have kind := L.kind (L.current places)
  by_cases finish : cursor.current.kind = .finish
  · exact .inl ⟨cursor.next?_eq_none_iff.mpr finish, cursor'.next?_eq_none_iff.mpr (kind.trans finish)⟩
  · have more : cursor'.current.kind ≠ .finish := by rwa [kind]
    exact .inr ⟨Cursor.next?_of_more finish, Cursor.next?_of_more more, Cursor.advance_length finish,
      Cursor.advance_length more⟩

theorem expression_parallel
    (corresponds : ∀ bindings, { session.environment with bindings }.Corresponds
      { session'.environment with bindings } L)
    (bindings : session'.bindings = session.bindings) {cursor cursor' : Cursor}
    (states : State.Related L.opens (session.stateAt cursor) (session'.stateAt cursor')) :
    L.Arrives Eq (session.stateAt cursor) (session'.stateAt cursor')
      (Run.expression session.environment (session.stateAt cursor))
      (Run.expression session'.environment (session'.stateAt cursor')) := by
  have same := corresponds session.bindings
  rw [← bindings] at same
  nth_rewrite 1 [bindings] at same
  exact same.expression states

theorem separated_parallel {cursor cursor' : Cursor} (places : L.places cursor cursor')
    (rounds rounds' : Nat) (generator : session.SameGenerator session')
    (bindings : session'.bindings = session.bindings)
    (further : L.places cursor.advance cursor'.advance →
      cursor.advance.rest.length < cursor.rest.length →
      cursor'.advance.rest.length < cursor'.rest.length →
      L.Concludes (fun after after' => after.SameGenerator after' ∧ after'.bindings = after.bindings)
        (fun _ _ => True) (session.assignFrom cursor.advance rounds)
        (session'.assignFrom cursor'.advance rounds')) :
    L.Concludes (fun after after' => after.SameGenerator after' ∧ after'.bindings = after.bindings)
      (fun _ _ => True) (session.separated rounds cursor.next?)
      (session'.separated rounds' cursor'.next?) := by
  rcases next_parallel places with ⟨none, none'⟩ | ⟨found, found', shorter, shorter'⟩
  · rw [none, none']
    exact .ok trivial ⟨generator, bindings⟩
  · have current := L.current places
    have kind := L.kind current
    rw [found, found', separated, separated, kind]
    by_cases semicolon : cursor.current.kind = .semicolon
    · rw [if_pos semicolon, if_pos semicolon]
      exact further (L.advance places (by rw [semicolon]; rfl)) shorter shorter'
    · rw [if_neg semicolon, if_neg semicolon]
      exact .error (.wanted current _) ⟨generator, bindings⟩

theorem assignFrom_parallel
    (corresponds : ∀ bindings, { session.environment with bindings }.Corresponds
      { session'.environment with bindings } L)
    (bindings : session'.bindings = session.bindings)
    (generator : session.SameGenerator session') {cursor cursor' : Cursor}
    (places : L.places cursor cursor') {rounds rounds' : Nat} (enough : cursor.rest.length < rounds)
    (enough' : cursor'.rest.length < rounds') :
    L.Concludes (fun after after' => after.SameGenerator after' ∧ after'.bindings = after.bindings)
      (fun _ _ => True) (session.assignFrom cursor rounds) (session'.assignFrom cursor' rounds') := by
  induction rounds generalizing session session' cursor cursor' rounds' with
  | zero => omega
  | succ rounds ih =>
    obtain _ | rounds' := rounds'
    · omega
    rcases next_parallel places with ⟨none, none'⟩ | ⟨found, found', shorter, shorter'⟩
    · rw [assignFrom, assignFrom, none, none']
      exact .ok trivial ⟨generator, bindings⟩
    · have named := L.current places
      by_cases word : cursor.current.kind = .word
      · have past : L.places cursor.advance cursor'.advance :=
          L.advance places (by rw [word]; rfl)
        have signed := L.current past
        have word' := (L.kind named).trans word
        by_cases sign : cursor.advance.current.kind = .assign
        · have states : State.Related L.opens (session.stateAt cursor.advance.advance)
              (session'.stateAt cursor'.advance.advance) :=
            ⟨L.opened past (by rw [sign]; decide), generator⟩
          have arrives := expression_parallel corresponds bindings states
          rw [assignFrom_named _ found word sign,
            assignFrom_named _ found' word' ((L.kind signed).trans sign), L.word named]
          generalize Run.expression session.environment _ = result at arrives ⊢
          generalize Run.expression session'.environment _ = other at arrives ⊢
          cases arrives with
          | error fails _ _ generator => exact .error fails ⟨generator, bindings⟩
          | @ok v _ state state' same onward onward' states =>
            subst same
            have grown : ((session'.resume state').setVariable cursor.current.word v).bindings =
                ((session.resume state).setVariable cursor.current.word v).bindings := by
              simp only [setVariable, resume, bindings]
            rw [assigned, assigned]
            refine separated_parallel states.places rounds rounds' states.generator grown
              fun next less less' => ?_
            -- On both sides fewer characters are ahead than before the name, so the rounds suffice.
            have sized : cursor.advance.advance.rest.length ≤ cursor.advance.rest.length :=
              Cursor.advance_precedes.length_le
            have sized' : cursor'.advance.advance.rest.length ≤ cursor'.advance.rest.length :=
              Cursor.advance_precedes.length_le
            have behind : state.cursor.rest.length ≤ cursor.advance.advance.rest.length :=
              onward.precedes.length_le
            have behind' : state'.cursor.rest.length ≤ cursor'.advance.advance.rest.length :=
              onward'.precedes.length_le
            exact @ih ((session.resume state).setVariable cursor.current.word v)
              ((session'.resume state').setVariable cursor.current.word v) corresponds grown
              states.generator _ _ next rounds' (by omega) (by omega)
        · rw [assignFrom_unsigned _ found word sign,
            assignFrom_unsigned _ found' word' (by rwa [L.kind signed])]
          exact .error (.wanted signed _) ⟨generator, bindings⟩
      · rw [assignFrom_unnamed _ found word, assignFrom_unnamed _ found' (by rwa [L.kind named])]
        exact .error (.wanted named _) ⟨generator, bindings⟩

end Session

end MeshLang
