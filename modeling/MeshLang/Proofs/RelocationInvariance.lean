import MeshLang.Proofs.Parallel.Sessions
import MeshLang.Proofs.Relocation.Steps

namespace MeshLang

variable {α : Type}

namespace Motion

theorem relocates_library [Scalar α] {env : Environment α}
    (library : ∀ name plugin, env.registry.get? name = some plugin → plugin.IsLibrary)
    (distance : Nat) (start : Cursor) : env.Relocates ⟨distance, id⟩ start :=
  ⟨fun name plugin found => (library name plugin found).shifts distance, .inl rfl⟩

end Motion

namespace Session

variable [Scalar α]

theorem argument_at (session : Session α) {text : List Char} {start : Nat} {cursor : Cursor}
    (place : Cursor.within (session.origins.headD 0) text start = cursor) (expected : Option ValueType) :
    session.argument text start expected =
      session.finished (EStateM.bind (Run.evaluate session.environment (text.length + 1) none 0)
        (Correspondence.told session.environment (session.origins.headD 0) start expected)
        (session.stateAt cursor)) := by
  rw [argument_eq, Correspondence.argumentAt_eq, ← place]
  rfl

theorem within_zero (base : Nat) (text : List Char) : Cursor.within base text 0 = ⟨text, base, 0⟩ := by
  unfold Cursor.within
  rw [Text.dropBytes?_zero]

/-- The same session with texts of active plugins that start at some bytes. -/
def within (session : Session α) (origins : List Nat) : Session α := { session with origins }

/-- Nested evaluation in a session depends on its place in no way but by shifting. `told`: what a plugin
is told in the course of an evaluation is what the session would answer. `split`: only the sum of the
place where a text starts and of the place within it counts. `shifted`: an argument is evaluated as its
text would be by itself, further on. `top`: by itself, a text gives the value that the session then
expands over the default location. -/
structure Relocates (session : Session α) : Prop where
  told : ∀ text start expected depth state, text.length < depth →
    session.finished (Run.argumentAt session.environment (Run.evaluate session.environment depth) text
      start expected state) = (session.resume state).argument text start expected
  split : ∀ base origins taken rest expected, Text.Addressable (taken ++ rest) →
    let whole := (session.within (base :: origins)).argument (taken ++ rest) (Text.byteSize taken) expected
    let part := (session.within ((base + Text.byteSize taken) :: origins)).argument rest 0 expected
    whole.2 = part.2.map (fun answer => (answer.1, answer.2 + Text.byteSize taken)) ∧
      whole.1 = part.1.within (base :: origins)
  shifted : ∀ base origins text expected, (session.within (base :: origins)).Addresses text →
    let nested := (session.within (base :: origins)).argument text 0 expected
    let alone := (session.within []).argument text 0 expected
    nested.2 = shiftFailure base alone.2 ∧
      nested.1 = { alone.1.within (base :: origins) with position := alone.1.position + base }
  top : ∀ text, session.evaluateStart text =
    match session.cleared.argument text 0 none with
    | (after, .error error) => (after, .error error)
    | (after, .ok (v, stop)) =>
      let value := v.broadcastTo session.options.defaultLocation
        (session.repository.mesh.size session.options.defaultLocation)
      ({ after with result := some value, stop }, .ok value)

theorem told_eq_argument (session : Session α) (text : List Char) (start : Nat)
    (expected : Option ValueType) {depth : Nat} (state : State) (enough : text.length < depth) :
    session.finished (Run.argumentAt session.environment (Run.evaluate session.environment depth) text
      start expected state) = (session.resume state).argument text start expected := by
  let env := session.environment
  let base : Cursor := ⟨text, state.origins.headD 0, 0⟩
  have relocates := Motion.relocates_still env (.within base.place base.rest start)
  have asks : Motion.Asks .still env.registry base start state
      (Run.argumentAt env (Run.evaluate env (text.length + 1)) base.rest start expected)
      (Run.argumentAt env (Run.evaluate env depth) base.rest start expected) :=
    Motion.argumentAt_asks (Motion.Recurses.evaluate relocates (text.length + 1) depth) expected rfl .refl
      (.inr ⟨Nat.lt_succ_self _, enough⟩)
  have ends := asks.moved (Motion.still.inside state.origins) rfl
  have same := ends.eq_of_still asks.origins
  rw [Motion.moved_still rfl] at same
  rw [argument_eq]
  change session.finished (Run.argumentAt env (Run.evaluate env depth) base.rest start expected state) = _
  rw [same]
  have there : Run.argumentAt env (Run.evaluate env (text.length + 1)) text start expected state =
      Run.argumentAt (session.resume state).environment
        (Run.evaluate (session.resume state).environment (text.length + 1)) text start expected
        ((session.resume state).stateAt (.ofText text)) := rfl
  rw [← there]
  cases Run.argumentAt env (Run.evaluate env (text.length + 1)) text start expected state <;> rfl

omit [Scalar α] in
theorem resume_moved (session : Session α) {motion : Motion} (same : motion.reseed = id)
    (footing : motion.Footing) (after : State) :
    (session.within footing.origins).resume (after.moved footing) =
      { ((session.within []).resume after).within footing.origins with
        position := after.cursor.current.offset + motion.distance } := by
  have further : (after.moved footing).cursor.current.offset =
      after.cursor.current.offset + motion.distance := by
    rw [Motion.current_moved]
    rfl
  have kept : (after.moved footing).generator = after.generator := congrFun same after.generator
  unfold resume
  rw [further, kept]
  rfl

/-- An expression in the middle of a text, which starts somewhere in a larger one, is evaluated as it is
by itself. Both sides read the same characters, from places that are counted in different texts. -/
theorem argument_relocated (session : Session α)
    (library : ∀ name plugin, session.registry.get? name = some plugin → plugin.IsLibrary)
    (base : Nat) (origins : List Nat) (taken rest : List Char) (expected : Option ValueType) :
    let distance := base + Text.byteSize taken
    let nested := (session.within (base :: origins)).argument (taken ++ rest) (Text.byteSize taken) expected
    let alone := (session.within []).argument rest 0 expected
    nested.2 = (shiftFailure distance alone.2).map (fun answer =>
        (answer.1, answer.2 + Text.byteSize taken)) ∧
      nested.1 = { alone.1.within (base :: origins) with position := alone.1.position + distance } := by
  intro distance nested alone
  let env := session.environment
  let motion : Motion := ⟨distance, id⟩
  let footing : motion.Footing := ⟨base, Text.byteSize taken, base :: origins, rfl⟩
  let state := (session.within []).stateAt (.ofText rest)
  have relocates : env.Relocates motion state.cursor := Motion.relocates_library library distance _
  have ready : Motion.Ready (rest.length + 1) ((taken ++ rest).length + 1) rest.length :=
    .inr ⟨Nat.lt_succ_self _, by rw [List.length_append]; omega⟩
  have carries := (Motion.Recurses.evaluate relocates (rest.length + 1)
    ((taken ++ rest).length + 1)).fresh 0 state ⟨.refl, ready⟩
  have place : Cursor.within base (taken ++ rest) (Text.byteSize taken) =
      state.cursor.move base (Text.byteSize taken) := by
    rw [Cursor.within, Text.dropBytes?_byteSize_append]
    exact congrArg (Cursor.mk rest base) (Nat.zero_add _).symm
  have asked : nested = (session.within (base :: origins)).finished
      ((Run.evaluate env ((taken ++ rest).length + 1) none 0 >>=
        Correspondence.told env base (Text.byteSize taken) expected) (state.moved footing)) :=
    (session.within (base :: origins)).argument_at place expected
  have asked' : alone = (session.within []).finished
      ((Run.evaluate env (rest.length + 1) none 0 >>= Correspondence.told env 0 0 expected) state) :=
    (session.within []).argument_at (within_zero 0 rest) expected
  have ends := (carries.moved footing).bind fun v after _ =>
    show motion.Ends footing _ (Correspondence.told env 0 0 expected v after) _ from
      Motion.told_moved expected 0 0 v after footing
  change motion.Ends footing _ _ ((Run.evaluate env ((taken ++ rest).length + 1) none 0 >>=
    Correspondence.told env base (0 + Text.byteSize taken) expected) _) at ends
  rw [Nat.zero_add] at ends
  rw [asked, asked']
  generalize (Run.evaluate env (rest.length + 1) none 0 >>= _) state = result at ends ⊢
  generalize (Run.evaluate env ((taken ++ rest).length + 1) none 0 >>= _) _ = other at ends ⊢
  cases ends with
  | ok => exact ⟨rfl, session.resume_moved rfl footing _⟩
  | error last same =>
    refine ⟨rfl, ?_⟩
    have resumed := session.resume_moved rfl last
    rw [same] at resumed
    exact resumed _

/-- Only the place in the outermost text counts, however it is split. -/
theorem argument_split (session : Session α)
    (library : ∀ name plugin, session.registry.get? name = some plugin → plugin.IsLibrary)
    (base : Nat) (origins : List Nat) (taken rest : List Char) (expected : Option ValueType) :
    let whole := (session.within (base :: origins)).argument (taken ++ rest) (Text.byteSize taken) expected
    let part := (session.within ((base + Text.byteSize taken) :: origins)).argument rest 0 expected
    whole.2 = part.2.map (fun answer => (answer.1, answer.2 + Text.byteSize taken)) ∧
      whole.1 = part.1.within (base :: origins) := by
  intro whole part
  obtain ⟨outcome, after⟩ := session.argument_relocated library base origins taken rest expected
  obtain ⟨outcome', after'⟩ :=
    session.argument_relocated library (base + Text.byteSize taken) origins [] rest expected
  change part.2 = _ at outcome'
  change part.1 = _ at after'
  rw [outcome', after']
  refine ⟨outcome.trans ?_, after⟩
  cases ((session.within []).argument rest 0 expected).2 <;> rfl

theorem argument_shifted (session : Session α)
    (library : ∀ name plugin, session.registry.get? name = some plugin → plugin.IsLibrary)
    (base : Nat) (origins : List Nat) (text : List Char) (expected : Option ValueType) :
    let nested := (session.within (base :: origins)).argument text 0 expected
    let alone := (session.within []).argument text 0 expected
    nested.2 = shiftFailure base alone.2 ∧
      nested.1 = { alone.1.within (base :: origins) with position := alone.1.position + base } := by
  intro nested alone
  obtain ⟨outcome, after⟩ := session.argument_relocated library base origins [] text expected
  refine ⟨outcome.trans ?_, after⟩
  change (shiftFailure base alone.2).map _ = shiftFailure base alone.2
  cases alone.2 <;> rfl

theorem evaluateStart_eq (session : Session α) (text : List Char) :
    session.evaluateStart text =
      match session.cleared.argument text 0 none with
      | (after, .error error) => (after, .error error)
      | (after, .ok (v, stop)) =>
        let value := v.broadcastTo session.options.defaultLocation
          (session.repository.mesh.size session.options.defaultLocation)
        ({ after with result := some value, stop }, .ok value) := by
  let env := session.environment
  let state := session.cleared.stateAt (.ofText text)
  have read : reading env false state = EStateM.bind (Run.evaluate env (text.length + 1) none 0)
      (fun v => pure v) state := rfl
  have asked : session.cleared.argument text 0 none = session.cleared.finished
      (EStateM.bind (Run.evaluate env (text.length + 1) none 0)
        (Correspondence.told env 0 0 none) state) := session.cleared.argument_at (within_zero 0 text) none
  unfold evaluateStart
  rw [accept_eq, asked]
  change conclude _ _ (reading env false state) = _
  rw [read]
  unfold EStateM.bind
  cases Run.evaluate env (text.length + 1) none 0 state <;> rfl

/-- Nested evaluation is invariant under relocation. -/
theorem relocation_invariance (session : Session α)
    (library : ∀ name plugin, session.registry.get? name = some plugin → plugin.IsLibrary) :
    session.Relocates where
  told text start expected _ state enough := session.told_eq_argument text start expected state enough
  split base origins taken rest expected _ := session.argument_split library base origins taken rest expected
  shifted base origins text expected _ := session.argument_shifted library base origins text expected
  top text := session.evaluateStart_eq text

/-- An argument with a call of its own, of which the first one is closed and the second one is not. -/
theorem relocation_invariance_tetrahedron :
    let session := overTetrahedron
    let closed := "1 + clamp(pi, 0, 2), 0, 1)".toList
    let unclosed := "1 + clamp(pi, 0, 2".toList
    session.registry = Plugin.library ∧
      (session.argument closed 0 none).2.isOk = true ∧
      (session.argument unclosed 0 none).2.isOk = false ∧
      (session.argument closed 0 none).1.position = 19 ∧
      ((session.within [7]).argument closed 0 none).1.position = 26 ∧
      ((session.within [7]).argument unclosed 0 none).2 =
        shiftFailure 7 ((session.within []).argument unclosed 0 none).2 := by
  refine ⟨rfl, by decide +kernel, by decide +kernel, by decide +kernel, by decide +kernel, ?_⟩
  have relocates := relocation_invariance overTetrahedron fun _ _ found => Plugin.library_isLibrary found
  exact (relocates.shifted 7 [] _ none (by decide +kernel)).1

/-- By itself a constant is expanded, and as an argument it is not. -/
theorem argument_not_expanded :
    let text := "2".toList
    (overTetrahedron.argument text 0 none).2.toOption.map Prod.fst ≠
      (overTetrahedron.evaluateStart text).2.toOption := by
  decide +kernel

end Session

end MeshLang
