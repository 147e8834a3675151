import MeshLang.Proofs.Evaluation.FramedSessions
import MeshLang.Proofs.Parallel.Sessions
import MeshLang.Proofs.Scalar.Exact

namespace MeshLang

variable {α : Type} [Scalar α]

def Repository.Reserves (repository : Repository α) (name : String) : Prop :=
  (Builtin.ofName? name).isSome = true ∨ (repository.tables.get? name).isSome = true ∨
    (repository.foreign.get? name).isSome = true

namespace Environment

variable {env : Environment α} {plugin : Plugin α} {P : Generator → Prop} {draw draw' : Draw α}

omit [Scalar α] in
theorem plugin?_register_of_ne {name : String} (other : name ≠ plugin.name) :
    (env.withRegistry (env.registry.register plugin)).plugin? name = env.plugin? name := by
  have kept : (env.registry.register plugin).get? name = env.registry.get? name := by
    unfold Registry.get? Registry.register
    rw [OrderedMap.get?_insert, if_neg other.symm]
  unfold plugin? withRegistry
  dsimp only
  rw [kept]

omit [Scalar α] in
theorem plugin?_of_reserves {name : String} (reserves : env.repository.Reserves name)
    (registry : Registry α) : (env.withRegistry registry).plugin? name = none := by
  unfold plugin? withRegistry
  rcases reserves with known | known | known <;>
    simp [Option.isNone_iff_eq_none, Option.isSome_iff_ne_none.mp known]

/-- A plugin under a reserved name is never found. -/
theorem admits_of_reserves (reserves : env.repository.Reserves plugin.name) :
    Frame.same.Admits False env (env.registry.register plugin) (Run.unseeded env)
      (Run.unseeded env) where
  draws := Frame.Follows.unseeded env
  library never := never.elim
  plugins name := by
    left
    by_cases same : name = plugin.name
    · subst same
      rw [plugin?_of_reserves reserves]
      exact (plugin?_of_reserves reserves env.registry).symm
    · exact plugin?_register_of_ne same

/-- A plugin under a new name is found only where nothing was found before. -/
theorem admits_of_fresh
    (library : ∀ name plugin, env.registry.get? name = some plugin → plugin.IsLibrary)
    (fresh : env.registry.get? plugin.name = none) :
    Frame.same.Admits True env (env.registry.register plugin) (Run.unseeded env)
      (Run.unseeded env) where
  draws := Frame.Follows.unseeded env
  library _ name plugin found := library name plugin (get?_of_plugin? found)
  plugins name := by
    by_cases same : name = plugin.name
    · right
      subst same
      refine ⟨trivial, ?_⟩
      unfold plugin?
      split
      · exact fresh
      · rfl
    · exact .inl (plugin?_register_of_ne same)

end Environment

namespace Session

structure Throughout (R : ∀ {β : Type}, Session α × Except (EvalError α) β →
    Session α × Except (EvalError α) β → Prop) (session session' : Session α) : Prop where
  whole : ∀ text, R (session.evaluate text) (session'.evaluate text)
  typed : ∀ text type, R (session.evaluateAs text type) (session'.evaluateAs text type)
  logical : ∀ text location,
    R (session.evaluateLogical text location) (session'.evaluateLogical text location)
  start : ∀ text, R (session.evaluateStart text) (session'.evaluateStart text)
  argument : ∀ text offset expected,
    R (session.argument text offset expected) (session'.argument text offset expected)
  assignments : ∀ text, R (session.assign text) (session'.assign text)

/-- A further plugin makes no difference, neither to values nor to failures, and the session is left as
it is without that plugin. -/
def Unmoved (plugin : Plugin α) {β : Type}
    (result other : Session α × Except (EvalError α) β) : Prop :=
  other = (result.1.register plugin, result.2)

/-- A further plugin makes no difference to a success. -/
def Extends (plugin : Plugin α) {β : Type}
    (result other : Session α × Except (EvalError α) β) : Prop :=
  ∀ answer, result.2 = .ok answer → other = (result.1.register plugin, .ok answer)

variable {session : Session α} {plugin : Plugin α} {lenient : Prop}

omit [Scalar α] in
theorem register_related (session : Session α) (plugin : Plugin α) :
    Related Frame.same (·.register plugin) True session.origins session
      (session.register plugin) :=
  ⟨rfl, rfl, rfl, rfl, rfl, fun _ => ⟨rfl, rfl, trivial⟩, fun _ => ⟨rfl, rfl⟩⟩

omit [Scalar α] in
theorem Related.eq_register {origins : List Nat} {after after' : Session α}
    (related : Related Frame.same (·.register plugin) True origins after after') :
    after' = after.register plugin := by
  have states := (related.states (.ofText [])).1
  have slots := related.slots trivial
  obtain ⟨repository, registry, options, bindings, stop, -, -⟩ := related
  obtain ⟨result, position⟩ := slots
  unfold stateAt at states
  rw [State.mk.injEq] at states
  obtain ⟨-, origins, generator, trace⟩ := states
  obtain ⟨_, _, _, _, _, _, _, _, _, _⟩ := after'
  dsimp only at repository registry options bindings stop result position origins generator trace
  subst repository registry options bindings stop result position origins generator trace
  rfl

omit [Scalar α] in
theorem Concludes.unmoved {β : Type} {origins : List Nat}
    {result other : Session α × Except (EvalError α) β}
    (concludes : Concludes Frame.same lenient (·.register plugin) True origins result other) :
    Unmoved plugin result other ∨ lenient ∧ ∃ error, result.2 = .error error := by
  cases concludes with
  | same related =>
    left
    unfold Unmoved
    rw [related.eq_register]
  | excused may => exact .inr ⟨may, _, rfl⟩

theorem register_throughout
    {R : ∀ {β : Type}, Session α × Except (EvalError α) β →
      Session α × Except (EvalError α) β → Prop}
    (admits : Frame.same.Admits lenient session.environment (session.registry.register plugin)
      (Run.unseeded session.environment) (Run.unseeded session.environment))
    (enough : ∀ {β : Type} {result other : Session α × Except (EvalError α) β},
      Unmoved plugin result other ∨ lenient ∧ (∃ error, result.2 = .error error) → R result other) :
    Throughout R session (session.register plugin) := by
  have related := register_related session plugin
  have accepted (text : List Char) (expected : Option ValueType) (whole : Bool) :
      R (session.accept text expected whole)
        ((session.register plugin).accept text expected whole) := by
    rw [← acceptWith_unseeded, ← acceptWith_unseeded]
    exact enough (acceptWith_related related admits text expected whole).unmoved
  exact {
    whole := fun text => accepted text none true
    typed := fun text type => accepted text (some type) true
    logical := fun text location => accepted text (some ⟨.logical, location⟩) true
    start := fun text => accepted text none false
    argument := fun text offset expected => by
      rw [← argumentWith_unseeded, ← argumentWith_unseeded]
      exact enough (argumentWith_related related admits text offset expected).unmoved
    assignments := fun text => by
      unfold assign
      rw [← assignFromWith_unseeded, ← assignFromWith_unseeded]
      exact enough (assignFromWith_related related admits (.ofText text) (text.length + 1)).unmoved }

/-- Registering a plugin under a new name changes no evaluation that succeeds, if the other plugins are
those of the library; and under the name of a function, a table or a mesh it changes no evaluation. -/
theorem register_conservative (session : Session α) (plugin : Plugin α) :
    ((∀ name plugin, session.registry.get? name = some plugin → plugin.IsLibrary) →
        session.registry.get? plugin.name = none →
        Throughout (Extends plugin) session (session.register plugin)) ∧
      (session.repository.Reserves plugin.name →
        Throughout (Unmoved plugin) session (session.register plugin)) := by
  constructor
  · intro library fresh
    refine register_throughout (Environment.admits_of_fresh library fresh) ?_
    rintro β result other (same | ⟨-, error, failed⟩) answer succeeded
    · rw [same, succeeded]
    · rw [failed] at succeeded
      cases succeeded
  · intro reserves
    refine register_throughout (Environment.admits_of_reserves reserves) ?_
    rintro β result other (same | ⟨never, -⟩)
    · exact same
    · exact never.elim

def constantly (name : String) (v : Value Exact) : Plugin Exact where
  name := name
  description := "a constant"
  call := fun text => .done (.ok (v, Text.byteSize text))

/-- Only a text that calls the new plugin tells the sessions apart. -/
theorem register_conservative_constantly :
    let two : Value Exact := .constantScalar (Scalar.ofNat 2)
    let text := "clamp(mag(rand() - 3), 0, 1)".toList
    (∀ name plugin, overTetrahedron.registry.get? name = some plugin → plugin.IsLibrary) ∧
      overTetrahedron.registry.get? "half" = none ∧ overTetrahedron.repository.Reserves "mag" ∧
      (overTetrahedron.evaluate text).2.isOk = true ∧
      (overTetrahedron.evaluate "half(1)".toList).2.isOk = false ∧
      ((overTetrahedron.register (constantly "half" two)).evaluate "half(1)".toList).2.isOk = true ∧
      Throughout (Extends (constantly "half" two)) overTetrahedron
        (overTetrahedron.register (constantly "half" two)) ∧
      Throughout (Unmoved (constantly "mag" two)) overTetrahedron
        (overTetrahedron.register (constantly "mag" two)) := by
  have library (name : String) (plugin : Plugin Exact) :
      overTetrahedron.registry.get? name = some plugin → plugin.IsLibrary := Plugin.library_isLibrary
  have fresh : overTetrahedron.registry.get? "half" = none := by decide +kernel
  have reserved : overTetrahedron.repository.Reserves "mag" := .inl (by decide +kernel)
  refine ⟨library, fresh, reserved, by decide +kernel, by decide +kernel, by decide +kernel, ?_, ?_⟩
  · exact (register_conservative overTetrahedron (constantly "half" _)).1 library fresh
  · exact (register_conservative overTetrahedron (constantly "mag" _)).2 reserved

end Session

end MeshLang
