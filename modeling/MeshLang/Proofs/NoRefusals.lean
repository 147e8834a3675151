import MeshLang.Proofs.Acceptance.Dispatch
import MeshLang.Proofs.Acceptance.Environment

namespace MeshLang

variable {α : Type}

/-- A failure of elements to be combined. -/
def EvalError.IsRefusal : EvalError α → Prop
  | .field error => error.IsRefusal
  | _ => False

theorem EvalError.lenient_field :
    EvalError.Lenient fun error : EvalError α => ¬ error.IsRefusal where
  plain error plain := by
    cases error <;> first | exact plain.elim | exact fun refused => refused
  fields _ accepted := accepted

theorem EvalError.lenient_contains :
    EvalError.Lenient fun error : EvalError α => ¬ error.Contains FieldError.IsRefusal where
  plain error plain := by rintro (here | _) <;> exact plain
  fields error accepted := by
    rintro ⟨refused⟩
    exact accepted refused

theorem Script.Meets.mono {β : Type} {P P' : Value α → Prop} {E E' : EvalError α → Prop}
    {Q Q' : β → Prop} {script : Script α β} (meets : script.Meets P E Q)
    (told : ∀ expected answer, Told P' E' expected answer → Told P E expected answer)
    (implies : ∀ answer, Q answer → Q' answer) : script.Meets P' E' Q' := by
  induction script with
  | done answer => exact implies answer meets
  | argument start expected next ih =>
    exact fun answer promised => ih answer (meets answer (told expected answer promised))

theorem Plugin.Keeps.refuses {plugin : Plugin α} {P : Value α → Prop}
    (keeps : plugin.Keeps P AnyError) : plugin.Keeps P fun error => ¬ error.IsRefusal :=
  fun text => (keeps text).mono (fun _ _ told => told.widen fun _ _ => trivial)
    fun _ answer => (answer.widen fun _ _ _ refused => refused)

variable [Scalar α]

/-- The pairs of values that evaluations of a text read from `start` on ask for a common domain of,
with the checks that have passed before. -/
inductive Environment.Combines (env : Environment α) (start : Cursor) : Value α → Value α → Prop where
  | operator {op : BinaryOp} {v w : Value α} {kind : Kind} {place : Token} :
      env.Yields start v → env.Yields start w → op.result? v.kind w.kind = some kind →
      checkLocations op.symbol v w place = .ok () → Combines env start v w
  | branches {c v w : Value α} {kind : Kind} {question colon : Token} :
      env.Yields start c → env.Yields start v → env.Yields start w →
      choiceResult? c.kind v.kind w.kind = some kind → checkLocations "?:" c v question = .ok () →
      checkLocations "?:" v w colon = .ok () → checkLocations "?:" c w question = .ok () →
      Combines env start v w
  | power {v w : Value α} {function : Token} : env.Yields start v → env.Yields start w →
      v.kind = .scalar → w.kind = .scalar → checkLocations "pow" v w function = .ok () →
      Combines env start v w
  | extremum {v w : Value α} {function : Token} : env.Yields start v → env.Yields start w →
      v.kind ∈ Kind.numeric → w.kind = v.kind → checkLocations function.word v w function = .ok () →
      Combines env start v w
  | component {function : Token} {first other : Argument α} {rest : List (Argument α)} :
      (∀ arg ∈ first :: rest, env.Yields start arg.value) →
      checkComponents function none (first :: rest) = .ok () → other ∈ rest →
      Combines env start first.value other.value
  | carried {flow v faces : Value α} {rates : List α} : env.Yields start flow → env.Yields start v →
      flow.isAt .surface [.scalar] = true → v.isAt .volume Kind.numeric = true →
      flow.scalars? = some rates → env.mesh.interpolate v = .ok faces →
      Combines env start (.scalar .surface rates) faces
  | scaled {factor v plain : Value α} : env.Yields start factor → env.Yields start v →
      factor.isConstant = true → factor.kind = .scalar → v.isAt .volume Kind.numeric = true →
      env.mesh.laplacian none v = .ok plain → Combines env start factor.untagged plain
  | rate {v w : Value α} :
      env.registry.Calls start "ddt" ∨ env.registry.Calls start "d2dt2" → Combines env start v w

structure Value.Combinable (mesh : Mesh α) (v w : Value α) : Prop where
  left : v.Fits mesh
  right : w.Fits mesh
  together : v.Together w

theorem Environment.Combines.combinable {env : Environment α} {start : Cursor} {v w : Value α}
    (combined : env.Combines start v w) (omits : env.registry.Omits start Builtin.retrospective)
    (fits : ∀ u, env.Yields start u → u.Fits env.mesh) : Value.Combinable env.mesh v w := by
  induction combined with
  | operator left right _ passed => exact ⟨fits _ left, fits _ right, checkLocations_ok passed⟩
  | branches _ left right _ _ passed _ => exact ⟨fits _ left, fits _ right, checkLocations_ok passed⟩
  | power left right _ _ passed => exact ⟨fits _ left, fits _ right, checkLocations_ok passed⟩
  | extremum left right _ _ passed => exact ⟨fits _ left, fits _ right, checkLocations_ok passed⟩
  | @component function first other rest all passed member =>
    have unlocated : ∀ first : Value α, none = some first → first.location.isSome := nofun
    have inside : other ∈ first :: rest := List.mem_cons_of_mem first member
    obtain ⟨location, -, suits⟩ := (checkComponents_suits function _ unlocated).of_ok passed
    exact ⟨fits _ (all first List.mem_cons_self), fits _ (all other inside),
      (suits first List.mem_cons_self).together (suits other inside)⟩
  | carried through field surface placed held made =>
    obtain ⟨carried, located⟩ := (Mesh.interpolate_meets (fits _ field) placed).of_ok made
    exact ⟨Mesh.rates_fits (fits _ through) surface held, carried, Mesh.rates_together located⟩
  | @scaled factor v plain left field constant _ placed made =>
    have product := (Mesh.laplacian_fits none (fits _ field).shape).of_ok made
    exact ⟨(fits _ left).untagged, product, Value.constant_together constant plain⟩
  | rate called =>
    rcases called with called | called
    · exact absurd called (omits "ddt" (by decide))
    · exact absurd called (omits "d2dt2" (by decide))

namespace Session

/-- A session in which elements refuse nothing, for texts that look at no old values: no failure is
one of elements to be combined, not even in an argument of a plugin unless a plugin makes it up; two
values that are combined have a domain, and lie at one location if both are located; and no call is
left to the end of a case distinction. -/
structure NeverRefuses (session : Session α) : Prop where
  failures : session.Delivers Builtin.retrospective (·.Fits session.repository.mesh)
    fun error => ¬ error.IsRefusal
  nested : (∀ name plugin, session.registry.get? name = some plugin →
      plugin.Keeps (·.Fits session.repository.mesh) fun error => ¬ error.Contains FieldError.IsRefusal) →
    session.Delivers Builtin.retrospective (·.Fits session.repository.mesh)
      fun error => ¬ error.Contains FieldError.IsRefusal
  domains : ∀ bindings : OrderedMap String (Value α),
    (∀ name v, bindings.get? name = some v → v.Fits session.repository.mesh) →
    ∀ start v w, session.registry.Omits start Builtin.retrospective →
      { session.environment with bindings }.Combines start v w →
        v.Together w ∧ ∃ place, Value.domain v w = .ok place
  calls : ∀ bindings, { session.environment with bindings }.Dispatches

/-- A session over a repository that was built, with variables that fit its mesh and plugins that
answer with values that fit it, refuses nothing of what passes the checks of expressions. -/
theorem no_refusals (session : Session α) (built : session.repository.Built)
    (bindings : ∀ name v, session.bindings.get? name = some v → v.Fits session.repository.mesh)
    (plugins : ∀ name plugin, session.registry.get? name = some plugin →
      plugin.Keeps (·.Fits session.repository.mesh) AnyError) : session.NeverRefuses := by
  have sound (other : OrderedMap String (Value α))
      (fit : ∀ name v, other.get? name = some v → v.Fits session.repository.mesh) :
      { session.environment with bindings := other }.Sound :=
    { repository := built.sound, bindings := fit }
  have delivered {E : EvalError α → Prop} (lenient : EvalError.Lenient E)
      (keeps : ∀ name plugin, session.registry.get? name = some plugin →
        plugin.Keeps (·.Fits session.repository.mesh) E) :
      session.Delivers Builtin.retrospective (·.Fits session.repository.mesh) E :=
    delivers (fun other fit _ omits => (sound other fit).preserves lenient omits keeps) bindings
  have direct := delivered EvalError.lenient_field fun name plugin found =>
    (plugins name plugin found).refuses
  exact {
    failures := direct
    nested := fun keeps => delivered EvalError.lenient_contains keeps
    domains := fun other fit start v w omits combined => by
      have ready := combined.combinable omits fun u => direct.reductions other fit start u omits
      exact ⟨ready.together, _, Value.domain_eq ready.left ready.right ready.together⟩
    calls := fun other => Environment.dispatches _ }

theorem library_refuses {mesh : Mesh α} {name : String} {plugin : Plugin α}
    (found : Plugin.library.get? name = some plugin) :
    plugin.Keeps (·.Fits mesh) fun error => ¬ error.Contains FieldError.IsRefusal := by
  refine Plugin.library_keeps_fits ?_ ?_ found
  · rintro error plain name (_ | _)
    exact plain
  · rintro offset error accepted name (_ | refused)
    exact accepted refused

/-- Fields in cells, on faces and constants, with an operator, a choice, a flow and a plugin. -/
theorem no_refusals_tetrahedron :
    let text := "p > 0 ? div(interpolate(p) * area(), p) : laplacian(two, clamp(p, 0, 1))".toList
    tetrahedron.repository.Built ∧
      tetrahedron.registry.Omits (.ofText text) Builtin.retrospective ∧
      (tetrahedron.evaluate text).2.isOk = true ∧ tetrahedron.NeverRefuses ∧
      tetrahedron.Delivers Builtin.retrospective (·.Fits tetrahedron.repository.mesh)
        fun error => ¬ error.Contains FieldError.IsRefusal := by
  have refuses : tetrahedron.NeverRefuses := by
    refine no_refusals tetrahedron tetrahedron_built ?_ fun _ _ found => Plugin.library_fits found
    exact OrderedMap.forall_insert OrderedMap.forall_empty ⟨rfl, rfl⟩
  refine ⟨tetrahedron_built, .of_absent (by decide +kernel), by decide +kernel, refuses, ?_⟩
  exact refuses.nested fun _ _ found => library_refuses found

end Session

end MeshLang
