import MeshLang.Proofs.Regard.Sessions
import MeshLang.Proofs.Scalar.Exact
import MeshLang.Proofs.TypeSoundness
import MeshLang.Proofs.Untagged

namespace MeshLang

variable {α : Type}

theorem EvalError.Contains.ofTags {error : EvalError α} (contains : error.Contains FieldError.OfTags) :
    error.OfTags := by
  induction contains with
  | field here => exact .field here
  | argument _ ih => exact .plugin ih

structure Value.SameElements (v w : Value α) : Prop where
  kind : v.kind = w.kind
  location : v.location = w.location
  data : v.data = w.data

theorem Value.Alike.sameElements {v w : Value α} (alike : v.Alike .elements w) : v.SameElements w :=
  ⟨alike.kind, alike.location, alike.data.eq⟩

namespace Session

/-- What the ends of two runs say of each other: an answer of the first one is an answer of the second
one, read up to the same place, and any other failure is one of the second one, unless that fails
because of tags. The sessions then differ in tags only. -/
structure TagBlind {β : Type} (same : β → β → Prop) (result other : Session α × Except (EvalError α) β) :
    Prop where
  answers : ∀ v, result.2 = .ok v →
    (∃ w, other.2 = .ok w ∧ same v w ∧ result.1.stop = other.1.stop ∧
      result.1.Alike .elements other.1) ∨ ∃ error, other.2 = .error error ∧ error.OfTags
  failures : ∀ error, result.2 = .error error → error.OfTags ∨
    (other.2 = .error error ∧ result.1.Alike .elements other.1) ∨
      ∃ error, other.2 = .error error ∧ error.OfTags

theorem Ends.tagBlind {β : Type} {S : Session α → Session α → Prop} {R same : β → β → Prop}
    {result other : Session α × Except (EvalError α) β}
    (ends : Ends S R Regard.elements.failures result other) (related : ∀ v w, R v w → same v w)
    (alike : ∀ after after', S after after' → after.Alike .elements after') :
    TagBlind same result other := by
  cases ends with
  | ok values both =>
    refine ⟨fun v answer => ?_, nofun⟩
    cases answer
    exact .inl ⟨_, rfl, related _ _ values, (alike _ _ both).inStep.stop, alike _ _ both⟩
  | error shared both =>
    refine ⟨nofun, fun error failed => ?_⟩
    cases failed
    exact .inr (.inl ⟨rfl, alike _ _ both⟩)
  | left excused =>
    refine ⟨nofun, fun error failed => ?_⟩
    cases failed
    exact .inl excused.ofTags
  | right excused =>
    exact ⟨fun v _ => .inr ⟨_, rfl, excused.ofTags⟩, fun error _ => .inr (.inr ⟨_, rfl, excused.ofTags⟩)⟩

/-- Two sessions in which tags have no influence on data, entry point by entry point. -/
structure Noninterfering [Scalar α] (session session' : Session α) : Prop where
  whole : ∀ text, TagBlind Value.SameElements (session.evaluate text) (session'.evaluate text)
  start : ∀ text, TagBlind Value.SameElements (session.evaluateStart text) (session'.evaluateStart text)
  typed : ∀ text type,
    TagBlind Value.SameElements (session.evaluateAs text type) (session'.evaluateAs text type)
  logical : ∀ text location, TagBlind Value.SameElements (session.evaluateLogical text location)
    (session'.evaluateLogical text location)
  argument : ∀ text offset expected,
    TagBlind (fun answer other => answer.1.SameElements other.1 ∧ answer.2 = other.2)
      (session.argument text offset expected) (session'.argument text offset expected)
  assignments : ∀ text, TagBlind (fun _ _ => True) (session.assign text) (session'.assign text)

/-- Sessions that differ only in the tags of fields, old values, the flux of the mesh motion, fields
of other meshes and variables answer alike but for tags, or one of them fails because of tags. -/
theorem noninterference [Scalar α] (session session' : Session α)
    (alike : session.Alike .elements session') (library : session.registry = Plugin.library) :
    session.Noninterfering session' := by
  have accepted (text : List Char) (expected : Option ValueType) (whole : Bool) :
      TagBlind Value.SameElements (session.accept text expected whole)
        (session'.accept text expected whole) :=
    (alike.accept library text expected whole).tagBlind (fun _ _ values => values.sameElements)
      fun _ _ both => both.1
  exact {
    whole := fun text => accepted text none true
    start := fun text => accepted text none false
    typed := fun text type => accepted text (some type) true
    logical := fun text location => accepted text (some ⟨.logical, location⟩) true
    argument := fun text offset expected => (alike.argument library text offset expected).tagBlind
      (fun _ _ both => ⟨both.1.sameElements, both.2⟩) fun _ _ both => both
    assignments := fun text => (alike.assign library text).tagBlind (fun _ _ _ => trivial)
      fun _ _ both => both }

def measured (tag : Option (Dimensions Exact)) : Session Exact :=
  ofRepository { Repository.ofMesh Mesh.tetrahedron with
    fields := OrderedMap.empty.insert "p" ((Value.scalar .volume [Scalar.ofNat 2]).withDimensions tag) }

theorem measured_alike (tag tag' : Option (Dimensions Exact)) :
    (measured tag).Alike .elements (measured tag') where
  repository := {
    mesh := rfl
    fields := OrderedMap.rel_insert (fun _ => .none) "p" ⟨rfl, rfl, .refl _, trivial⟩
    history := fun _ => .none
    tables := rfl
    foreign := fun _ => .none
    time := rfl
    timeStep := rfl
    meshPhi := .none }
  registry := rfl
  options := rfl
  bindings := fun _ => .none
  inStep := ⟨rfl, rfl, rfl, rfl, rfl⟩

/-- With a tag the sum of a length and an area is refused, the product of two lengths is not. -/
theorem noninterference_measured :
    let length : Dimensions Exact := { Dimensions.dimensionless with length := Scalar.one }
    let plain := measured none
    let tagged := measured (some length)
    plain.Alike .elements tagged ∧ plain.registry = Plugin.library ∧
      (plain.evaluate "p + p * p".toList).2.isOk = true ∧
      (tagged.evaluate "p + p * p".toList).2.isOk = false ∧
      (tagged.evaluate "clamp(p * p, 0, 3)".toList).2.isOk = true ∧
      plain.Noninterfering tagged := by
  refine ⟨measured_alike _ _, rfl, by decide +kernel, by decide +kernel, by decide +kernel, ?_⟩
  exact noninterference _ _ (measured_alike _ _) rfl

end Session

end MeshLang
