import MeshLang.Proofs.Regard.Sessions
import MeshLang.Proofs.Repository.Built
import MeshLang.Proofs.Scalar.Exact

namespace MeshLang

variable {α : Type}

/-- Values of one type with as many elements. -/
structure Value.SameType (v w : Value α) : Prop where
  kind : v.kind = w.kind
  location : v.location = w.location
  size : v.size = w.size

theorem Value.Alike.sameType {regard : Regard} {v w : Value α} (alike : v.Alike regard w) :
    v.SameType w :=
  ⟨alike.kind, alike.location, alike.size⟩

abbrev EvalError.IsSingular (error : EvalError α) : Prop := error.Contains FieldError.IsSingular

namespace Session

/-- Unless one of two runs fails to invert a matrix, both answer with the same type, read up to the
same place, or both fail in the same way. The sessions then have values of the same types. -/
def TypedAlike {β : Type} (same : β → β → Prop) (result other : Session α × Except (EvalError α) β) :
    Prop :=
  (∀ error, result.2 = .error error → ¬ error.IsSingular) →
  (∀ error, other.2 = .error error → ¬ error.IsSingular) →
    (∃ v w, result.2 = .ok v ∧ other.2 = .ok w ∧ same v w ∧ result.1.stop = other.1.stop ∧
      result.1.Alike .types other.1) ∨
    ∃ error, result.2 = .error error ∧ other.2 = .error error ∧ result.1.Alike .types other.1

theorem Ends.typedAlike {β : Type} {S : Session α → Session α → Prop} {R same : β → β → Prop}
    {result other : Session α × Except (EvalError α) β}
    (ends : Ends S R Regard.types.failures result other) (related : ∀ v w, R v w → same v w)
    (alike : ∀ after after', S after after' → after.Alike .types after') :
    TypedAlike same result other := by
  intro invertible invertible'
  cases ends with
  | ok values both =>
    exact .inl ⟨_, _, rfl, rfl, related _ _ values, (alike _ _ both).inStep.stop, alike _ _ both⟩
  | error shared both => exact .inr ⟨_, rfl, rfl, alike _ _ both⟩
  | left excused => exact absurd excused (invertible _ rfl)
  | right excused => exact absurd excused (invertible' _ rfl)

structure StaticallyTyped [Scalar α] (session session' : Session α) : Prop where
  whole : ∀ text, TypedAlike Value.SameType (session.evaluate text) (session'.evaluate text)
  start : ∀ text, TypedAlike Value.SameType (session.evaluateStart text) (session'.evaluateStart text)
  typed : ∀ text type,
    TypedAlike Value.SameType (session.evaluateAs text type) (session'.evaluateAs text type)
  logical : ∀ text location, TypedAlike Value.SameType (session.evaluateLogical text location)
    (session'.evaluateLogical text location)
  argument : ∀ text offset expected,
    TypedAlike (fun answer other => answer.1.SameType other.1 ∧ answer.2 = other.2)
      (session.argument text offset expected) (session'.argument text offset expected)
  assignments : ∀ text, TypedAlike (fun _ _ => True) (session.assign text) (session'.assign text)

/-- What is legal, and of what type it is, is decided from meshes, names, kinds, locations and
numbers of elements alone. -/
theorem static_typing [Scalar α] (session session' : Session α)
    (alike : session.Alike .types session') (library : session.registry = Plugin.library) :
    session.StaticallyTyped session' := by
  have accepted (text : List Char) (expected : Option ValueType) (whole : Bool) :
      TypedAlike Value.SameType (session.accept text expected whole)
        (session'.accept text expected whole) :=
    (alike.accept library text expected whole).typedAlike (fun _ _ values => values.sameType)
      fun _ _ both => both.1
  exact {
    whole := fun text => accepted text none true
    start := fun text => accepted text none false
    typed := fun text type => accepted text (some type) true
    logical := fun text location => accepted text (some ⟨.logical, location⟩) true
    argument := fun text offset expected => (alike.argument library text offset expected).typedAlike
      (fun _ _ both => ⟨both.1.sameType, both.2⟩) fun _ _ both => both
    assignments := fun text => (alike.assign library text).typedAlike (fun _ _ _ => trivial)
      fun _ _ both => both }

def single (value : Exact) : Session Exact :=
  ofRepository { Repository.ofMesh Mesh.tetrahedron with
    fields := OrderedMap.empty.insert "p" (.scalar .volume [value]) }

theorem single_alike (value value' : Exact) : (single value).Alike .types (single value') where
  repository := {
    mesh := rfl
    fields := OrderedMap.rel_insert (fun _ => .none) "p" ⟨rfl, rfl, .scalar rfl, rfl, rfl⟩
    history := fun _ => .none
    tables := rfl
    foreign := fun _ => .none
    time := rfl
    timeStep := rfl
    meshPhi := .none }
  registry := rfl
  options := rfl
  bindings := fun _ => .none
  inStep := ⟨rfl, rfl, rfl, rfl, rfl⟩

/-- Only the inverse of a matrix tells a field of zeros from one of ones. -/
theorem static_typing_single :
    let zero := single (Scalar.ofNat 0)
    let one := single (Scalar.ofNat 1)
    zero.Alike .types one ∧ zero.registry = Plugin.library ∧
      (zero.evaluate "p > 0 ? 1 / p : clamp(p, 0, 1)".toList).2.isOk = true ∧
      (zero.evaluate "p + true".toList).2.isOk = false ∧
      (zero.evaluate "inv(p * unitTensor)".toList).2.isOk = false ∧
      (one.evaluate "inv(p * unitTensor)".toList).2.isOk = true ∧
      zero.StaticallyTyped one := by
  refine ⟨single_alike _ _, rfl, by decide +kernel, by decide +kernel, by decide +kernel,
    by decide +kernel, ?_⟩
  exact static_typing _ _ (single_alike _ _) rfl

end Session

end MeshLang
