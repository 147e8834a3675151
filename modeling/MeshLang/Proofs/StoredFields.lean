import MeshLang.Proofs.Repository.Changes
import MeshLang.Proofs.Scalar.Exact

namespace MeshLang.Repository

variable {α : Type}

/-- All values that are held fit the mesh that they are held for: current and earlier ones, copies
that fill up a history, those of other meshes, and the flux of the mesh motion. -/
structure Consistent (r : Repository α) : Prop where
  region : r.toRegion.Stores (·.Placed r.mesh)
  foreign : ∀ name region, r.foreign.get? name = some region →
    region.Stores (·.Placed region.mesh)
  meshPhi : ∀ flow, r.meshPhi = some flow →
    flow.Placed r.mesh ∧ flow.type? = some ⟨.scalar, .surface⟩

/-- What a repository promises to those who ask it and to those who change it. -/
structure Reliable (r : Repository α) : Prop extends r.Consistent where
  recalled : ∀ name level v, r.resolveOld name level = .ok v → v.Placed r.mesh
  classified : ∀ name type, r.classify name = some type ↔
    ∃ v, r.resolve name = .ok v ∧ v.type? = some type
  unclassified : ∀ name, r.classify name = none ↔ r.resolve name = .error (.notFound name)
  kept : ∀ calls, (r.performAll calls).mesh = r.mesh
  served : ∀ call : Call α, (∃ after, call.change.run r = .ok () after) ↔ call.Admissible r.mesh
  refused : ∀ (call : Call α) error after, call.change.run r = .error error after →
    after = r ∧ ∀ later, r.performAll (call :: later) = r.performAll later

/-- The repositories that calls make of a mesh. Other meshes come with repositories that were made in
the same way. -/
inductive Reached [Scalar α] : Repository α → Prop where
  | ofMesh (mesh : Mesh α) : Reached (.ofMesh mesh)
  | perform {r : Repository α} (call : Call α) : Reached r →
      (∀ name other, call = .insertForeign name other → Reached other) → Reached (r.perform call)

section Calls

variable {r after : Repository α} {call : Call α}

theorem ofMesh_consistent [Scalar α] (mesh : Mesh α) : (ofMesh mesh).Consistent :=
  ⟨.ofMesh mesh, OrderedMap.forall_empty, nofun⟩

theorem Consistent.outcome (consistent : r.Consistent)
    (foreign : ∀ name other, call = .insertForeign name other → other.Consistent)
    (done : call.outcome r = .ok after) : after.Consistent := by
  obtain ⟨region, others, meshPhi⟩ := consistent
  cases call with
  | insert name v =>
    obtain ⟨placed, rfl⟩ := insert_eq_ok.mp done
    exact ⟨region.insertField placed name, others, meshPhi⟩
  | insertOld name level v =>
    obtain ⟨placed, rfl⟩ := insertOld_eq_ok.mp done
    exact ⟨region.insertLevel placed name (level - 1), others, meshPhi⟩
  | insertTable name table =>
    cases done
    exact ⟨region, others, meshPhi⟩
  | insertForeign name other =>
    cases done
    exact ⟨region, OrderedMap.forall_insert others (foreign name other rfl).region, meshPhi⟩
  | setTime time timeStep =>
    cases done
    exact ⟨region, others, meshPhi⟩
  | setMeshPhi flow =>
    obtain ⟨flux, rfl⟩ := setMeshPhi_eq_ok.mp done
    exact ⟨region, others, fun other found => Option.some.inj found ▸ flux⟩

theorem Consistent.perform (consistent : r.Consistent)
    (foreign : ∀ name other, call = .insertForeign name other → other.Consistent) :
    (r.perform call).Consistent := by
  cases done : call.outcome r with
  | ok after =>
    rw [perform_of_ok done]
    exact consistent.outcome foreign done
  | error error =>
    rw [perform_of_error done]
    exact consistent

theorem perform_mesh (r : Repository α) (call : Call α) : (r.perform call).mesh = r.mesh := by
  cases done : call.outcome r with
  | error error => rw [perform_of_error done]
  | ok after =>
    rw [perform_of_ok done]
    cases call with
    | insert name v => obtain ⟨-, rfl⟩ := insert_eq_ok.mp done; rfl
    | insertOld name level v => obtain ⟨-, rfl⟩ := insertOld_eq_ok.mp done; rfl
    | setMeshPhi flow => obtain ⟨-, rfl⟩ := setMeshPhi_eq_ok.mp done; rfl
    | insertTable | insertForeign | setTime => cases done; rfl

theorem performAll_mesh (r : Repository α) (calls : List (Call α)) :
    (r.performAll calls).mesh = r.mesh := by
  induction calls generalizing r with
  | nil => rfl
  | cons call calls ih => exact (ih (r.perform call)).trans (perform_mesh r call)

theorem classify_iff (r : Repository α) (name : String) (type : ValueType) :
    r.classify name = some type ↔ ∃ v, r.resolve name = .ok v ∧ v.type? = some type := by
  unfold Region.classify Region.resolve
  cases r.fields.get? name <;> simp

theorem Consistent.classify_none (consistent : r.Consistent) (name : String) :
    r.classify name = none ↔ r.resolve name = .error (.notFound name) := by
  unfold Region.classify Region.resolve
  cases found : r.fields.get? name with
  | none => simp
  | some v =>
    obtain ⟨location, located, -⟩ := consistent.region.fields name v found
    simp [Value.type?, located]

theorem Consistent.reliable (consistent : r.Consistent) : r.Reliable where
  toConsistent := consistent
  recalled name level _ found := (consistent.region.resolveOld name level).of_ok found
  classified := classify_iff r
  unclassified := consistent.classify_none
  kept := performAll_mesh r
  served call := by
    rw [← call.outcome_isOk]
    exact exists_congr fun after => Call.run_ok
  refused call error after failed := by
    have same := Call.run_error failed
    subst same
    refine ⟨rfl, fun later => ?_⟩
    show (after.perform call).performAll later = after.performAll later
    unfold Repository.perform
    rw [failed]

end Calls

section Histories

variable [Scalar α] {r : Repository α}

theorem Reached.consistent (reached : r.Reached) : r.Consistent := by
  induction reached with
  | ofMesh mesh => exact ofMesh_consistent mesh
  | perform call _ _ ih foreign => exact ih.perform foreign

theorem Reached.performAll (reached : r.Reached) {calls : List (Call α)}
    (foreign : ∀ name other, .insertForeign name other ∈ calls → Reached other) :
    (r.performAll calls).Reached := by
  induction calls generalizing r with
  | nil => exact reached
  | cons call calls ih =>
    refine ih (reached.perform call fun name other same => foreign name other ?_) fun name other later =>
      foreign name other (List.mem_cons_of_mem call later)
    exact List.mem_cons.mpr (.inl same.symm)

/-- After any calls, served or refused, a repository holds nothing that does not fit its mesh, and
calls that it refuses change nothing. -/
theorem reached_reliable (reached : r.Reached) : r.Reliable := reached.consistent.reliable

end Histories

def recalling : Repository Exact :=
  (ofMesh Mesh.tetrahedron).performAll
    [.insert "T" (.scalar .volume [Scalar.one]), .insert "U" (.scalar .volume []),
     .insertOld "T" 3 (.scalar .volume [Scalar.zero]), .setMeshPhi (.scalar .volume [Scalar.one]),
     .insertForeign "other" (ofMesh Mesh.tetrahedron)]

theorem reached_reliable_recalling : recalling.Reached ∧ recalling.Reliable ∧
    (recalling.levels "T").length = 3 ∧ recalling.classify "U" = none ∧
    recalling.meshPhi = none := by
  have reached : recalling.Reached := by
    refine (Reached.ofMesh Mesh.tetrahedron).performAll fun name other member => ?_
    obtain ⟨-, rfl⟩ : name = "other" ∧ other = ofMesh Mesh.tetrahedron := by simpa using member
    exact .ofMesh Mesh.tetrahedron
  exact ⟨reached, reached_reliable reached, by decide, by decide, by decide⟩

end MeshLang.Repository
