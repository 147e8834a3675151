import MeshLang.Proofs.Mesh.Descriptions
import MeshLang.Proofs.Mesh.Operators

namespace MeshLang

variable {α : Type}

def Face.Beside (count : Nat) (face : Face α) : Prop :=
  face.owner < count ∧ ∀ cell, face.neighbour? = some cell → cell < count

theorem Addressing.lt_cellCount {a : Addressing α} {cell : Nat}
    (beside : cell ∈ a.owners ∨ cell ∈ a.neighbours) : cell < a.cellCount := by
  have member : cell + 1 ∈ (a.owners ++ a.neighbours).map (· + 1) :=
    List.mem_map.mpr ⟨cell, List.mem_append.mpr beside, rfl⟩
  exact (foldl_max_le_iff.mp (Nat.le_refl _)).2 (cell + 1) member

section Meshes

variable [Scalar α]

inductive Mesh.Built : Mesh α → Prop where
  | ofAddressing {a : Addressing α} {mesh : Mesh α} : Mesh.ofAddressing a = .ok mesh → Built mesh
  | select {mesh after : Mesh α} {kind : SelectionKind} {name : String} {indices : List Nat} :
      Built mesh → mesh.select kind name indices = .ok after → Built after

theorem Addressing.checkFaces_points {count index : Nat} {corners : List Nat}
    {rest : List (List Nat)} (passed : checkFaces count index (corners :: rest) = .ok ()) :
    0 < count := by
  obtain ⟨three, inside⟩ := (checkFaces_iff index).mp passed corners List.mem_cons_self
  cases corners with
  | nil => simp at three
  | cons point others => exact Nat.zero_lt_of_lt (inside point List.mem_cons_self)

omit [Scalar α] in
theorem Addressing.cellCount_eq_zero {a : Addressing α} (owners : a.owners = [])
    (neighbours : a.neighbours = []) : a.cellCount = 0 := by
  simp [cellCount, owners, neighbours]

theorem Mesh.assemble_proper {a : Addressing α} (passed : a.check = .ok ())
    (cells : 0 < (Mesh.assemble a).cells.length) : (Mesh.assemble a).Proper := by
  obtain ⟨owners, neighbours, faces, -⟩ := Addressing.check_iff.mp passed
  have count : (Mesh.assemble a).cells.length = a.cellCount := by simp [Mesh.assemble]
  have around : (Mesh.assemble a).pointCells.length = (Mesh.assemble a).points.length := by
    simp [Mesh.assemble]
  have faceCount : (Mesh.assemble a).faces.length = a.faces.length := by
    simp [Mesh.assemble, owners]
  refine ⟨around, fun location => ?_⟩
  cases found : a.faces with
  | nil =>
    rw [found] at owners neighbours
    have none := Addressing.cellCount_eq_zero (List.eq_nil_of_length_eq_zero owners)
      (List.eq_nil_of_length_eq_zero (Nat.le_zero.mp neighbours))
    omega
  | cons corners rest =>
    rw [found] at faces faceCount
    cases location with
    | volume => exact cells
    | surface =>
      have some : 0 < (Mesh.assemble a).faces.length := by simp [faceCount]
      exact some
    | point => exact Addressing.checkFaces_points faces

theorem Mesh.Built.proper {mesh : Mesh α} (built : mesh.Built) (cells : 0 < mesh.cells.length) :
    mesh.Proper := by
  induction built with
  | @ofAddressing a mesh assembled =>
    unfold Mesh.ofAddressing at assembled
    cases passed : a.check with
    | error error => rw [passed] at assembled; cases assembled
    | ok _ =>
      rw [passed] at assembled
      cases assembled
      exact Mesh.assemble_proper passed cells
  | @select mesh after kind name indices built added ih =>
    unfold Mesh.select at added
    dsimp only at added
    split at added
    · cases added
    · cases added
      obtain ⟨around, inhabited⟩ := ih cells
      refine ⟨around, fun location => ?_⟩
      have positive := inhabited location
      cases location <;> exact positive

theorem Mesh.assemble_beside {a : Addressing α} {face : Face α}
    (member : face ∈ (assemble a).faces) : face.Beside a.cellCount := by
  obtain ⟨index, below, rfl⟩ := List.mem_mapIdx.mp member
  have owner : ((a.faces.zip a.owners)[index]).2 ∈ a.owners :=
    (List.of_mem_zip (List.getElem_mem below)).2
  refine ⟨Addressing.lt_cellCount (.inl owner), fun cell found => ?_⟩
  exact Addressing.lt_cellCount (.inr (List.mem_of_getElem? found))

theorem Mesh.Built.beside {mesh : Mesh α} (built : mesh.Built) :
    ∀ face ∈ mesh.faces, face.Beside mesh.cells.length := by
  induction built with
  | @ofAddressing a mesh assembled =>
    unfold Mesh.ofAddressing at assembled
    split at assembled
    · cases assembled
      intro face member
      have count : (assemble a).cells.length = a.cellCount := by simp [assemble]
      rw [count]
      exact assemble_beside member
    · cases assembled
  | @select mesh after kind name indices built added ih =>
    unfold Mesh.select at added
    dsimp only at added
    split at added
    · cases added
    · cases added
      exact ih

def Addressing.tetrahedron : Addressing α where
  points := [Vec3.zero, ⟨Scalar.one, Scalar.zero, Scalar.zero⟩,
    ⟨Scalar.zero, Scalar.one, Scalar.zero⟩, ⟨Scalar.zero, Scalar.zero, Scalar.one⟩]
  faces := [[0, 2, 1], [0, 1, 3], [0, 3, 2], [1, 2, 3]]
  owners := [0, 0, 0, 0]
  neighbours := []
  patches := [⟨"walls", 0, 4⟩]

def Mesh.tetrahedron : Mesh α := Mesh.assemble Addressing.tetrahedron

theorem Mesh.tetrahedron_built : (Mesh.tetrahedron : Mesh α).Built := by
  have passed : (Addressing.tetrahedron : Addressing α).check = .ok () := rfl
  refine .ofAddressing (a := Addressing.tetrahedron) ?_
  rw [ofAddressing, passed]
  rfl

end Meshes

/-- Everything stored satisfies a property. -/
structure Region.Stores (region : Region α) (P : Value α → Prop) : Prop where
  fields : ∀ name v, region.fields.get? name = some v → P v
  history : ∀ name levels, region.history.get? name = some levels → ∀ v ∈ levels, P v

namespace Region.Stores

variable {region : Region α} {P : Value α → Prop}

theorem ofMesh (mesh : Mesh α) : (Region.ofMesh mesh).Stores P :=
  ⟨OrderedMap.forall_empty, OrderedMap.forall_empty⟩

theorem insertField (stores : region.Stores P) {v : Value α} (holds : P v) (name : String) :
    { region with fields := region.fields.insert name v }.Stores P :=
  ⟨OrderedMap.forall_insert stores.fields holds, stores.history⟩

theorem mem_storeLevel {levels : List (Value α)} {index : Nat} {v w : Value α}
    (member : w ∈ storeLevel v index levels) : w ∈ levels ∨ w = v := by
  unfold storeLevel at member
  rcases List.mem_or_eq_of_mem_set member with kept | stored
  · rcases List.mem_append.mp kept with old | padded
    · exact .inl old
    · exact .inr (List.mem_replicate.mp padded).2
  · exact .inr stored

theorem insertLevel (stores : region.Stores P) {v : Value α} (holds : P v) (name : String)
    (index : Nat) :
    { region with
      history := region.history.insert name
        (storeLevel v index ((region.history.get? name).getD [])) }.Stores P := by
  refine ⟨stores.fields, OrderedMap.forall_insert stores.history fun w member => ?_⟩
  rcases mem_storeLevel member with old | rfl
  · cases known : region.history.get? name with
    | none => rw [known] at old; cases old
    | some levels => rw [known] at old; exact stores.history name levels known w old
  · exact holds

theorem resolve (stores : region.Stores P) (name : String) :
    Meets P (fun _ => True) (region.resolve name) := by
  unfold Region.resolve
  split
  · rename_i v found
    exact .ok (stores.fields name v found)
  · exact .error trivial

theorem resolveAs (stores : region.Stores P) (name : String) (expected : ValueType) :
    Meets P (fun _ => True) (region.resolveAs name expected) := by
  apply Meets.bind (stores.resolve name)
  intro v holds
  split
  · split
    · exact .ok holds
    · exact .error trivial
  · exact .error trivial

theorem resolveOld (stores : region.Stores P) (name : String) (level : Nat) :
    Meets P (fun _ => True) (region.resolveOld name level) := by
  unfold Region.resolveOld
  split
  · exact stores.resolve name
  · dsimp only
    split
    · rename_i v found
      have member := List.mem_of_getElem? found
      cases known : region.history.get? name with
      | none => rw [known] at member; cases member
      | some levels => rw [known] at member; exact .ok (stores.history name levels known v member)
    · exact stores.resolve name

end Region.Stores

namespace Environment

variable {env : Environment α} {P : Value α → Prop}

theorem lookup_meets (bindings : ∀ name v, env.bindings.get? name = some v → P v)
    (stores : env.repository.Stores P) (name : String) :
    Meets P (fun _ => True) (env.lookup name) := by
  unfold lookup
  split
  · rename_i v found
    exact .ok (bindings name v found)
  · exact .mapError (stores.resolve name)

theorem history_meets (bindings : ∀ name v, env.bindings.get? name = some v → P v)
    (stores : env.repository.Stores P) (name : String) (level : Nat) :
    Meets P (fun _ => True) (env.history name level) := by
  unfold history
  split
  · rename_i v found
    exact .ok (bindings name v found)
  · exact .mapError (stores.resolveOld name level)

theorem applyForeign_meets [Scalar α] {S : Value α → Prop} {region : Region α}
    (stores : region.Stores S) (function name : Token) (old : Bool)
    (mapped : ∀ v, S v → Meets (fun w => P (env.options.adopt w)) (fun _ => True)
      (region.mesh.mapCells env.mesh env.options.order v)) :
    Meets P (fun _ => True) (env.applyForeign region function name old) := by
  unfold applyForeign
  split
  · exact .error trivial
  · rename_i type _
    split
    · exact .error trivial
    · have found : Meets S (fun _ => True)
          (if old then region.resolveOld name.word 1 else region.resolveAs name.word type) := by
        split
        · exact stores.resolveOld name.word 1
        · exact stores.resolveAs name.word type
      refine .bind (.mapError found) fun v held => ?_
      exact .bind (.mapError (mapped v held)) fun w made => .ok made

end Environment

abbrev Region.Sound (region : Region α) : Prop := region.Stores (·.Fits region.mesh)

def Value.Placed (v : Value α) (mesh : Mesh α) : Prop :=
  ∃ location, v.location = some location ∧ v.size = mesh.size location

theorem Value.Placed.fits {v : Value α} {mesh : Mesh α} (placed : v.Placed mesh)
    (stored : v.data.stores v.kind = true) : v.Fits mesh := by
  obtain ⟨location, located, sized⟩ := placed
  exact ⟨stored, by rw [located]; exact sized⟩

theorem Region.check_iff {region : Region α} (name : String) {v : Value α} :
    region.check name v = .ok () ↔ v.Placed region.mesh := by
  unfold check Value.Placed
  cases v.location with
  | none => simp
  | some location => simp

namespace Repository

variable {r after : Repository α} {name : String} {v : Value α}

theorem insert_eq_ok : r.insert name v = .ok after ↔
    v.Placed r.mesh ∧ after = { r with fields := r.fields.insert name v } := by
  rw [← Region.check_iff name]
  unfold insert Region.insert
  cases r.check name v with
  | error error => simp [bind, Except.bind]
  | ok _ => simp [bind, Except.bind, pure, Except.pure, eq_comm]

theorem insertOld_eq_ok {level : Nat} : r.insertOld name level v = .ok after ↔
    v.Placed r.mesh ∧ after = { r with
      history := r.history.insert name (Region.storeLevel v (level - 1) (r.levels name)) } := by
  rw [← Region.check_iff name]
  unfold insertOld Region.insertOld
  cases r.check name v with
  | error error => simp [bind, Except.bind]
  | ok _ => simp [bind, Except.bind, pure, Except.pure, Region.levels, eq_comm]

theorem setMeshPhi_eq_ok {flow : Value α} : r.setMeshPhi flow = .ok after ↔
    (flow.Placed r.mesh ∧ flow.type? = some ⟨.scalar, .surface⟩) ∧
      after = { r with meshPhi := some flow } := by
  rw [← Region.check_iff meshPhiName]
  unfold setMeshPhi
  cases passed : r.check meshPhiName flow with
  | error error => simp [bind, Except.bind]
  | ok _ =>
    obtain ⟨location, located, -⟩ := (Region.check_iff meshPhiName).mp passed
    have typed : flow.type? = some ⟨flow.kind, location⟩ := by simp [Value.type?, located]
    rw [typed]
    by_cases flux : (⟨flow.kind, location⟩ : ValueType) = ⟨.scalar, .surface⟩
    · simp [flux, bind, Except.bind, pure, Except.pure, eq_comm]
    · simp [flux, bind, Except.bind, throw, throwThe, MonadExceptOf.throw]

end Repository

/-- Repositories as calls that succeed make them, over meshes with at least one cell. Values that are
handed over have elements of the type that their kind uses. -/
inductive Repository.Built [Scalar α] : Repository α → Prop where
  | ofMesh {mesh : Mesh α} : mesh.Built → 0 < mesh.cells.length → Built (.ofMesh mesh)
  | insert {r after : Repository α} {name : String} {v : Value α} :
      Built r → v.data.stores v.kind = true → r.insert name v = .ok after → Built after
  | insertOld {r after : Repository α} {name : String} {level : Nat} {v : Value α} :
      Built r → v.data.stores v.kind = true → r.insertOld name level v = .ok after → Built after
  | insertForeign {r other : Repository α} {name : String} :
      Built r → Built other → Built (r.insertForeign name other.toRegion)
  | insertTable {r : Repository α} {name : String} {table : LookupTable α} :
      Built r → Built (r.insertTable name table)
  | setTime {r : Repository α} {time timeStep : α} : Built r → Built (r.setTime time timeStep)
  | setMeshPhi {r after : Repository α} {flow : Value α} :
      Built r → flow.data.stores flow.kind = true → r.setMeshPhi flow = .ok after → Built after

structure Repository.Sound (r : Repository α) : Prop where
  region : r.toRegion.Sound
  proper : r.mesh.Proper
  foreign : ∀ name region, r.foreign.get? name = some region → region.Sound
  meshPhi : ∀ flow, r.meshPhi = some flow → flow.Fits r.mesh

theorem Repository.Built.sound [Scalar α] {r : Repository α} (built : r.Built) : r.Sound := by
  induction built with
  | ofMesh mesh cells => exact ⟨.ofMesh _, mesh.proper cells, OrderedMap.forall_empty, nofun⟩
  | @insert r after name v _ stored inserted ih =>
    obtain ⟨placed, rfl⟩ := insert_eq_ok.mp inserted
    exact ⟨ih.region.insertField (placed.fits stored) name, ih.proper, ih.foreign, ih.meshPhi⟩
  | @insertOld r after name level v _ stored inserted ih =>
    obtain ⟨placed, rfl⟩ := insertOld_eq_ok.mp inserted
    exact ⟨ih.region.insertLevel (placed.fits stored) name (level - 1), ih.proper, ih.foreign,
      ih.meshPhi⟩
  | insertForeign _ _ ih other =>
    exact ⟨ih.region, ih.proper, OrderedMap.forall_insert ih.foreign other.region, ih.meshPhi⟩
  | insertTable _ ih => exact ⟨ih.region, ih.proper, ih.foreign, ih.meshPhi⟩
  | setTime _ ih => exact ⟨ih.region, ih.proper, ih.foreign, ih.meshPhi⟩
  | @setMeshPhi r after flow _ stored set ih =>
    obtain ⟨⟨placed, -⟩, rfl⟩ := setMeshPhi_eq_ok.mp set
    exact ⟨ih.region, ih.proper, ih.foreign,
      fun other found => Option.some.inj found ▸ placed.fits stored⟩

end MeshLang
