import MeshLang.Proofs.PrintedTrees
import MeshLang.Proofs.Repository.History
import MeshLang.Proofs.StoredFields
import MeshLang.Proofs.Tensor.Operators

namespace MeshLang

variable {α : Type} [Scalar α]

namespace Value

/-- An untagged field of a type on a mesh, all of whose matrices have a property. -/
structure IsField (type : ValueType) (mesh : Mesh α) (Q : Mat3 α → Prop) (v : Value α) : Prop where
  typed : v.type? = some type
  fits : v.Fits mesh
  matrices : v.data.Matrices Q
  untagged : v.dimensions = none

omit [Scalar α] in
theorem type?_eq_some {v : Value α} {type : ValueType} :
    v.type? = some type ↔ v.location = some type.location ∧ v.kind = type.kind := by
  obtain ⟨kind, location⟩ := type
  unfold type?
  cases v.location <;> simp [and_comm]

namespace IsField

variable {type : ValueType} {mesh : Mesh α} {Q : Mat3 α → Prop} {v w : Value α}

omit [Scalar α] in
theorem size_eq (field : v.IsField type mesh Q) : v.size = mesh.size type.location := by
  have sized := field.fits.sized
  rwa [(type?_eq_some.mp field.typed).1] at sized

omit [Scalar α] in
theorem domain_eq (left : v.IsField type mesh Q) (right : w.IsField type mesh Q) :
    domain v w = .ok (some type.location, mesh.size type.location) := by
  unfold domain
  rw [(type?_eq_some.mp left.typed).1, (type?_eq_some.mp right.typed).1, left.size_eq,
    right.size_eq]
  simp

theorem combined (left : v.IsField type mesh Q) (right : w.IsField type mesh Q) (operation : String)
    (f : {ε : Type} → [Element α ε] → ε → ε → ε) (keeps : ∀ x y : Mat3 α, Q x → Q y → Q (f x y))
    (error : FieldError α) :
    Meets (IsField type mesh Q) (fun _ => False) (do
      let (location, n) ← domain v w
      let tag ← sumTag operation v.dimensions w.dimensions
      match Data.lift₂ (zipSpread n f) v.data w.data with
      | some data => .ok ⟨v.kind, location, data, tag⟩
      | none => .error error) := by
  have kind := (type?_eq_some.mp left.typed).2
  have same : v.data.shape = w.data.shape := by
    rw [left.fits.shape, right.fits.shape, kind, (type?_eq_some.mp right.typed).2]
  obtain ⟨data, combined⟩ := Data.lift₂_of_shape (zipSpread (mesh.size type.location) f) same
  rw [left.domain_eq right, left.untagged, right.untagged]
  dsimp only [bind, Except.bind, sumTag]
  rw [combined]
  refine .ok ⟨type?_eq_some.mpr ⟨rfl, kind⟩, .of_shape ?_ ?_, ?_, rfl⟩
  · exact (Data.lift₂_shape combined).trans left.fits.shape
  · refine Data.lift₂_size combined fun xs ys one other => zipSpread_length ?_ ?_
    · exact .inl (one.trans left.size_eq)
    · exact .inl (other.trans right.size_eq)
  · exact .lift₂ combined left.matrices right.matrices fun ms ns all each =>
      forall_zipSpread all each keeps

theorem add (closed : Element.Closed Q) (left : v.IsField type mesh Q)
    (right : w.IsField type mesh Q) : Meets (IsField type mesh Q) (fun _ => False) (v.add w) :=
  left.combined right "+" Element.add closed.add _

theorem sub (closed : Element.Closed Q) (left : v.IsField type mesh Q)
    (right : w.IsField type mesh Q) : Meets (IsField type mesh Q) (fun _ => False) (v.sub w) :=
  left.combined right "-" Element.sub closed.sub _

theorem mul_constant (closed : Element.Closed Q) (field : v.IsField type mesh Q) (factor : α) :
    Meets (IsField type mesh Q) (fun _ => False) ((constantScalar factor).mul v) := by
  have located := (type?_eq_some.mp field.typed).1
  have multiple : (constantScalar factor).mul v =
      .ok ⟨v.kind, v.location, scaleBy v.size [factor] v.data, none⟩ := by
    unfold mul domain
    simp only [constantScalar, located, field.untagged]
    rfl
  have made := (mul_made ⟨rfl, rfl⟩ field.fits).of_ok multiple
  rw [multiple]
  exact .ok ⟨field.typed, made.1, scaleBy_matrices closed field.matrices _ _, rfl⟩

theorem div_constant (closed : Element.Closed Q) (field : v.IsField type mesh Q) (divisor : α) :
    Meets (IsField type mesh Q) (fun _ => False) (v.div (constantScalar divisor)) := by
  have located := (type?_eq_some.mp field.typed).1
  have quotient : v.div (constantScalar divisor) = .ok ⟨v.kind, v.location,
      v.data.lift fun xs => zipSpread v.size (fun x k => Element.divide x k) xs [divisor], none⟩ := by
    unfold div domain
    simp only [constantScalar, located, field.untagged]
    rfl
  have made := (div_made field.fits ⟨rfl, rfl⟩).of_ok quotient
  rw [quotient]
  refine .ok ⟨field.typed, made.1, ?_, rfl⟩
  refine Data.Matrices.lift (f := fun xs => zipSpread v.size (fun x k => Element.divide x k) xs [divisor])
    field.matrices fun ms all => ?_
  exact forall_zipSpread (Q := fun _ => True) all (fun _ _ => trivial) fun m divisor holds _ =>
    closed.divide m divisor holds

end IsField

end Value

def derivativeWord (second : Bool) : Word :=
  if second then ⟨"d2dt2".toList, by decide +kernel⟩ else ⟨"ddt".toList, by decide +kernel⟩

namespace Environment

variable {env : Environment α} {type : ValueType} {Q : Mat3 α → Prop}

/-- At every step back, a name stands for a field of one type. -/
def Past (env : Environment α) (type : ValueType) (Q : Mat3 α → Prop) (name : String) : Prop :=
  ∀ level, ∃ v, env.history name level = .ok v ∧ v.untagged.IsField type env.mesh Q

variable {name : String} {current : Value α}

theorem firstDerivative_field (closed : Element.Closed Q) (past : env.Past type Q name)
    (field : current.IsField type env.mesh Q) :
    Meets (Value.IsField type env.mesh Q) (fun _ => False) (env.firstDerivative name current) := by
  obtain ⟨old, known, before⟩ := past 1
  unfold firstDerivative
  rw [known]
  refine .bind (P := (· = old)) rfl ?_
  rintro _ rfl
  refine .bind (.mapError (field.sub closed before)) fun change made => ?_
  refine .bind (.mapError (made.div_constant closed _)) fun slope made => ?_
  exact .ok ⟨made.typed, made.fits.untagged, made.matrices, rfl⟩

theorem secondDerivative_field (closed : Element.Closed Q) (past : env.Past type Q name)
    (field : current.IsField type env.mesh Q) :
    Meets (Value.IsField type env.mesh Q) (fun _ => False) (env.secondDerivative name current) := by
  obtain ⟨old, known, before⟩ := past 1
  obtain ⟨older, remembered, long⟩ := past 2
  unfold secondDerivative
  rw [known, remembered]
  refine .bind (P := (· = old)) rfl ?_
  rintro _ rfl
  refine .bind (P := (· = older)) rfl ?_
  rintro _ rfl
  refine .bind (.mapError (before.mul_constant closed _)) fun twice made => ?_
  refine .bind (.mapError (field.sub closed made)) fun change made => ?_
  refine .bind (.mapError (made.add closed long)) fun change made => ?_
  refine .bind (.mapError (made.div_constant closed _)) fun slope made => ?_
  exact .ok ⟨made.typed, made.fits.untagged, made.matrices, rfl⟩

theorem timeDerivative_field (closed : Element.Closed Q) {name : Token}
    (past : env.Past type Q name.word) (numeric : type.kind.isNumeric = true) (second : Bool) :
    Meets (Value.IsField type env.mesh Q) (fun _ => False) (env.timeDerivative second name) := by
  obtain ⟨current, known, field⟩ := past 0
  have kind := (Value.type?_eq_some.mp field.typed).2
  unfold timeDerivative
  rw [known]
  refine .bind (P := (· = current)) rfl ?_
  rintro _ rfl
  dsimp only
  rw [kind, numeric]
  cases second with
  | true => exact secondDerivative_field closed past field
  | false => exact firstDerivative_field closed past field

end Environment

namespace Session

/-- A session over a repository, with no variable that hides a name. -/
structure Shows (session : Session α) (r : Repository α) (name : String) : Prop where
  repository : session.repository = r
  free : session.bindings.get? name = none

omit [Scalar α] in
theorem Shows.history {session : Session α} {r : Repository α} {name : String}
    (shows : session.Shows r name) (level : Nat) :
    session.environment.history name level = (r.resolveOld name level).mapError .ofRepository := by
  obtain ⟨rfl, free⟩ := shows
  unfold Environment.history
  rw [show session.environment.bindings.get? name = none from free]
  rfl

theorem evaluate_named {session : Session α} {function word : Word} {builtin : Builtin} {v : Value α}
    (called : Builtin.ofName? function.name = some builtin) (named : builtin.shape = .name)
    (done : session.environment.applyNamed builtin word.token = .ok v) (located : v.location.isSome) :
    (session.evaluate (spell (Tree.callNamed function word).print)).2 = .ok v := by
  have means : (Tree.callNamed function word).eval session.environment session.generator =
      some (v, session.generator) := by
    rw [Tree.eval, Environment.callNamed?, called]
    dsimp only
    rw [if_pos named, done]
    rfl
  rw [evaluate_print means, Value.broadcastTo, Value.isConstant, Option.isNone_eq_false_iff.mpr located]
  rfl

end Session

namespace Repository

/-- A field has its type at all times, and so has what expressions make of it where no variable
hides it: its old values, and its derivatives in time, which are made of symmetric matrices if it
was. Nothing compares what is stored for an earlier time with the field itself. -/
structure KeepsType (r : Repository α) (name : String) (type : ValueType) : Prop where
  recalled : ∀ level, ∃ v, r.resolveOld name level = .ok v ∧ v.type? = some type
  oldTime : ∀ (session : Session α) (word : Word), word.name = name → session.Shows r name →
    ∃ v, (session.evaluate (spell (Tree.callNamed oldTimeWord word).print)).2 = .ok v ∧
      v.type? = some type
  derivative : ∀ (session : Session α) (word : Word) (second : Bool), word.name = name →
    session.Shows r name → type.kind.isNumeric = true →
    ∃ v, (session.evaluate (spell (Tree.callNamed (derivativeWord second) word).print)).2 = .ok v ∧
      v.type? = some type ∧
      (type.kind = .symmTensor →
        (∀ level w, r.resolveOld name level = .ok w → w.data.Matrices Mat3.IsSymmetric) →
        v.data.Matrices Mat3.IsSymmetric)

def Call.Hands (P : Value α → Prop) : Call α → Prop
  | .insert _ v | .insertOld _ _ v => P v
  | .insertTable .. | .insertForeign .. | .setTime .. | .setMeshPhi _ => True

variable {r after : Repository α} {name : String} {type : ValueType}

omit [Scalar α] in
theorem sound_outcome {call : Call α} (sound : r.toRegion.Sound)
    (proper : call.Hands fun v => v.data.stores v.kind = true) (done : call.outcome r = .ok after) :
    after.toRegion.Sound := by
  cases call with
  | insert name v =>
    obtain ⟨placed, rfl⟩ := insert_eq_ok.mp done
    exact sound.insertField (placed.fits proper) name
  | insertOld name level v =>
    obtain ⟨placed, rfl⟩ := insertOld_eq_ok.mp done
    exact sound.insertLevel (placed.fits proper) name (level - 1)
  | setMeshPhi flow =>
    obtain ⟨-, rfl⟩ := setMeshPhi_eq_ok.mp done
    exact sound
  | insertTable | insertForeign | setTime =>
    cases done
    exact sound

omit [Scalar α] in
theorem Serves.sound {calls : List (Call α)} (serves : Serves r calls after)
    (sound : r.toRegion.Sound)
    (proper : ∀ call ∈ calls, call.Hands fun v => v.data.stores v.kind = true) :
    after.toRegion.Sound := by
  induction serves with
  | nil => exact sound
  | @cons r between after call calls done _ ih =>
    have first := sound_outcome sound (proper call List.mem_cons_self) (Call.run_ok.mp done)
    exact ih first fun later member => proper later (List.mem_cons_of_mem call member)

omit [Scalar α] in
theorem past_of_recalled (sound : r.toRegion.Sound)
    (recalled : ∀ level, ∃ v, r.resolveOld name level = .ok v ∧ v.type? = some type)
    {Q : Mat3 α → Prop}
    (matrices : ∀ level w, r.resolveOld name level = .ok w → w.data.Matrices Q)
    {session : Session α} (shows : session.Shows r name) :
    session.environment.Past type Q name := by
  intro level
  obtain ⟨v, found, typed⟩ := recalled level
  have known : session.environment.history name level = .ok v := by
    rw [shows.history, found]
    rfl
  have fits := (sound.resolveOld name level).of_ok found
  obtain ⟨rfl, -⟩ := shows
  exact ⟨v, known, typed, fits.untagged, matrices level v found, rfl⟩

theorem evaluate_derivative {session : Session α} {word : Word} {Q : Mat3 α → Prop}
    (closed : Element.Closed Q) (past : session.environment.Past type Q word.name)
    (numeric : type.kind.isNumeric = true) (second : Bool) :
    ∃ v, (session.evaluate (spell (Tree.callNamed (derivativeWord second) word).print)).2 = .ok v ∧
      v.IsField type session.repository.mesh Q := by
  have made : Meets (Value.IsField type session.repository.mesh Q) (fun _ => False)
      (session.environment.timeDerivative second word.token) :=
    Environment.timeDerivative_field closed past numeric second
  cases done : session.environment.timeDerivative second word.token with
  | error error =>
    rw [done] at made
    exact absurd made id
  | ok v =>
    have field := made.of_ok done
    have located : v.location.isSome := by simp [(Value.type?_eq_some.mp field.typed).1]
    refine ⟨v, ?_, field⟩
    cases second with
    | true =>
      have applied : session.environment.applyNamed .d2dt2 word.token = .ok v := done
      exact Session.evaluate_named (by decide +kernel) rfl applied located
    | false =>
      have applied : session.environment.applyNamed .ddt word.token = .ok v := done
      exact Session.evaluate_named (by decide +kernel) rfl applied located

theorem keepsType_of_recalled (sound : r.toRegion.Sound)
    (recalled : ∀ level, ∃ v, r.resolveOld name level = .ok v ∧ v.type? = some type) :
    r.KeepsType name type where
  recalled := recalled
  oldTime := by
    rintro session word rfl shows
    obtain ⟨v, found, typed⟩ := recalled 1
    have done : session.environment.applyNamed .oldTime word.token =
        .ok (session.options.adopt v) := by
      show (session.environment.history word.name 1).map _ = _
      rw [shows.history, found]
      rfl
    have kept : (session.options.adopt v).type? = some type := by
      unfold Options.adopt
      split <;> exact typed
    have located : (session.options.adopt v).location.isSome := by
      simp [(Value.type?_eq_some.mp kept).1]
    exact ⟨_, Session.evaluate_named (by decide +kernel) rfl done located, kept⟩
  derivative := by
    rintro session word second rfl shows numeric
    have any := past_of_recalled sound recalled
      (fun level w _ => Data.Matrices.of_all fun _ => trivial) shows
    obtain ⟨v, answer, field⟩ := evaluate_derivative Element.closed_true any numeric second
    refine ⟨v, answer, field.typed, fun _ symmetric => ?_⟩
    have past := past_of_recalled sound recalled symmetric shows
    obtain ⟨w, again, made⟩ := evaluate_derivative Mat3.isSymmetric_closed past numeric second
    obtain rfl : v = w := Except.ok.inj (answer.symm.trans again)
    exact made.matrices

/-- A field keeps its type exactly if everything that is held for earlier times has it. -/
theorem keepsType_iff {mesh : Mesh α} {calls : List (Call α)} (serves : Serves (.ofMesh mesh) calls r)
    (proper : ∀ call ∈ calls, call.Hands fun v => v.data.stores v.kind = true)
    (classified : r.classify name = some type) :
    r.KeepsType name type ↔
      ∀ level v, 0 < level → Region.held? (earlier name calls) level = some v →
        v.type? = some type := by
  obtain ⟨current, found, typed⟩ := (classify_iff r name type).mp classified
  have recalled := (serves.keeps_ofMesh name).resolveOld found
  have all : (∀ level, ∃ v, r.resolveOld name level = .ok v ∧ v.type? = some type) ↔
      ∀ level v, 0 < level → Region.held? (earlier name calls) level = some v →
        v.type? = some type := by
    simp [recalled, Region.forall_fallBack (P := (·.type? = some type)), typed]
  constructor
  · exact fun keeps => all.mp keeps.recalled
  · exact fun held => keepsType_of_recalled (serves.sound (.ofMesh mesh) proper) (all.mpr held)

def stress (old : Value Exact) : List (Call Exact) :=
  [.insert "sigma" (.symmTensor .volume [Mat3.identity]), .insertOld "sigma" 1 old]

theorem keepsType_stress :
    let old : Value Exact := .symmTensor .volume [Mat3.zero]
    ∃ r, Serves (.ofMesh Mesh.tetrahedron) (stress old) r ∧
      (∀ call ∈ stress old, call.Hands fun v => v.data.stores v.kind = true) ∧
      r.classify "sigma" = some ⟨.symmTensor, .volume⟩ ∧
      r.KeepsType "sigma" ⟨.symmTensor, .volume⟩ := by
  intro old
  have serves : Serves (.ofMesh Mesh.tetrahedron) (stress old)
      ((ofMesh Mesh.tetrahedron).performAll (stress old)) := .cons rfl (.cons rfl .nil)
  have proper : ∀ call ∈ stress old, call.Hands fun v => v.data.stores v.kind = true := by
    simp [stress, Call.Hands, old, Value.symmTensor, Data.stores, Kind.isTensorLike]
  refine ⟨_, serves, proper, rfl, (keepsType_iff serves proper rfl).mpr fun level v _ held => ?_⟩
  obtain ⟨stored, member⟩ := Region.mem_of_held? held
  obtain ⟨-, rfl⟩ := Prod.mk.inj (List.mem_singleton.mp member)
  rfl

/-- Any tensor will do for the stress of the step before. -/
theorem not_keepsType_stress :
    let old : Value Exact := .tensor .volume [Mat3.zero]
    ∃ r, Serves (.ofMesh Mesh.tetrahedron) (stress old) r ∧
      (∀ call ∈ stress old, call.Hands fun v => v.data.stores v.kind = true) ∧
      r.classify "sigma" = some ⟨.symmTensor, .volume⟩ ∧
      ¬r.KeepsType "sigma" ⟨.symmTensor, .volume⟩ := by
  intro old
  have proper : ∀ call ∈ stress old, call.Hands fun v => v.data.stores v.kind = true := by
    simp [stress, Call.Hands, old, Value.symmTensor, Value.tensor, Data.stores, Kind.isTensorLike]
  refine ⟨_, .cons rfl (.cons rfl .nil), proper, rfl, fun keeps => ?_⟩
  obtain ⟨v, recalled, typed⟩ := keeps.recalled 1
  have older : v = old := Except.ok.inj (recalled.symm.trans rfl)
  rw [older] at typed
  exact absurd typed (by decide)

end Repository

end MeshLang
