import MeshLang.Proofs.Lockstep.Environment

namespace MeshLang

variable {α : Type}

theorem checkComponents_kinds (function : Token) (args : List (Argument α))
    (first? : Option (Value α)) :
    Meets (fun _ => ∀ arg ∈ args, arg.value.kind = .scalar) EvalError.IsPlain
      (checkComponents function first? args) := by
  induction args generalizing first? with
  | nil => exact .ok (by simp)
  | cons arg rest ih =>
    refine .guarded (fun _ plain => plain) (arg.requireKind_meets function _) fun _ scalar => ?_
    have all {first? : Option (Value α)} :
        Meets (fun _ => ∀ other ∈ arg :: rest, other.value.kind = .scalar) EvalError.IsPlain
          (checkComponents function first? rest) := by
      refine (ih first?).weaken fun _ others => ?_
      exact List.forall_mem_cons.mpr ⟨List.mem_singleton.mp scalar, others⟩
    cases first? with
    | some first => exact .guarded (fun _ plain => plain) (checkLocations_isPlain _ _ _ _) fun _ _ => all
    | none => exact all

namespace Builtin

theorem mem_named_of_ofName? {name : String} {builtin : Builtin} (known : ofName? name = some builtin)
    (scalar : ∀ function, builtin ≠ .scalar function) (tensor : ∀ function, builtin ≠ .tensor function) :
    (name, builtin) ∈ named := by
  unfold ofName? at known
  cases first : (ScalarFunction.ofName? name).map Builtin.scalar with
  | some found =>
    rw [first] at known
    cases known
    obtain ⟨function, -, same⟩ := Option.map_eq_some_iff.mp first
    exact absurd same.symm (scalar function)
  | none =>
    cases second : (TensorFunction.ofName? name).map Builtin.tensor with
    | some found =>
      rw [first, second] at known
      cases known
      obtain ⟨function, -, same⟩ := Option.map_eq_some_iff.mp second
      exact absurd same.symm (tensor function)
    | none =>
      rw [first, second] at known
      obtain ⟨before, after, split, -⟩ := List.lookup_eq_some_iff.mp known
      simp [split]

theorem name_of_ddt {name : String} (known : ofName? name = some .ddt) : name = "ddt" := by
  simpa [named] using mem_named_of_ofName? known (by simp) (by simp)

theorem name_of_d2dt2 {name : String} (known : ofName? name = some .d2dt2) : name = "d2dt2" := by
  simpa [named] using mem_named_of_ofName? known (by simp) (by simp)

theorem name_of_oldTime {name : String} (known : ofName? name = some .oldTime) :
    name = "oldTime" := by
  simpa [named] using mem_named_of_ofName? known (by simp) (by simp)

theorem name_of_rand {name : String} (known : ofName? name = some (.random false false)) :
    name = "rand" := by
  simpa [named] using mem_named_of_ofName? known (by simp) (by simp)

theorem name_of_randNormal {name : String} (known : ofName? name = some (.random true false)) :
    name = "randNormal" := by
  simpa [named] using mem_named_of_ofName? known (by simp) (by simp)

theorem components_of_build {name : String} {kind : Kind}
    (known : ofName? name = some (.build kind)) : kind.components ≠ [] := by
  have listed := mem_named_of_ofName? known (by simp) (by simp)
  cases kind <;> simp [named, Kind.components] at listed ⊢

end Builtin

namespace Environment

variable [Scalar α] {env : Environment α} {builtin : Builtin} {function : Token} {a b c : Argument α}
  {rest : List (Argument α)}

theorem apply_nil (other : ∀ kind, builtin ≠ .build kind) :
    env.apply builtin function [] = env.applyNone builtin function := by
  cases builtin <;> first | rfl | exact absurd rfl (other _)

theorem apply_singleton (other : ∀ kind, builtin ≠ .build kind) :
    env.apply builtin function [a] = env.applyOne builtin function a := by
  cases builtin <;> first | rfl | exact absurd rfl (other _)

theorem apply_pair (other : ∀ kind, builtin ≠ .build kind) :
    env.apply builtin function [a, b] = env.applyTwo builtin function a b := by
  cases builtin <;> first | rfl | exact absurd rfl (other _)

theorem apply_more (other : ∀ kind, builtin ≠ .build kind) :
    env.apply builtin function (a :: b :: c :: rest) =
      .error (wrongCount function 0 0 (rest.length + 3)) := by
  cases builtin <;> first | rfl | exact absurd rfl (other _)

end Environment

namespace Environment.Lockstep

variable [Scalar α] {env env' : Environment α} {start : Cursor} {R : Value α → Value α → Prop}
  {T : Tolerance (EvalError α)} {function : Token} {a a' b b' : Argument α}

theorem required (lockstep : env.Lockstep env' start R T) (alike : a.Alike R a')
    {accepted : Bool} {expected : List String} {β γ : Type} {Q : β → γ → Prop}
    {result : Except (EvalError α) β} {other : Except (EvalError α) γ}
    (rest : accepted = true → Agree Q T result other) :
    Agree Q T
      (do
        a.require function accepted expected
        result)
      (do
        a'.require function accepted expected
        other) := by
  unfold Argument.require
  rw [← alike.1, ← lockstep.describe alike.2]
  cases accepted with
  | true => exact rest rfl
  | false => exact .error (lockstep.plain _ trivial)

theorem requiredKind (lockstep : env.Lockstep env' start R T) (alike : a.Alike R a')
    {kinds : List Kind} {β γ : Type} {Q : β → γ → Prop}
    {result : Except (EvalError α) β} {other : Except (EvalError α) γ}
    (rest : a.value.kind ∈ kinds → Agree Q T result other) :
    Agree Q T
      (do
        a.requireKind function kinds
        result)
      (do
        a'.requireKind function kinds
        other) := by
  unfold Argument.requireKind
  rw [← lockstep.kind alike.2]
  exact lockstep.required alike fun accepted => rest (List.contains_iff_mem.mp accepted)

theorem requiredAt (lockstep : env.Lockstep env' start R T) (alike : a.Alike R a')
    {location : Location} {kinds : List Kind} {expected : List String} {β γ : Type}
    {Q : β → γ → Prop} {result : Except (EvalError α) β} {other : Except (EvalError α) γ}
    (rest : a.value.isAt location kinds = true → Agree Q T result other) :
    Agree Q T
      (do
        a.requireAt function location kinds expected
        result)
      (do
        a'.requireAt function location kinds expected
        other) := by
  unfold Argument.requireAt
  rw [← lockstep.isAt alike.2]
  exact lockstep.required alike rest

theorem checked (lockstep : env.Lockstep env' start R T) {β γ δ : Type} {Q : γ → δ → Prop}
    {P : β → Prop} {check : Except (EvalError α) β} {next : β → Except (EvalError α) γ}
    {next' : β → Except (EvalError α) δ} (condition : Meets P EvalError.IsPlain check)
    (rest : ∀ answer, P answer → Agree Q T (next answer) (next' answer)) :
    Agree Q T (check >>= next) (check >>= next') := by
  refine .bind (.refl condition lockstep.plain) fun v w both => ?_
  obtain ⟨rfl, holds⟩ := both
  exact rest v holds

theorem known (lockstep : env.Lockstep env' start R T) {β : Type} (result : Except MeshError β)
    {f : β → Value α} (related : ∀ found, R (f found) (f found)) :
    Agree R T ((ofMesh result).map f) ((ofMesh result).map f) := by
  cases result with
  | ok found => exact .ok (related found)
  | error error => exact .error (lockstep.plain _ trivial)

theorem applyNamed (lockstep : env.Lockstep env' start R T) {builtin : Builtin}
    (known : Builtin.ofName? function.word = some builtin)
    (called : env.registry.Calls start function.word) (name : Token) :
    Agree R T (env.applyNamed builtin name) (env'.applyNamed builtin name) := by
  unfold Environment.applyNamed
  rw [← lockstep.mesh, ← lockstep.options]
  split
  · rw [Builtin.name_of_oldTime known] at called
    exact .map (lockstep.past called name.word) fun _ _ related => lockstep.adopt related
  · exact lockstep.rates (Builtin.name_of_ddt known ▸ called) name
  · exact lockstep.secondRates (Builtin.name_of_d2dt2 known ▸ called) name
  · exact lockstep.known _ fun members => lockstep.masks _ _
  · exact lockstep.known _ fun patch => lockstep.masks _ _
  · exact lockstep.known _ fun patch => lockstep.cells _ (by simp [Mesh.cellCentres])
  · exact .error (lockstep.plain _ trivial)

theorem applyNone (lockstep : env.Lockstep env' start R T) (builtin : Builtin) :
    Agree R T (env.applyNone builtin function) (env'.applyNone builtin function) := by
  unfold Environment.applyNone
  rw [← lockstep.mesh, ← lockstep.options, ← lockstep.time, ← lockstep.timeStep]
  dsimp only
  split
  · exact .ok (lockstep.positions .volume)
  · exact .ok (lockstep.positions _)
  · exact .ok (lockstep.cells _ (List.length_map _))
  · exact .ok lockstep.areaSizes
  · exact .ok lockstep.areas
  · exact .ok (lockstep.cells _ (by simp))
  · exact .ok (lockstep.numbers _)
  · exact .ok (lockstep.numbers _)
  · exact .ok (lockstep.numbers _)
  · exact .ok (lockstep.cells _ (Generator.sample_length _ _ _))
  · exact .ok lockstep.internal
  · exact .error (lockstep.plain _ trivial)

theorem applyAlgebra (lockstep : env.Lockstep env' start R T) (alike : a.Alike R a')
    (builtin : Builtin) :
    Agree R T (applyAlgebra builtin function a) (applyAlgebra builtin function a') := by
  have related := alike.2
  unfold Environment.applyAlgebra
  split
  · refine lockstep.requiredKind alike fun scalar => .mapError ?_
    exact lockstep.elementary _ _ _ related (List.mem_singleton.mp scalar)
  · exact lockstep.requiredKind alike fun _ => .ok (lockstep.magnitude _ _ related)
  · exact lockstep.requiredKind alike fun _ => .ok (lockstep.magnitudeSquared _ _ related)
  · exact lockstep.requiredKind alike fun kind => .mapError (lockstep.square _ _ related kind)
  · exact lockstep.requiredKind alike fun kind => .mapError (lockstep.reduce _ _ _ related kind)
  · exact lockstep.requiredKind alike fun kind => .mapError (lockstep.reduce _ _ _ related kind)
  · refine lockstep.requiredKind alike fun matrix => .mapError ?_
    exact lockstep.tensors _ _ _ (List.mem_filter.mp matrix).2 related
  · exact .error (lockstep.plain _ trivial)

theorem applyOne (lockstep : env.Lockstep env' start R T) (alike : a.Alike R a')
    (builtin : Builtin) :
    Agree R T (env.applyOne builtin function a) (env'.applyOne builtin function a') := by
  have related := alike.2
  unfold Environment.applyOne
  rw [← lockstep.mesh]
  dsimp only
  split
  · rw [← lockstep.kind related, ← lockstep.location related, ← lockstep.isConstant related]
    refine lockstep.required alike fun accepted => .mapError ?_
    simp only [Bool.and_eq_true, decide_eq_true_eq] at accepted
    cases found : a.value.location with
    | none => simp [Value.isConstant, found] at accepted
    | some location => exact lockstep.extremumPosition _ _ _ _ related found accepted.1
  · exact lockstep.requiredAt alike fun accepted => .mapError (lockstep.grad _ _ related accepted)
  · rw [← lockstep.isAt related, ← lockstep.isAt related]
    exact lockstep.required alike fun accepted => .mapError (lockstep.div _ _ related accepted)
  · exact lockstep.requiredAt alike fun accepted => .mapError (lockstep.curl _ _ related accepted)
  · exact lockstep.requiredAt alike fun accepted => .mapError (lockstep.snGrad _ _ related accepted)
  · exact lockstep.requiredAt alike fun accepted =>
      .mapError (lockstep.laplacian _ _ related accepted)
  · exact lockstep.requiredAt alike fun accepted =>
      .mapError (lockstep.interpolate _ _ related accepted)
  · exact lockstep.requiredAt alike fun accepted =>
      .mapError (lockstep.interpolateToPoint _ _ related accepted)
  · exact lockstep.requiredAt alike fun accepted =>
      .mapError (lockstep.interpolateToCell _ _ related accepted)
  · exact lockstep.requiredAt alike fun accepted =>
      .mapError (lockstep.faceAverage _ _ related accepted)
  · exact lockstep.requiredAt alike fun accepted =>
      .mapError (lockstep.surfaceIntegrate _ _ related accepted)
  · exact lockstep.requiredAt alike fun accepted =>
      .mapError (lockstep.surfaceSum _ _ related accepted)
  · exact lockstep.requiredAt alike fun accepted =>
      .mapError (lockstep.reconstruct _ _ related accepted)
  · exact lockstep.requiredAt alike fun accepted =>
      .mapError (lockstep.magSqrGradGrad _ _ related accepted)
  · refine lockstep.requiredAt alike fun _ => .ok ?_
    have flow := lockstep.flow
    rw [← lockstep.mesh] at flow
    exact flow
  · rw [← lockstep.isConstant related]
    exact lockstep.required alike fun _ => .ok (lockstep.expand _ _ _ related)
  · exact lockstep.applyAlgebra alike builtin

theorem applyLaplacian (lockstep : env.Lockstep env' start R T) (factor : a.Alike R a')
    (alike : b.Alike R b') :
    Agree R T (env.applyLaplacian function a b) (env'.applyLaplacian function a' b') := by
  unfold Environment.applyLaplacian
  rw [← lockstep.mesh, ← lockstep.isConstant factor.2, ← lockstep.kind factor.2]
  refine lockstep.requiredAt alike fun placed => ?_
  split
  · rename_i constant
    simp only [Bool.and_eq_true, decide_eq_true_eq] at constant
    exact lockstep.scaled _ _ _ _ factor.2 constant.1 constant.2 alike.2 placed
  · rw [← lockstep.isAt factor.2, ← lockstep.isAt factor.2]
    refine lockstep.required factor fun accepted => .mapError ?_
    exact lockstep.varied _ _ _ _ factor.2 accepted alike.2 placed

theorem applyTwo (lockstep : env.Lockstep env' start R T) (first : a.Alike R a')
    (second : b.Alike R b') (builtin : Builtin) :
    Agree R T (env.applyTwo builtin function a b) (env'.applyTwo builtin function a' b') := by
  unfold Environment.applyTwo
  rw [← lockstep.mesh]
  split
  · refine lockstep.requiredKind first fun base => lockstep.requiredKind second fun exponent => ?_
    rw [← lockstep.checkLocations_congr first.2 second.2]
    refine lockstep.checked (checkLocations_together _ _ _ _) fun _ together => .mapError ?_
    exact lockstep.power _ _ _ _ first.2 second.2 (List.mem_singleton.mp base)
      (List.mem_singleton.mp exponent) together
  · rename_i largest
    rw [← lockstep.kind first.2]
    refine lockstep.requiredKind first fun numeric => lockstep.requiredKind second fun same => ?_
    rw [← lockstep.checkLocations_congr first.2 second.2]
    refine lockstep.checked (checkLocations_together _ _ _ _) fun _ together => .mapError ?_
    cases largest with
    | true =>
      exact lockstep.maximum _ _ _ _ first.2 second.2 numeric (List.mem_singleton.mp same) together
    | false =>
      exact lockstep.minimum _ _ _ _ first.2 second.2 numeric (List.mem_singleton.mp same) together
  · refine lockstep.requiredAt first fun flow => lockstep.requiredAt second fun placed => .mapError ?_
    exact lockstep.divFlux _ _ _ _ first.2 flow second.2 placed
  · refine lockstep.requiredAt first fun flow => lockstep.requiredAt second fun placed => .mapError ?_
    exact lockstep.flux _ _ _ _ first.2 flow second.2 placed
  · exact lockstep.applyLaplacian first second
  · exact .error (lockstep.plain _ trivial)

theorem checkComponents_congr (lockstep : env.Lockstep env' start R T)
    {args args' : List (Argument α)} (alike : List.Forall₂ (Argument.Alike R) args args')
    {first? first?' : Option (Value α)} (first : Option.Rel R first? first?') :
    checkComponents function first? args = checkComponents function first?' args' := by
  induction alike generalizing first? first?' with
  | nil => rfl
  | @cons arg arg' rest rest' same _ ih =>
    simp only [checkComponents]
    have kind : arg.requireKind function [.scalar] = arg'.requireKind function [.scalar] := by
      unfold Argument.requireKind Argument.require
      rw [same.1, lockstep.kind same.2, lockstep.describe same.2]
    rw [kind]
    congr 1
    funext _
    cases first with
    | some related =>
      dsimp only
      rw [lockstep.checkLocations_congr related same.2, same.1, ih (.some related)]
    | none =>
      dsimp only
      rw [lockstep.isConstant same.2]
      refine ih ?_
      split
      · exact .none
      · exact .some same.2

theorem applyBuild (lockstep : env.Lockstep env' start R T) {kind : Kind}
    {args args' : List (Argument α)} (known : Builtin.ofName? function.word = some (.build kind))
    (count : args.length = kind.components.length)
    (alike : List.Forall₂ (Argument.Alike R) args args') :
    Agree R T (env.apply (.build kind) function args) (env'.apply (.build kind) function args') := by
  have none : ∀ first, (none : Option (Value α)) = some first → first.location.isSome := by simp
  have related : List.Forall₂ R (args.map (·.value)) (args'.map (·.value)) := by
    rw [List.forall₂_map_left_iff, List.forall₂_map_right_iff]
    exact alike.imp fun _ _ both => both.2
  unfold Environment.apply
  dsimp only
  rw [← lockstep.checkComponents_congr alike .none]
  refine lockstep.checked ((checkComponents_suits function args none).and
    (checkComponents_kinds function args .none)) fun _ facts => .mapError ?_
  obtain ⟨⟨location, -, suits⟩, scalar⟩ := facts
  refine lockstep.build kind location _ _ related ?_ ?_ ((List.length_map _).trans count)
  · intro v member
    obtain ⟨arg, here, rfl⟩ := List.mem_map.mp member
    exact ⟨scalar arg here, suits arg here⟩
  · intro empty
    have nonempty := Builtin.components_of_build known
    rw [List.map_eq_nil_iff] at empty
    rw [empty, List.length_nil] at count
    exact nonempty (List.length_eq_zero_iff.mp count.symm)

theorem apply (lockstep : env.Lockstep env' start R T) {builtin : Builtin} {least most : Nat}
    {args args' : List (Argument α)} (known : Builtin.ofName? function.word = some builtin)
    (shape : builtin.shape = .expressions least most) (enough : least ≤ args.length)
    (fits : args.length ≤ most) (alike : List.Forall₂ (Argument.Alike R) args args') :
    Agree R T (env.apply builtin function args) (env'.apply builtin function args') := by
  by_cases build : ∃ kind, builtin = .build kind
  · obtain ⟨kind, rfl⟩ := build
    cases shape
    exact lockstep.applyBuild known (Nat.le_antisymm fits enough) alike
  · have other : ∀ kind, builtin ≠ .build kind := fun kind same => build ⟨kind, same⟩
    rcases alike with _ | ⟨first, _ | ⟨second, _ | ⟨third, rest⟩⟩⟩
    · rw [apply_nil other, apply_nil other]
      exact lockstep.applyNone builtin
    · rw [apply_singleton other, apply_singleton other]
      exact lockstep.applyOne first builtin
    · rw [apply_pair other, apply_pair other]
      exact lockstep.applyTwo first second builtin
    · rw [apply_more other, apply_more other, rest.length_eq]
      exact .error (lockstep.plain _ trivial)

theorem applyTable (lockstep : env.Lockstep env' start R T) (table : LookupTable α)
    {args args' : List (Argument α)} (alike : List.Forall₂ (Argument.Alike R) args args') :
    Agree R T (env.applyTable table function args) (env'.applyTable table function args') := by
  unfold Environment.applyTable
  rw [← lockstep.time]
  rcases alike with _ | ⟨first, _ | ⟨second, rest⟩⟩
  · exact .ok (lockstep.numbers _)
  · refine lockstep.requiredKind first fun scalar => .ok ?_
    exact lockstep.table _ _ _ first.2 (List.mem_singleton.mp scalar)
  · simp only [List.length_cons, rest.length_eq]
    exact .error (lockstep.plain _ trivial)

end Environment.Lockstep

end MeshLang
