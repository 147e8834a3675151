import MeshLang.Proofs.Grammar.Independence
import MeshLang.Proofs.Parallel.Outcome
import Mathlib.Data.List.Forall2

namespace MeshLang

variable {α : Type}

/-- Two environments that differ in variables and plugins at most, and in no variable that the tokens
of both texts can name. -/
structure Environment.Shares (env env' : Environment α) (L : Correspondence α) : Prop where
  repository : env'.repository = env.repository
  options : env'.options = env.options
  bindings : ∀ {t t'}, L.tokens t t' → env'.bindings.get? t.word = env.bindings.get? t.word

theorem noPlace_of_head {hint : String} (differ : hint.toList.head? ≠ some 'p') : NoPlace hint := by
  rintro place rfl
  refine differ ?_
  rw [String.toList_append]
  rfl

structure Correspondence.Matches (L : Correspondence α) (a a' : Argument α) : Prop where
  value : a'.value = a.value
  start : L.starts a.start a'.start

namespace Correspondence

variable {β γ : Type} {R : β → γ → Prop} {L : Correspondence α} {function function' : Token}
  {a a' b b' : Argument α} {args args' : List (Argument α)}

theorem Same.required (alike : L.Matches a a') (called : L.tokens function function')
    {accepted : Bool} {expected : List String} {result : Except (EvalError α) β}
    {other : Except (EvalError α) γ} (rest : L.Same R result other) :
    L.Same R
      (do
        a.require function accepted expected
        result)
      (do
        a'.require function' accepted expected
        other) := by
  unfold Argument.require
  rw [alike.value, L.word called]
  cases accepted with
  | true => exact rest
  | false => exact .error (.mismatch alike.start (by decide))

theorem Same.requiredKind (alike : L.Matches a a') (called : L.tokens function function')
    {kinds : List Kind} {result : Except (EvalError α) β} {other : Except (EvalError α) γ}
    (rest : L.Same R result other) :
    L.Same R
      (do
        a.requireKind function kinds
        result)
      (do
        a'.requireKind function' kinds
        other) := by
  unfold Argument.requireKind
  rw [alike.value]
  exact .required alike called rest

theorem Same.requiredAt (alike : L.Matches a a') (called : L.tokens function function')
    {location : Location} {kinds : List Kind} {expected : List String}
    {result : Except (EvalError α) β} {other : Except (EvalError α) γ}
    (rest : L.Same R result other) :
    L.Same R
      (do
        a.requireAt function location kinds expected
        result)
      (do
        a'.requireAt function' location kinds expected
        other) := by
  unfold Argument.requireAt
  rw [alike.value]
  exact .required alike called rest

theorem Same.wrongCount (called : L.tokens function function') (least most found : Nat) :
    L.Same R (.error (wrongCount function least most found))
      (.error (MeshLang.wrongCount function' least most found)) := by
  unfold MeshLang.wrongCount
  rw [L.word called]
  exact .error (.mismatch (L.start called) (by decide))

theorem Same.locations {place place' : Token} (related : L.starts place place') (symbol : String)
    (v w : Value α) :
    L.Same Eq (checkLocations symbol v w place) (checkLocations symbol v w place') := by
  unfold checkLocations
  split
  · split
    · exact .ok rfl
    · exact .error (.mismatch related (by decide))
  · exact .ok rfl

end Correspondence

open Correspondence

section Functions

variable [Scalar α] {env env' : Environment α} {L : Correspondence α} {function function' : Token}
  {a a' b b' : Argument α} {args args' : List (Argument α)}

omit [Scalar α] in
theorem checkComponents_alike (called : L.tokens function function')
    (alike : List.Forall₂ L.Matches args args') (first? : Option (Value α)) :
    L.Same Eq (checkComponents function first? args) (checkComponents function' first? args') := by
  induction alike generalizing first? with
  | nil => exact .ok rfl
  | cons head _ ih =>
    refine .requiredKind head called ?_
    cases first? with
    | some first =>
      rw [head.value, L.word called]
      exact .bind (.locations head.start _ _ _) fun _ _ _ => ih _
    | none =>
      rw [head.value]
      exact ih _

namespace Environment

omit [Scalar α] in
theorem Shares.history (shares : env.Shares env' L) {name name' : Token} (named : L.tokens name name')
    (level : Nat) : L.Same Eq (env.history name.word level) (env'.history name'.word level) := by
  unfold Environment.history
  rw [L.word named, shares.bindings named, shares.repository]
  split
  · exact .ok rfl
  · exact .repository _

omit [Scalar α] in
theorem Shares.lookup (shares : env.Shares env' L) {name name' : Token} (named : L.tokens name name') :
    L.Same Eq (env.lookup name.word) (env'.lookup name'.word) := by
  unfold Environment.lookup
  rw [L.word named, shares.bindings named, shares.repository]
  split
  · exact .ok rfl
  · exact .repository _

theorem Shares.firstDerivative (shares : env.Shares env' L) {name name' : Token}
    (named : L.tokens name name') (current : Value α) :
    L.Same Eq (env.firstDerivative name.word current) (env'.firstDerivative name'.word current) := by
  unfold Environment.firstDerivative
  rw [shares.repository]
  refine .bind (shares.history named 1) fun old _ same => ?_
  subst same
  refine .bind (.field _) fun change _ same => ?_
  subst same
  refine .bind (.field _) fun rate _ same => ?_
  subst same
  exact .ok rfl

theorem Shares.secondDerivative (shares : env.Shares env' L) {name name' : Token}
    (named : L.tokens name name') (current : Value α) :
    L.Same Eq (env.secondDerivative name.word current) (env'.secondDerivative name'.word current) := by
  unfold Environment.secondDerivative
  rw [shares.repository]
  refine .bind (shares.history named 1) fun old _ same => ?_
  subst same
  refine .bind (shares.history named 2) fun older _ same => ?_
  subst same
  refine .bind (.field _) fun twice _ same => ?_
  subst same
  refine .bind (.field _) fun change _ same => ?_
  subst same
  refine .bind (.field _) fun change _ same => ?_
  subst same
  refine .bind (.field _) fun rate _ same => ?_
  subst same
  exact .ok rfl

theorem Shares.timeDerivative (shares : env.Shares env' L) {name name' : Token}
    (named : L.tokens name name') (second : Bool) :
    L.Same Eq (env.timeDerivative second name) (env'.timeDerivative second name') := by
  unfold Environment.timeDerivative
  refine .bind (shares.history named 0) fun v _ same => ?_
  subst same
  have rates : L.Same Eq
      (if second then env.secondDerivative name.word v.untagged
        else env.firstDerivative name.word v.untagged)
      (if second then env'.secondDerivative name'.word v.untagged
        else env'.firstDerivative name'.word v.untagged) := by
    split
    · exact shares.secondDerivative named _
    · exact shares.firstDerivative named _
  rw [L.word named] at rates ⊢
  dsimp only
  split
  · exact .error (.mismatch (L.start named) (by decide))
  · exact rates

theorem Shares.applyNamed (shares : env.Shares env' L) (builtin : Builtin) {name name' : Token}
    (named : L.tokens name name') :
    L.Same Eq (env.applyNamed builtin name) (env'.applyNamed builtin name') := by
  have mesh : env'.mesh = env.mesh := by unfold Environment.mesh; rw [shares.repository]
  have old := shares.history named 1
  unfold Environment.applyNamed
  rw [L.word named] at old ⊢
  rw [mesh, shares.options]
  split
  · exact .map old fun v w same => congrArg _ same
  · exact shares.timeDerivative named false
  · exact shares.timeDerivative named true
  · exact .map (.mesh _) fun v w same => same ▸ rfl
  · exact .map (.mesh _) fun v w same => same ▸ rfl
  · exact .map (.mesh _) fun v w same => same ▸ rfl
  · exact .wrongCount named 0 0 1

theorem applyNone_alike (called : L.tokens function function') (builtin : Builtin) :
    L.Same Eq (env.applyNone builtin function) (env.applyNone builtin function') := by
  unfold applyNone
  dsimp only
  split
  case h_12 => exact .wrongCount called 0 0 0
  all_goals exact .ok rfl

theorem applyAlgebra_alike (called : L.tokens function function') (alike : L.Matches a a')
    (builtin : Builtin) :
    L.Same Eq (applyAlgebra builtin function a) (applyAlgebra builtin function' a') := by
  unfold applyAlgebra
  rw [alike.value]
  split
  · exact .requiredKind alike called (.field _)
  · exact .requiredKind alike called (.ok rfl)
  · exact .requiredKind alike called (.ok rfl)
  · exact .requiredKind alike called (.field _)
  · exact .requiredKind alike called (.field _)
  · exact .requiredKind alike called (.field _)
  · exact .requiredKind alike called (.field _)
  · exact .wrongCount called 0 0 1

theorem applyOne_alike (called : L.tokens function function') (alike : L.Matches a a')
    (builtin : Builtin) :
    L.Same Eq (env.applyOne builtin function a) (env.applyOne builtin function' a') := by
  unfold applyOne
  rw [alike.value]
  dsimp only
  split
  case h_1 => exact .required alike called (.field _)
  case h_3 => exact .required alike called (.field _)
  case h_15 => exact .requiredAt alike called (.ok rfl)
  case h_16 => exact .required alike called (.ok rfl)
  case h_17 => exact applyAlgebra_alike called alike builtin
  all_goals exact .requiredAt alike called (.field _)

theorem applyLaplacian_alike (called : L.tokens function function') (factor : L.Matches a a')
    (alike : L.Matches b b') :
    L.Same Eq (env.applyLaplacian function a b) (env.applyLaplacian function' a' b') := by
  unfold applyLaplacian
  rw [factor.value, alike.value]
  refine .requiredAt alike called ?_
  split
  · refine .bind (.field _) fun plain _ same => ?_
    subst same
    refine .bind (.field _) fun scaled _ same => ?_
    subst same
    exact .ok rfl
  · exact .required factor called (.field _)

theorem applyTwo_alike (called : L.tokens function function') (first : L.Matches a a')
    (second : L.Matches b b') (builtin : Builtin) :
    L.Same Eq (env.applyTwo builtin function a b) (env.applyTwo builtin function' a' b') := by
  unfold applyTwo
  rw [first.value, second.value, L.word called]
  split
  · refine .requiredKind first called (.requiredKind second called ?_)
    exact .bind (.locations (L.start called) _ _ _) fun _ _ _ => .field _
  · refine .requiredKind first called (.requiredKind second called ?_)
    exact .bind (.locations (L.start called) _ _ _) fun _ _ _ => .field _
  · exact .requiredAt first called (.requiredAt second called (.field _))
  · exact .requiredAt first called (.requiredAt second called (.field _))
  · exact applyLaplacian_alike called first second
  · exact .wrongCount called 0 0 2

omit [Scalar α] in
theorem values_eq (alike : List.Forall₂ L.Matches args args') :
    args'.map (·.value) = args.map (·.value) := by
  induction alike with
  | nil => rfl
  | cons head _ ih => rw [List.map_cons, List.map_cons, ih, head.value]

theorem apply_alike (called : L.tokens function function') (alike : List.Forall₂ L.Matches args args')
    (builtin : Builtin) :
    L.Same Eq (env.apply builtin function args) (env.apply builtin function' args') := by
  by_cases build : ∃ kind, builtin = .build kind
  · obtain ⟨kind, rfl⟩ := build
    change L.Same Eq (checkComponents function none args >>= _) (checkComponents function' none args' >>= _)
    refine .bind (checkComponents_alike called alike none) fun _ _ _ => ?_
    rw [values_eq alike]
    exact .field _
  · have other : ∀ kind, builtin ≠ .build kind := fun kind same => build ⟨kind, same⟩
    rw [apply_eq other, apply_eq other]
    cases alike with
    | nil => exact applyNone_alike called builtin
    | cons first alike =>
      cases alike with
      | nil => exact applyOne_alike called first builtin
      | cons second alike =>
        cases alike with
        | nil => exact applyTwo_alike called first second builtin
        | cons third alike =>
          simp only [List.length_cons, alike.length_eq]
          exact .wrongCount called 0 0 _

theorem applyTable_alike (called : L.tokens function function')
    (alike : List.Forall₂ L.Matches args args') (table : LookupTable α) :
    L.Same Eq (env.applyTable table function args) (env.applyTable table function' args') := by
  cases alike with
  | nil => exact .ok rfl
  | cons first alike =>
    cases alike with
    | nil =>
      simp only [Environment.applyTable, first.value]
      exact .requiredKind first called (.ok rfl)
    | cons second alike =>
      simp only [Environment.applyTable, List.length_cons, alike.length_eq]
      exact .wrongCount called 0 1 _

theorem applyForeign_alike (called : L.tokens function function') {name name' : Token}
    (named : L.tokens name name') (region : Region α) (old : Bool) :
    L.Same Eq (env.applyForeign region function name old)
      (env.applyForeign region function' name' old) := by
  unfold applyForeign
  rw [L.word named, L.word called]
  split
  · exact .error (.plain trivial)
  · split
    · exact .error (.hinted named (by decide) (noPlace_of_head (by simp)))
    · have found (result : Except RepositoryError (Value α)) :
          L.Same Eq
            (do
              let v ← result.mapError .ofRepository
              return env.options.adopt (← ofField (region.mesh.mapCells env.mesh env.options.order v)))
            (do
              let v ← result.mapError .ofRepository
              return env.options.adopt
                (← ofField (region.mesh.mapCells env.mesh env.options.order v))) := by
        refine .bind (.repository _) fun v _ same => ?_
        subst same
        refine .bind (.field _) fun mapped _ same => ?_
        subst same
        exact .ok rfl
      exact found _

theorem Shares.functions (shares : env.Shares env' L) :
    env'.apply = env.apply ∧ env'.applyTable = env.applyTable ∧ env'.applyForeign = env.applyForeign := by
  obtain ⟨repository, registry, options, bindings⟩ := env
  obtain ⟨repository', registry', options', bindings'⟩ := env'
  obtain ⟨rfl, rfl, -⟩ := shares
  exact ⟨rfl, rfl, rfl⟩

end Environment

end Functions

end MeshLang
