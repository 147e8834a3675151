import MeshLang.Proofs.Lockstep.Outcome
import MeshLang.Proofs.Value.Shape
import MeshLang.Proofs.Value.Untagged

namespace MeshLang

/-- What is compared of two values besides kind and location: the elements but not the tags, or only
how many elements there are, where nothing has a tag. -/
inductive Regard where
  | elements
  | types
deriving DecidableEq, Repr

namespace Regard

variable {ε δ γ : Type}

def Lists (regard : Regard) (xs ys : List ε) : Prop :=
  match regard with
  | .elements => xs = ys
  | .types => xs.length = ys.length

namespace Lists

variable {regard : Regard} {xs ys : List ε} {us vs : List δ}

theorem refl (xs : List ε) : regard.Lists xs xs := by cases regard <;> rfl

theorem length (alike : regard.Lists xs ys) : xs.length = ys.length := by
  cases regard with
  | elements => exact congrArg List.length alike
  | types => exact alike

theorem congr {f : List ε → List δ} (alike : regard.Lists xs ys)
    (determined : xs.length = ys.length → (f xs).length = (f ys).length) :
    regard.Lists (f xs) (f ys) := by
  cases regard with
  | elements => exact congrArg f alike
  | types => exact determined alike

theorem congr₂ {f : List ε → List δ → List γ} (left : regard.Lists xs ys)
    (right : regard.Lists us vs)
    (determined : xs.length = ys.length → us.length = vs.length →
      (f xs us).length = (f ys vs).length) : regard.Lists (f xs us) (f ys vs) := by
  cases regard with
  | elements =>
    obtain rfl : xs = ys := left
    obtain rfl : us = vs := right
    rfl
  | types => exact determined left right

theorem map (alike : regard.Lists xs ys) (f : ε → δ) : regard.Lists (xs.map f) (ys.map f) :=
  alike.congr fun same => by rw [List.length_map, List.length_map, same]

end Lists

end Regard

section Spreading

variable {ε δ γ : Type}

theorem spread_length_congr (n : Nat) {xs ys : List ε} (same : xs.length = ys.length) :
    (spread n xs).length = (spread n ys).length := by
  by_cases single : xs.length = 1
  · rw [spread_length (.inr single), spread_length (.inr (same ▸ single))]
  · have kept {zs : List ε} (several : zs.length ≠ 1) : (spread n zs).length = zs.length := by
      unfold spread
      split
      · exact absurd rfl several
      · rfl
    rw [kept single, kept (same ▸ single), same]

theorem zipSpread_length_congr (n : Nat) (f : ε → δ → γ) {xs ys : List ε} {us vs : List δ}
    (left : xs.length = ys.length) (right : us.length = vs.length) :
    (zipSpread n f xs us).length = (zipSpread n f ys vs).length := by
  unfold zipSpread
  rw [List.length_zipWith, List.length_zipWith, spread_length_congr n left,
    spread_length_congr n right]

theorem Regard.Lists.zipSpread {regard : Regard} {xs ys : List ε} {us vs : List δ}
    (left : regard.Lists xs ys) (right : regard.Lists us vs) (n : Nat) (f : ε → δ → γ) :
    regard.Lists (zipSpread n f xs us) (MeshLang.zipSpread n f ys vs) :=
  left.congr₂ right (zipSpread_length_congr n f)

end Spreading

variable {α : Type} {regard : Regard}

inductive Data.Alike (regard : Regard) : Data α → Data α → Prop where
  | scalar {xs ys : List α} : regard.Lists xs ys → Alike regard (.scalar xs) (.scalar ys)
  | vector {xs ys : List (Vec3 α)} : regard.Lists xs ys → Alike regard (.vector xs) (.vector ys)
  | tensor {xs ys : List (Mat3 α)} : regard.Lists xs ys → Alike regard (.tensor xs) (.tensor ys)

namespace Data.Alike

variable {a b c d : Data α}

theorem refl (a : Data α) : Alike regard a a := by
  cases a with
  | scalar xs => exact .scalar (.refl xs)
  | vector xs => exact .vector (.refl xs)
  | tensor xs => exact .tensor (.refl xs)

theorem size (alike : Alike regard a b) : a.size = b.size := by
  cases alike with
  | scalar lists | vector lists | tensor lists => exact lists.length

theorem eq (alike : Alike .elements a b) : a = b := by
  cases alike with
  | scalar same | vector same | tensor same => rw [show _ = _ from same]

theorem replicate (alike : Alike regard a b) (n : Nat) :
    Alike regard (a.replicate n) (b.replicate n) := by
  have repeated {ε : Type} {xs ys : List ε} (lists : regard.Lists xs ys) :
      regard.Lists ((xs.take 1).flatMap (List.replicate n))
        ((ys.take 1).flatMap (List.replicate n)) := by
    refine lists.congr (f := fun zs => (zs.take 1).flatMap (List.replicate n)) fun same => ?_
    cases xs <;> cases ys <;> simp at same ⊢
  cases alike with
  | scalar lists => exact .scalar (repeated lists)
  | vector lists => exact .vector (repeated lists)
  | tensor lists => exact .tensor (repeated lists)

variable [Scalar α]

theorem gather (alike : Alike regard a b) (places : List Nat) :
    Alike regard (a.gather places) (b.gather places) := by
  have gathered {ε : Type} (default : ε) {xs ys : List ε} (lists : regard.Lists xs ys) :
      regard.Lists (places.map (xs.getD · default)) (places.map (ys.getD · default)) :=
    lists.congr (f := fun zs => places.map (zs.getD · default)) fun _ => by simp
  cases alike with
  | scalar lists => exact .scalar (gathered _ lists)
  | vector lists => exact .vector (gathered _ lists)
  | tensor lists => exact .tensor (gathered _ lists)

theorem lift {f g : {ε : Type} → [Element α ε] → List ε → List ε} (alike : Alike regard a b)
    (related : ∀ {ε : Type} [Element α ε] (xs ys : List ε), regard.Lists xs ys →
      regard.Lists (f xs) (g ys)) : Alike regard (a.lift f) (b.lift g) := by
  cases alike with
  | scalar lists => exact .scalar (related _ _ lists)
  | vector lists => exact .vector (related _ _ lists)
  | tensor lists => exact .tensor (related _ _ lists)

theorem lift₂ {f g : {ε : Type} → [Element α ε] → List ε → List ε → List ε}
    (left : Alike regard a b) (right : Alike regard c d)
    (related : ∀ {ε : Type} [Element α ε] (xs ys us vs : List ε), regard.Lists xs ys →
      regard.Lists us vs → regard.Lists (f xs us) (g ys vs)) :
    Option.Rel (Alike regard) (Data.lift₂ f a c) (Data.lift₂ g b d) := by
  cases left with
  | scalar first =>
    cases right with
    | scalar second => exact .some (.scalar (related _ _ _ _ first second))
    | vector _ | tensor _ => exact .none
  | vector first =>
    cases right with
    | vector second => exact .some (.vector (related _ _ _ _ first second))
    | scalar _ | tensor _ => exact .none
  | tensor first =>
    cases right with
    | tensor second => exact .some (.tensor (related _ _ _ _ first second))
    | scalar _ | vector _ => exact .none

end Data.Alike

def Regard.Tags (regard : Regard) (tag other : Option (Dimensions α)) : Prop :=
  match regard with
  | .elements => True
  | .types => tag = none ∧ other = none

theorem Regard.Tags.map {tag other : Option (Dimensions α)} (alike : regard.Tags tag other)
    (f g : Dimensions α → Dimensions α) : regard.Tags (tag.map f) (other.map g) := by
  cases regard with
  | elements => trivial
  | types =>
    obtain ⟨rfl, rfl⟩ := alike
    exact ⟨rfl, rfl⟩

theorem Regard.Tags.none : regard.Tags (none : Option (Dimensions α)) Option.none := by
  cases regard with
  | elements => trivial
  | types => exact ⟨rfl, rfl⟩

structure Value.Alike (regard : Regard) (v w : Value α) : Prop where
  kind : v.kind = w.kind
  location : v.location = w.location
  data : v.data.Alike regard w.data
  tags : regard.Tags v.dimensions w.dimensions

def FieldError.IsSingular : FieldError α → Prop
  | .singular _ _ => True
  | _ => False

/-- The failures of one run that say nothing of the other one. -/
def Regard.Excuses (regard : Regard) (error : FieldError α) : Prop :=
  match regard with
  | .elements => error.OfTags
  | .types => error.IsSingular

def Regard.tolerance (regard : Regard) : Tolerance (FieldError α) :=
  ⟨fun _ => True, regard.Excuses⟩

abbrev Regard.Results (regard : Regard) (result other : Except (FieldError α) (Value α)) : Prop :=
  Agree (Value.Alike regard) regard.tolerance result other

end MeshLang
