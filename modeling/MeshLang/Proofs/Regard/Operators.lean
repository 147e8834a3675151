import MeshLang.Evaluation.Reduction
import MeshLang.Proofs.Regard.Data

namespace MeshLang

variable {α : Type}

namespace Value.Alike

variable {regard : Regard} {v v' w w' : Value α}

theorem refl (regard : Regard) (untagged : regard.Tags v.dimensions v.dimensions) :
    v.Alike regard v :=
  ⟨rfl, rfl, .refl _, untagged⟩

theorem plain (untagged : v.dimensions = none) : v.Alike regard v := by
  refine .refl regard ?_
  rw [untagged]
  exact .none

theorem size (alike : v.Alike regard w) : v.size = w.size := alike.data.size

theorem untagged (alike : v.Alike regard w) : v.untagged.Alike regard w.untagged :=
  ⟨alike.kind, alike.location, alike.data, .none⟩

theorem relabel (alike : v.Alike regard w) (kind : Kind) :
    (v.relabel kind).Alike regard (w.relabel kind) :=
  ⟨rfl, alike.location, alike.data, alike.tags⟩

theorem broadcastTo (alike : v.Alike regard w) (location : Location) (n : Nat) :
    (v.broadcastTo location n).Alike regard (w.broadcastTo location n) := by
  unfold Value.broadcastTo Value.isConstant
  rw [alike.location]
  split
  · exact ⟨alike.kind, rfl, alike.data.replicate n, alike.tags⟩
  · exact alike

theorem scalars? (alike : v.Alike regard w) : Option.Rel regard.Lists v.scalars? w.scalars? := by
  have data := alike.data
  unfold Value.scalars?
  generalize v.data = a at data ⊢
  generalize w.data = b at data ⊢
  cases data with
  | scalar lists => exact .some lists
  | vector _ | tensor _ => exact .none

theorem domain_congr (left : v.Alike regard v') (right : w.Alike regard w') :
    domain v w = domain v' w' := by
  unfold domain
  rw [left.location, right.location, left.size, right.size]

end Value.Alike

theorem FieldError.sumTag_meets [Scalar α] (operation : String) (tag other : Option (Dimensions α)) :
    Meets (fun _ => True) FieldError.OfTags (Value.sumTag operation tag other) := by
  unfold Value.sumTag
  split
  · split <;> trivial
  · trivial
  · trivial

namespace Regard

variable {regard : Regard} {v v' w w' : Value α}

theorem placed {β : Type} {Q : β → β → Prop} (left : v.Alike regard v') (right : w.Alike regard w')
    {next next' : Option Location × Nat → Except (FieldError α) β}
    (rest : ∀ place, Agree Q regard.tolerance (next place) (next' place)) :
    Agree Q regard.tolerance (Value.domain v w >>= next) (Value.domain v' w' >>= next') := by
  rw [left.domain_congr right]
  cases Value.domain v' w' with
  | ok place => exact rest place
  | error error => exact .error trivial

theorem numbers_agree (kind : Kind) (location : Option Location) (n : Nat) (f : α → α → α)
    (error : FieldError α) {a a' b b' : Data α} {tag tag' : Option (Dimensions α)} :
    a.Alike regard a' → b.Alike regard b' → regard.Tags tag tag' → regard.Results
      (match a, b with
        | .scalar xs, .scalar ys => .ok ⟨kind, location, .scalar (zipSpread n f xs ys), tag⟩
        | _, _ => .error error)
      (match a', b' with
        | .scalar xs, .scalar ys => .ok ⟨kind, location, .scalar (zipSpread n f xs ys), tag'⟩
        | _, _ => .error error) := by
  intro left right tags
  cases left with
  | scalar xs =>
    cases right with
    | scalar ys => exact .ok ⟨rfl, rfl, .scalar (xs.zipSpread ys n f), tags⟩
    | vector _ | tensor _ => exact .error trivial
  | vector _ | tensor _ => exact .error trivial

variable [Scalar α]

theorem sumTag_agree (operation : String) {tag tag' other other' : Option (Dimensions α)}
    (left : regard.Tags tag tag') (right : regard.Tags other other') :
    Agree regard.Tags regard.tolerance (Value.sumTag operation tag other)
      (Value.sumTag operation tag' other') := by
  cases regard with
  | elements =>
    have first := FieldError.sumTag_meets operation tag other
    have second := FieldError.sumTag_meets operation tag' other'
    cases summed : Value.sumTag operation tag other with
    | error error => exact .left (first.of_error summed)
    | ok sum =>
      cases summed' : Value.sumTag operation tag' other' with
      | error error => exact .right (second.of_error summed')
      | ok sum' => exact .ok trivial
  | types =>
    obtain ⟨rfl, rfl⟩ := left
    obtain ⟨rfl, rfl⟩ := right
    exact .ok ⟨rfl, rfl⟩

theorem productTag_agree {tag tag' other other' : Option (Dimensions α)}
    (left : regard.Tags tag tag') (right : regard.Tags other other') :
    regard.Tags (Value.productTag tag other) (Value.productTag tag' other') := by
  cases regard with
  | elements => trivial
  | types =>
    obtain ⟨rfl, rfl⟩ := left
    obtain ⟨rfl, rfl⟩ := right
    exact ⟨rfl, rfl⟩

theorem quotientTag_agree {tag tag' other other' : Option (Dimensions α)}
    (left : regard.Tags tag tag') (right : regard.Tags other other') :
    regard.Tags (Value.quotientTag tag other) (Value.quotientTag tag' other') := by
  cases regard with
  | elements => trivial
  | types =>
    obtain ⟨rfl, rfl⟩ := left
    obtain ⟨rfl, rfl⟩ := right
    exact ⟨rfl, rfl⟩

theorem combined_agree (left : v.Alike regard v') (right : w.Alike regard w') (operation : String)
    (f : Nat → {ε : Type} → [Element α ε] → List ε → List ε → List ε)
    (related : ∀ (n : Nat) {ε : Type} [Element α ε] (xs ys us vs : List ε), regard.Lists xs ys →
      regard.Lists us vs → regard.Lists (f n xs us) (f n ys vs)) :
    regard.Results
      (do
        let (location, n) ← Value.domain v w
        let tag ← Value.sumTag operation v.dimensions w.dimensions
        match Data.lift₂ (f n) v.data w.data with
        | some data => .ok ⟨v.kind, location, data, tag⟩
        | none => .error (.unsupported operation w.kind))
      (do
        let (location, n) ← Value.domain v' w'
        let tag ← Value.sumTag operation v'.dimensions w'.dimensions
        match Data.lift₂ (f n) v'.data w'.data with
        | some data => .ok ⟨v'.kind, location, data, tag⟩
        | none => .error (.unsupported operation w'.kind)) := by
  refine placed left right fun place => ?_
  obtain ⟨location, n⟩ := place
  refine .bind (sumTag_agree operation left.tags right.tags) fun tag tag' tags => ?_
  have combined := left.data.lift₂ right.data (related n)
  generalize Data.lift₂ (f n) v.data w.data = data at combined ⊢
  generalize Data.lift₂ (f n) v'.data w'.data = data' at combined ⊢
  cases combined with
  | some data => exact .ok ⟨left.kind, rfl, data, tags⟩
  | none =>
    rw [right.kind]
    exact .error trivial

theorem add_agree (left : v.Alike regard v') (right : w.Alike regard w') :
    regard.Results (v.add w) (v'.add w') :=
  combined_agree left right "+" (fun n => zipSpread n Element.add)
    fun n _ _ _ _ _ _ first second => first.zipSpread second n _

theorem sub_agree (left : v.Alike regard v') (right : w.Alike regard w') :
    regard.Results (v.sub w) (v'.sub w') :=
  combined_agree left right "-" (fun n => zipSpread n Element.sub)
    fun n _ _ _ _ _ _ first second => first.zipSpread second n _

theorem minimum_agree (left : v.Alike regard v') (right : w.Alike regard w') :
    regard.Results (v.minimum w) (v'.minimum w') :=
  combined_agree left right "min" (fun n => zipSpread n Element.lower)
    fun n _ _ _ _ _ _ first second => first.zipSpread second n _

theorem maximum_agree (left : v.Alike regard v') (right : w.Alike regard w') :
    regard.Results (v.maximum w) (v'.maximum w') :=
  combined_agree left right "max" (fun n => zipSpread n Element.upper)
    fun n _ _ _ _ _ _ first second => first.zipSpread second n _

theorem scaleBy_alike {factors factors' : List α} {data data' : Data α}
    (left : regard.Lists factors factors') (right : data.Alike regard data') (n : Nat) :
    (Value.scaleBy n factors data).Alike regard (Value.scaleBy n factors' data') := by
  cases right with
  | scalar lists => exact .scalar (lists.zipSpread left n _)
  | vector lists => exact .vector (lists.zipSpread left n _)
  | tensor lists => exact .tensor (lists.zipSpread left n _)

theorem mul_agree (left : v.Alike regard v') (right : w.Alike regard w') :
    regard.Results (v.mul w) (v'.mul w') := by
  refine placed left right fun place => ?_
  obtain ⟨location, n⟩ := place
  have tags := productTag_agree left.tags right.tags
  have first := left.data
  have second := right.data
  dsimp only
  rw [left.kind, right.kind]
  generalize v.data = data at first ⊢
  generalize v'.data = data' at first ⊢
  generalize w.data = other at second ⊢
  generalize w'.data = other' at second ⊢
  cases first with
  | scalar factors => exact .ok ⟨rfl, rfl, scaleBy_alike factors second n, tags⟩
  | vector lists =>
    cases second with
    | scalar factors => exact .ok ⟨rfl, rfl, scaleBy_alike factors (.vector lists) n, tags⟩
    | vector _ | tensor _ => exact .error trivial
  | tensor lists =>
    cases second with
    | scalar factors => exact .ok ⟨rfl, rfl, scaleBy_alike factors (.tensor lists) n, tags⟩
    | vector _ | tensor _ => exact .error trivial

theorem div_agree (left : v.Alike regard v') (right : w.Alike regard w') :
    regard.Results (v.div w) (v'.div w') := by
  refine placed left right fun place => ?_
  obtain ⟨location, n⟩ := place
  have tags := quotientTag_agree left.tags right.tags
  have second := right.data
  dsimp only
  rw [left.kind, right.kind]
  generalize w.data = other at second ⊢
  generalize w'.data = other' at second ⊢
  cases second with
  | scalar divisors =>
    refine .ok ⟨rfl, rfl, ?_, tags⟩
    have first := left.data
    generalize v.data = data at first ⊢
    generalize v'.data = data' at first ⊢
    cases first with
    | scalar lists => exact .scalar (lists.zipSpread divisors n _)
    | vector lists => exact .vector (lists.zipSpread divisors n _)
    | tensor lists => exact .tensor (lists.zipSpread divisors n _)
  | vector _ | tensor _ => exact .error trivial

theorem remainder_agree (left : v.Alike regard v') (right : w.Alike regard w') :
    regard.Results (v.remainder w) (v'.remainder w') := by
  refine placed left right fun place => ?_
  refine .bind (sumTag_agree "%" left.tags right.tags) fun tag tag' tags => ?_
  rw [left.kind]
  exact numbers_agree .scalar place.1 place.2 _ _ left.data right.data tags

theorem compare_agree (comparison : Comparison) (left : v.Alike regard v')
    (right : w.Alike regard w') : regard.Results (v.compare comparison w) (v'.compare comparison w') := by
  refine placed left right fun place => ?_
  refine .bind (sumTag_agree comparison.symbol left.tags right.tags) fun _ _ _ => ?_
  rw [left.kind]
  exact numbers_agree .logical place.1 place.2 _ _ left.data right.data .none

theorem truthPair_agree (symbol : String) (f : Bool → Bool → Bool) (left : v.Alike regard v')
    (right : w.Alike regard w') :
    regard.Results (Value.truthPair symbol f v w) (Value.truthPair symbol f v' w') := by
  refine placed left right fun place => ?_
  rw [left.kind]
  exact numbers_agree .logical place.1 place.2 _ _ left.data right.data .none

theorem inner_agree (left : v.Alike regard v') (right : w.Alike regard w') :
    regard.Results (v.inner w) (v'.inner w') := by
  refine placed left right fun place => ?_
  obtain ⟨location, n⟩ := place
  have tags := productTag_agree left.tags right.tags
  have first := left.data
  have second := right.data
  dsimp only
  rw [left.kind, right.kind]
  generalize v.data = data at first ⊢
  generalize v'.data = data' at first ⊢
  generalize w.data = other at second ⊢
  generalize w'.data = other' at second ⊢
  cases first with
  | scalar _ => cases second <;> exact .error trivial
  | vector xs =>
    cases second with
    | scalar _ => exact .error trivial
    | vector ys => exact .ok ⟨rfl, rfl, .scalar (xs.zipSpread ys n _), tags⟩
    | tensor ms => exact .ok ⟨rfl, rfl, .vector (xs.zipSpread ms n _), tags⟩
  | tensor ms =>
    cases second with
    | scalar _ => exact .error trivial
    | vector ys => exact .ok ⟨rfl, rfl, .vector (ms.zipSpread ys n _), tags⟩
    | tensor ns => exact .ok ⟨rfl, rfl, .tensor (ms.zipSpread ns n _), tags⟩

theorem cross_agree (left : v.Alike regard v') (right : w.Alike regard w') :
    regard.Results (v.cross w) (v'.cross w') := by
  refine placed left right fun place => ?_
  obtain ⟨location, n⟩ := place
  have tags := productTag_agree left.tags right.tags
  have first := left.data
  have second := right.data
  dsimp only
  rw [left.kind]
  generalize v.data = data at first ⊢
  generalize v'.data = data' at first ⊢
  generalize w.data = other at second ⊢
  generalize w'.data = other' at second ⊢
  cases first with
  | scalar _ | tensor _ => exact .error trivial
  | vector xs =>
    cases second with
    | scalar _ | tensor _ => exact .error trivial
    | vector ys => exact .ok ⟨rfl, rfl, .vector (xs.zipSpread ys n _), tags⟩

theorem doubleInner_agree (left : v.Alike regard v') (right : w.Alike regard w') :
    regard.Results (v.doubleInner w) (v'.doubleInner w') := by
  refine placed left right fun place => ?_
  obtain ⟨location, n⟩ := place
  have tags := productTag_agree left.tags right.tags
  have first := left.data
  have second := right.data
  dsimp only
  rw [left.kind]
  generalize v.data = data at first ⊢
  generalize v'.data = data' at first ⊢
  generalize w.data = other at second ⊢
  generalize w'.data = other' at second ⊢
  cases first with
  | scalar _ | vector _ => exact .error trivial
  | tensor ms =>
    cases second with
    | scalar _ | vector _ => exact .error trivial
    | tensor ns => exact .ok ⟨rfl, rfl, .scalar (ms.zipSpread ns n _), tags⟩

theorem binary_agree (op : BinaryOp) (left : v.Alike regard v') (right : w.Alike regard w') :
    regard.Results (op.apply v w) (op.apply v' w') := by
  cases op with
  | add => exact add_agree left right
  | sub => exact sub_agree left right
  | mul => exact mul_agree left right
  | div => exact div_agree left right
  | remainder => exact remainder_agree left right
  | inner => exact inner_agree left right
  | cross => exact cross_agree left right
  | doubleInner => exact doubleInner_agree left right
  | less => exact compare_agree .less left right
  | greater => exact compare_agree .greater left right
  | lessEqual => exact compare_agree .lessEqual left right
  | greaterEqual => exact compare_agree .greaterEqual left right
  | equal => exact compare_agree .equal left right
  | notEqual => exact compare_agree .notEqual left right
  | and => exact truthPair_agree "&&" Bool.and left right
  | or => exact truthPair_agree "||" Bool.or left right

theorem not_agree (alike : v.Alike regard w) : regard.Results v.not w.not := by
  have data := alike.data
  unfold Value.not
  rw [alike.location]
  generalize v.data = a at data ⊢
  generalize w.data = b at data ⊢
  cases data with
  | scalar lists => exact .ok ⟨rfl, rfl, .scalar (lists.map _), .none⟩
  | vector _ | tensor _ => exact .error trivial

theorem unary_agree (op : UnaryOp) (alike : v.Alike regard w) :
    regard.Results (op.apply v) (op.apply w) := by
  cases op with
  | negate =>
    have data := alike.data.lift (f := List.map Element.neg) (g := List.map Element.neg)
      fun _ _ lists => lists.map _
    exact .ok ⟨alike.kind, alike.location, data, alike.tags⟩
  | not => exact not_agree alike

theorem Lists.choose {ε : Type} {mask mask' : List α} {xs ys us vs : List ε}
    (masks : regard.Lists mask mask') (first : regard.Lists xs ys) (second : regard.Lists us vs)
    (n : Nat) : regard.Lists (Value.choose n mask xs us) (Value.choose n mask' ys vs) := by
  cases regard with
  | elements =>
    obtain rfl : mask = mask' := masks
    obtain rfl : xs = ys := first
    obtain rfl : us = vs := second
    rfl
  | types =>
    change (Value.choose n mask xs us).length = (Value.choose n mask' ys vs).length
    unfold Value.choose
    simp only [List.length_zipWith, List.length_zip, spread_length_congr n masks.length,
      spread_length_congr n first.length, spread_length_congr n second.length]

theorem select_agree {c c' : Value α} (condition : c.Alike regard c') (left : v.Alike regard v')
    (right : w.Alike regard w') : regard.Results (Value.select c v w) (Value.select c' v' w') := by
  refine placed left right fun branches => ?_
  have domains : Value.choiceDomain c branches = Value.choiceDomain c' branches := by
    unfold Value.choiceDomain
    rw [condition.location, condition.size]
  rw [domains]
  refine .bind (.refl .any fun _ _ => trivial) fun place place' same => ?_
  obtain ⟨rfl, -⟩ := same
  obtain ⟨location, n⟩ := place
  refine .bind (sumTag_agree "?:" left.tags right.tags) fun tag tag' tags => ?_
  have masks := condition.data
  rw [condition.kind, right.kind, left.kind]
  generalize c.data = a at masks ⊢
  generalize c'.data = b at masks ⊢
  cases masks with
  | vector _ | tensor _ => exact .error trivial
  | @scalar mask mask' lists =>
    have chosen := left.data.lift₂ right.data fun _ _ _ _ first second => lists.choose first second n
    dsimp only
    generalize Data.lift₂ (Value.choose n mask) v.data w.data = data at chosen ⊢
    generalize Data.lift₂ (Value.choose n mask') v'.data w'.data = data' at chosen ⊢
    cases chosen with
    | some data => exact .ok ⟨rfl, rfl, data, tags⟩
    | none => exact .error trivial

end Regard

end MeshLang
