import MeshLang.Proofs.Value.Functions

namespace MeshLang

variable {α : Type} {location : Location} {n : Nat}

/-- The domain that operands at a location of `n` entities share, and the sizes that operands with
this domain have: a constant fits every domain, and constants alone make a constant. -/
inductive Common (location : Location) (n : Nat) : Option Location × Nat → (Nat → Prop) → Prop
  | located : Common location n (some location, n) (Spreads n)
  | constant : Common location n (none, 1) (· = 1)

variable {shared : Option Location × Nat} {fits : Nat → Prop}

section Lists

variable {ε δ γ : Type} {xs : List ε} {ys : List δ}

theorem Common.spreads (common : Common location n shared fits) {size : Nat} (fit : fits size) :
    Spreads shared.2 size := by
  cases common with
  | located => exact fit
  | constant => exact .inr fit

theorem spread_zipSpread (common : Common location n shared fits) (f : ε → δ → γ)
    (left : fits xs.length) (right : fits ys.length) :
    spread n (zipSpread shared.2 f xs ys) = zipSpread n f (spread n xs) (spread n ys) := by
  cases common with
  | located =>
    rw [spread_of_length (zipSpread_length left right), zipSpread, zipSpread, spread_spread,
      spread_spread]
  | constant =>
    obtain ⟨x, rfl⟩ := List.length_eq_one_iff.mp left
    obtain ⟨y, rfl⟩ := List.length_eq_one_iff.mp right
    rw [zipSpread, zipSpread, spread_spread, spread_spread]
    simp [spread]

theorem spread_choose [Scalar α] (common : Common location n shared fits) {mask : List α}
    {zs : List ε} (chosen : fits mask.length) (left : fits xs.length) (right : fits zs.length) :
    spread n (Value.choose shared.2 mask xs zs) =
      Value.choose n (spread n mask) (spread n xs) (spread n zs) := by
  have length := Value.choose_length (common.spreads chosen) (common.spreads left)
    (common.spreads right)
  unfold Value.choose at length ⊢
  simp only [spread_spread]
  cases common with
  | located => exact spread_of_length length
  | constant =>
    obtain ⟨m, rfl⟩ := List.length_eq_one_iff.mp chosen
    obtain ⟨x, rfl⟩ := List.length_eq_one_iff.mp left
    obtain ⟨z, rfl⟩ := List.length_eq_one_iff.mp right
    simp [spread, List.zip]

end Lists

namespace Data

variable [Scalar α]

theorem replicate_eq {data : Data α} (single : data.size = 1) :
    data.replicate n = data.lift (spread n) := by
  have repeated {ε : Type} (xs : List ε) (one : xs.length = 1) :
      (xs.take 1).flatMap (List.replicate n) = spread n xs := by
    obtain ⟨x, rfl⟩ := List.length_eq_one_iff.mp one
    simp [spread]
  cases data with
  | scalar xs => exact congrArg Data.scalar (repeated xs single)
  | vector xs => exact congrArg Data.vector (repeated xs single)
  | tensor xs => exact congrArg Data.tensor (repeated xs single)

theorem lift_spread_of_size {data : Data α} (all : data.size = n) : data.lift (spread n) = data := by
  cases data with
  | scalar xs => exact congrArg Data.scalar (spread_of_length all)
  | vector xs => exact congrArg Data.vector (spread_of_length all)
  | tensor xs => exact congrArg Data.tensor (spread_of_length all)

structure Widens (n size : Nat) (made wide : Data α) : Prop where
  sized : made.size = size
  wide_eq : wide = made.lift (spread n)

namespace Widens

variable {ε δ : Type} {xs : List ε} {ys : List δ}

theorem numbers {size : Nat} {made wide : List α} (sized : made.length = size)
    (same : spread n made = wide) : Widens n size (.scalar made) (.scalar wide) :=
  ⟨sized, congrArg Data.scalar same.symm⟩

theorem vectors {size : Nat} {made wide : List (Vec3 α)} (sized : made.length = size)
    (same : spread n made = wide) : Widens n size (.vector made) (.vector wide) :=
  ⟨sized, congrArg Data.vector same.symm⟩

theorem matrices {size : Nat} {made wide : List (Mat3 α)} (sized : made.length = size)
    (same : spread n made = wide) : Widens n size (.tensor made) (.tensor wide) :=
  ⟨sized, congrArg Data.tensor same.symm⟩

section Pairs

variable (common : Common location n shared fits) (left : fits xs.length) (right : fits ys.length)
include common left right

theorem scalar (f : ε → δ → α) : Widens n shared.2 (.scalar (zipSpread shared.2 f xs ys))
    (.scalar (zipSpread n f (spread n xs) (spread n ys))) :=
  numbers (zipSpread_length (common.spreads left) (common.spreads right))
    (spread_zipSpread common f left right)

theorem vector (f : ε → δ → Vec3 α) : Widens n shared.2 (.vector (zipSpread shared.2 f xs ys))
    (.vector (zipSpread n f (spread n xs) (spread n ys))) :=
  vectors (zipSpread_length (common.spreads left) (common.spreads right))
    (spread_zipSpread common f left right)

theorem tensor (f : ε → δ → Mat3 α) : Widens n shared.2 (.tensor (zipSpread shared.2 f xs ys))
    (.tensor (zipSpread n f (spread n xs) (spread n ys))) :=
  matrices (zipSpread_length (common.spreads left) (common.spreads right))
    (spread_zipSpread common f left right)

end Pairs

theorem lift (common : Common location n shared fits) {data : Data α} {factors : List α}
    (left : fits data.size) (right : fits factors.length)
    (f : {ε : Type} → [Element α ε] → ε → α → ε) :
    Widens n shared.2 (data.lift fun values => zipSpread shared.2 f values factors)
      ((data.lift (spread n)).lift fun values => zipSpread n f values (spread n factors)) := by
  cases data with
  | scalar xs => exact scalar common left right f
  | vector xs => exact vector common left right f
  | tensor xs => exact tensor common left right f

end Widens

end Data

namespace Value

def LiesAt (location : Location) (n : Nat) (v : Value α) : Prop :=
  match v.location with
  | none => v.data.size = 1
  | some place => place = location ∧ v.data.size = n

variable {v w : Value α}

theorem broadcastTo_of_located (located : v.isConstant = false) (location : Location) (n : Nat) :
    v.broadcastTo location n = v := by
  unfold broadcastTo
  rw [located]
  rfl

theorem broadcastTo_isConstant (v : Value α) (location : Location) (n : Nat) :
    (v.broadcastTo location n).isConstant = false := by
  unfold broadcastTo
  split
  · rfl
  · rename_i located
    exact Bool.eq_false_iff.mpr located

theorem broadcastTo_broadcastTo (v : Value α) (location : Location) (n : Nat) :
    (v.broadcastTo location n).broadcastTo location n = v.broadcastTo location n :=
  broadcastTo_of_located (v.broadcastTo_isConstant location n) location n

theorem liesAt_of_constant (constant : v.isConstant = true) (single : v.size = 1) :
    v.LiesAt location n := by
  unfold LiesAt
  rw [Option.isNone_iff_eq_none.mp constant]
  exact single

theorem domain_common (left : v.LiesAt location n) (right : w.LiesAt location n) :
    ∃ shared fits, domain v w = .ok shared ∧ shared.1 = v.location.or w.location ∧
      Common location n shared fits ∧ fits v.data.size ∧ fits w.data.size := by
  unfold LiesAt at left right
  unfold domain
  cases first : v.location with
  | none =>
    rw [first] at left
    cases second : w.location with
    | none =>
      rw [second] at right
      exact ⟨_, _, rfl, rfl, .constant, left, right⟩
    | some place =>
      rw [second] at right
      obtain ⟨rfl, rfl⟩ := right
      exact ⟨_, _, rfl, rfl, .located, .inr left, .inl rfl⟩
  | some place =>
    rw [first] at left
    obtain ⟨rfl, rfl⟩ := left
    cases second : w.location with
    | none =>
      rw [second] at right
      exact ⟨_, _, rfl, rfl, .located, .inl rfl, .inr right⟩
    | some other =>
      rw [second] at right
      obtain ⟨rfl, same⟩ := right
      exact ⟨_, _, if_pos same.symm, rfl, .located, .inl rfl, .inl same⟩

/-- What an operation makes of expanded operands, `wide`, is what it makes of the operands, expanded;
the latter is at a place, or a constant without one. -/
inductive Widened (location : Location) (n : Nat) (place : Option Location) :
    (wide narrow : Except (FieldError α) (Value α)) → Prop
  | ok {u : Value α} : u.location = place → u.LiesAt location n →
      Widened location n place (.ok (u.broadcastTo location n)) (.ok u)
  | error {error : FieldError α} : Widened location n place (.error error) (.error error)

namespace Widened

variable {place : Option Location} {wide narrow : Except (FieldError α) (Value α)}

theorem eq_map (widened : Widened location n place wide narrow) :
    wide = narrow.map (·.broadcastTo location n) := by
  cases widened with
  | ok _ _ => rfl
  | error => rfl

theorem eq_of_located (widened : Widened location n (some location) wide narrow) :
    wide = narrow := by
  cases widened with
  | @ok u place _ =>
    have located : u.isConstant = false := by simp [isConstant, place]
    rw [broadcastTo_of_located located]
  | error => rfl

theorem constant_of_ok {wide : Except (FieldError α) (Value α)} {u : Value α}
    (widened : Widened location n none wide (.ok u)) : u.isConstant = true ∧ u.size = 1 := by
  cases widened with
  | ok nowhere lies =>
    unfold LiesAt at lies
    rw [nowhere] at lies
    exact ⟨Option.isNone_iff_eq_none.mpr nowhere, lies⟩

end Widened

theorem tag_widened {place : Option Location} {tag : Except (FieldError α) (Option (Dimensions α))}
    {f g : Option (Dimensions α) → Except (FieldError α) (Value α)}
    (step : ∀ tag, Widened location n place (g tag) (f tag)) :
    Widened location n place (tag >>= g) (tag >>= f) := by
  cases tag with
  | error error => exact .error
  | ok tag => exact step tag

variable [Scalar α]

def expand (location : Location) (n : Nat) (v : Value α) : Value α :=
  ⟨v.kind, some location, v.data.lift (spread n), v.dimensions⟩

theorem broadcastTo_eq_expand (lies : v.LiesAt location n) :
    v.broadcastTo location n = v.expand location n := by
  obtain ⟨kind, place, data, tag⟩ := v
  cases place with
  | none => exact congrArg (Value.mk kind (some location) · tag) (Data.replicate_eq lies)
  | some place =>
    obtain ⟨rfl, all⟩ := lies
    exact congrArg (Value.mk kind (some place) · tag) (Data.lift_spread_of_size all).symm

theorem expand_size (lies : v.LiesAt location n) : (v.expand location n).data.size = n := by
  have spreads : Spreads n v.data.size := by
    unfold LiesAt at lies
    split at lies
    · exact .inr lies
    · exact .inl lies.2
  show (v.data.lift (spread n)).size = n
  exact Data.lift_size fun xs length => spread_length (length ▸ spreads)

theorem expand_liesAt (lies : v.LiesAt location n) : (v.expand location n).LiesAt location n :=
  ⟨rfl, expand_size lies⟩

theorem domain_expand (left : v.LiesAt location n) (right : w.LiesAt location n) :
    domain (v.expand location n) (w.expand location n) = .ok (some location, n) := by
  have same : (v.expand location n).size = (w.expand location n).size :=
    (expand_size left).trans (expand_size right).symm
  exact (if_pos same).trans (congrArg (fun size => Except.ok (some location, size)) (expand_size left))

theorem ok_widened (common : Common location n shared fits) {made wide : Data α}
    (widens : Data.Widens n shared.2 made wide) (kind : Kind) (tag : Option (Dimensions α)) :
    Widened location n shared.1 (.ok ⟨kind, some location, wide, tag⟩)
      (.ok ⟨kind, shared.1, made, tag⟩) := by
  obtain ⟨sized, rfl⟩ := widens
  have lies : (⟨kind, shared.1, made, tag⟩ : Value α).LiesAt location n := by
    cases common with
    | located => exact ⟨rfl, sized⟩
    | constant => exact sized
  have widened : Widened location n shared.1 _ (.ok ⟨kind, shared.1, made, tag⟩) := .ok rfl lies
  rwa [broadcastTo_eq_expand lies] at widened

/-- An operation that makes each element of the elements of its operands at the same place. -/
def Elementwise (op : Value α → Value α → Except (FieldError α) (Value α)) : Prop :=
  ∀ ⦃location n v w⦄, v.LiesAt location n → w.LiesAt location n →
    Widened location n (v.location.or w.location)
      (op (v.expand location n) (w.expand location n)) (op v w)

theorem elementwise_domain
    {rest : Value α → Value α → Option Location × Nat → Except (FieldError α) (Value α)}
    (step : ∀ location n v w shared fits, Common location n shared fits → fits v.data.size →
      fits w.data.size → Widened location n shared.1
        (rest (v.expand location n) (w.expand location n) (some location, n)) (rest v w shared)) :
    Elementwise fun v w => domain v w >>= rest v w := by
  intro location n v w left right
  obtain ⟨shared, fits, found, place, common, one, other⟩ := domain_common left right
  dsimp only
  rw [found, domain_expand left right, ← place]
  exact step location n v w shared fits common one other

/-- The common form of sums, differences and the smaller or larger of two values. -/
theorem elementwise_combined (f : {ε : Type} → [Element α ε] → ε → ε → ε)
    (tag : Option (Dimensions α) → Option (Dimensions α) →
      Except (FieldError α) (Option (Dimensions α))) (error : Kind → FieldError α) :
    Elementwise (fun v w => do
      let (place, count) ← domain v w
      let tag ← tag v.dimensions w.dimensions
      match Data.lift₂ (zipSpread count f) v.data w.data with
      | some data => .ok ⟨v.kind, place, data, tag⟩
      | none => .error (error w.kind)) := by
  refine elementwise_domain fun location n v w shared fits common one other =>
    tag_widened fun tag => ?_
  unfold expand
  dsimp only
  cases first : v.data <;> cases second : w.data <;> rw [first] at one <;> rw [second] at other
  case scalar.scalar => exact ok_widened common (.scalar common one other f) _ _
  case vector.vector => exact ok_widened common (.vector common one other f) _ _
  case tensor.tensor => exact ok_widened common (.tensor common one other f) _ _
  all_goals exact .error

theorem add_elementwise : Elementwise (add : Value α → Value α → _) :=
  elementwise_combined Element.add _ _

theorem sub_elementwise : Elementwise (sub : Value α → Value α → _) :=
  elementwise_combined Element.sub _ _

theorem minimum_elementwise : Elementwise (minimum : Value α → Value α → _) :=
  elementwise_combined Element.lower _ _

theorem maximum_elementwise : Elementwise (maximum : Value α → Value α → _) :=
  elementwise_combined Element.upper _ _

theorem mul_elementwise : Elementwise (mul : Value α → Value α → _) := by
  refine elementwise_domain fun location n v w shared fits common one other => ?_
  unfold expand
  dsimp only
  cases first : v.data with
  | scalar factors =>
    rw [first] at one
    exact ok_widened common (.lift common other one Element.scale) _ _
  | vector xs | tensor xs =>
    rw [first] at one
    cases second : w.data with
    | scalar factors =>
      rw [second] at other
      exact ok_widened common (.lift common one other Element.scale) _ _
    | vector _ | tensor _ => exact .error

theorem div_elementwise : Elementwise (div : Value α → Value α → _) := by
  refine elementwise_domain fun location n v w shared fits common one other => ?_
  unfold expand
  dsimp only
  cases second : w.data with
  | scalar divisors =>
    rw [second] at other
    exact ok_widened common (.lift common one other Element.divide) _ _
  | vector _ | tensor _ => exact .error

theorem elementwise_numbers (kind : Kind) (f : α → α → α)
    (tag : Option (Dimensions α) → Option (Dimensions α) →
      Except (FieldError α) (Option (Dimensions α)))
    (result : Option (Dimensions α) → Option (Dimensions α)) (error : Kind → FieldError α) :
    Elementwise (fun v w => do
      let (place, count) ← domain v w
      let tag ← tag v.dimensions w.dimensions
      match v.data, w.data with
      | .scalar xs, .scalar ys => .ok ⟨kind, place, .scalar (zipSpread count f xs ys), result tag⟩
      | _, _ => .error (error v.kind)) := by
  refine elementwise_domain fun location n v w shared fits common one other =>
    tag_widened fun tag => ?_
  unfold expand
  dsimp only
  cases first : v.data <;> cases second : w.data <;> rw [first] at one <;> rw [second] at other
  case scalar.scalar => exact ok_widened common (.scalar common one other f) _ _
  all_goals exact .error

theorem remainder_elementwise : Elementwise (remainder : Value α → Value α → _) :=
  elementwise_numbers .scalar Scalar.remainder _ id _

theorem compare_elementwise (comparison : Comparison) :
    Elementwise (Value.compare comparison : Value α → Value α → _) :=
  elementwise_numbers .logical _ _ (fun _ => none) _

theorem truthPair_elementwise (symbol : String) (f : Bool → Bool → Bool) :
    Elementwise (truthPair symbol f : Value α → Value α → _) :=
  elementwise_numbers .logical _ (fun _ _ => .ok none) id _

theorem inner_elementwise : Elementwise (inner : Value α → Value α → _) := by
  refine elementwise_domain fun location n v w shared fits common one other => ?_
  unfold expand
  dsimp only
  cases first : v.data <;> cases second : w.data <;> rw [first] at one <;> rw [second] at other
  case vector.vector => exact ok_widened common (.scalar common one other _) _ _
  case vector.tensor => exact ok_widened common (.vector common one other _) _ _
  case tensor.vector => exact ok_widened common (.vector common one other _) _ _
  case tensor.tensor => exact ok_widened common (.tensor common one other _) _ _
  all_goals exact .error

theorem cross_elementwise : Elementwise (cross : Value α → Value α → _) := by
  refine elementwise_domain fun location n v w shared fits common one other => ?_
  unfold expand
  dsimp only
  cases first : v.data <;> cases second : w.data <;> rw [first] at one <;> rw [second] at other
  case vector.vector => exact ok_widened common (.vector common one other _) _ _
  all_goals exact .error

theorem doubleInner_elementwise : Elementwise (doubleInner : Value α → Value α → _) := by
  refine elementwise_domain fun location n v w shared fits common one other => ?_
  unfold expand
  dsimp only
  cases first : v.data <;> cases second : w.data <;> rw [first] at one <;> rw [second] at other
  case tensor.tensor => exact ok_widened common (.scalar common one other _) _ _
  all_goals exact .error

omit [Scalar α] in
theorem choiceDomain_common {condition : Value α} (test : condition.LiesAt location n)
    (common : Common location n shared fits) :
    ∃ both kept, choiceDomain condition shared = .ok both ∧
      both.1 = condition.location.or shared.1 ∧ Common location n both kept ∧
      kept condition.data.size ∧ ∀ size, fits size → kept size := by
  unfold LiesAt at test
  unfold choiceDomain
  cases found : condition.location with
  | none =>
    rw [found] at test
    refine ⟨shared, fits, rfl, rfl, common, ?_, fun size fit => fit⟩
    cases common with
    | located => exact .inr test
    | constant => exact test
  | some place =>
    rw [found] at test
    obtain ⟨rfl, all⟩ := test
    refine ⟨(some place, n), Spreads n, ?_, rfl, .located, .inl all, ?_⟩
    · cases common with
      | located => simp [size, all]
      | constant => simp [size, all]
    · intro size fit
      cases common with
      | located => exact fit
      | constant => exact .inr fit

theorem choiceDomain_expand {condition : Value α} (test : condition.LiesAt location n) :
    choiceDomain (condition.expand location n) (some location, n) = .ok (some location, n) := by
  have all : (condition.expand location n).size = n := expand_size test
  unfold choiceDomain
  simp only [all, bne_self_eq_false, Bool.and_false, Bool.false_eq_true, if_false]
  rfl

theorem choose_widened (common : Common location n shared fits) {mask : List α}
    (chosen : fits mask.length) (one : fits v.data.size) (other : fits w.data.size)
    (kind : Kind) (tag : Option (Dimensions α)) (error : FieldError α) :
    Widened location n shared.1
      (match Data.lift₂ (choose n (spread n mask)) (v.data.lift (spread n))
          (w.data.lift (spread n)) with
        | some data => .ok ⟨kind, some location, data, tag⟩
        | none => .error error)
      (match Data.lift₂ (choose shared.2 mask) v.data w.data with
        | some data => .ok ⟨kind, shared.1, data, tag⟩
        | none => .error error) := by
  have length {ε : Type} {xs ys : List ε} (left : fits xs.length) (right : fits ys.length) :
      (choose shared.2 mask xs ys).length = shared.2 :=
    choose_length (common.spreads chosen) (common.spreads left) (common.spreads right)
  cases first : v.data <;> cases second : w.data <;> rw [first] at one <;> rw [second] at other
  case scalar.scalar =>
    exact ok_widened common
      (.numbers (length one other) (spread_choose common chosen one other)) _ _
  case vector.vector =>
    exact ok_widened common
      (.vectors (length one other) (spread_choose common chosen one other)) _ _
  case tensor.tensor =>
    exact ok_widened common
      (.matrices (length one other) (spread_choose common chosen one other)) _ _
  all_goals exact .error

theorem select_widened {condition : Value α} (test : condition.LiesAt location n)
    (left : v.LiesAt location n) (right : w.LiesAt location n) : Widened location n
      (condition.location.or (v.location.or w.location))
      (select (condition.expand location n) (v.expand location n) (w.expand location n))
      (select condition v w) := by
  obtain ⟨shared, fits, found, place, common, one, other⟩ := domain_common left right
  obtain ⟨both, kept, chosenFrom, here, common, chosen, keeps⟩ := choiceDomain_common test common
  unfold select
  rw [found, domain_expand left right, ← place, ← here]
  dsimp only [bind, Except.bind]
  rw [chosenFrom, choiceDomain_expand test]
  refine tag_widened fun tag => ?_
  cases held : condition.data with
  | scalar mask =>
    rw [held] at chosen
    unfold expand
    simp only [held]
    exact choose_widened common chosen (keeps _ one) (keeps _ other) _ _ _
  | vector _ | tensor _ =>
    unfold expand
    simp only [held]
    exact .error

end Value

theorem BinaryOp.apply_elementwise [Scalar α] (op : BinaryOp) :
    Value.Elementwise (op.apply : Value α → Value α → _) := by
  cases op with
  | add => exact Value.add_elementwise
  | sub => exact Value.sub_elementwise
  | mul => exact Value.mul_elementwise
  | div => exact Value.div_elementwise
  | remainder => exact Value.remainder_elementwise
  | inner => exact Value.inner_elementwise
  | cross => exact Value.cross_elementwise
  | doubleInner => exact Value.doubleInner_elementwise
  | less | greater | lessEqual | greaterEqual | equal | notEqual =>
    exact Value.compare_elementwise _
  | and | or => exact Value.truthPair_elementwise _ _

end MeshLang
