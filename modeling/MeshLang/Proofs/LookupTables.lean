import Mathlib.Data.Set.List
import MeshLang.Proofs.Scalar.Extended
import MeshLang.Repository.LookupTable

namespace MeshLang.LookupTable

theorem eq_of_count_map {ε δ : Type} [DecidableEq δ] {f : ε → δ} {xs : List ε} {x y : ε}
    (once : (xs.map f).count (f x) = 1) (other : y ∈ xs) (there : x ∈ xs) (same : f y = f x) :
    y = x := by
  obtain ⟨before, after, rfl⟩ := List.append_of_mem there
  simp only [List.map_append, List.map_cons, List.count_append, List.count_cons_self] at once
  obtain ⟨left, right⟩ : (before.map f).count (f x) = 0 ∧ (after.map f).count (f x) = 0 := by omega
  rw [List.count_eq_zero] at left right
  rcases List.mem_append.mp other with ahead | behind
  · exact absurd (List.mem_map.mpr ⟨y, ahead, same⟩) left
  · rcases List.mem_cons.mp behind with here | later
    · exact here
    · exact absurd (List.mem_map.mpr ⟨y, later, same⟩) right

section Ends

variable {α : Type} {R : α × α → α × α → Prop} (itself : ∀ p, R p p)

theorem lastPoint_eq (p : α × α) (rest : List (α × α)) :
    (p :: rest)[rest.length]? = some (lastPoint p rest) := by
  induction rest generalizing p with
  | nil => rfl
  | cons q rest ih => exact ih q

theorem getLast?_eq (p : α × α) (rest : List (α × α)) :
    (p :: rest).getLast? = some (lastPoint p rest) :=
  List.getLast?_eq_getElem?.trans (lastPoint_eq p rest)

include itself

theorem rel_getElem? {points : List (α × α)} (ordered : points.Pairwise R) {i j : Nat} {p q : α × α}
    (left : points[i]? = some p) (right : points[j]? = some q) (upTo : i ≤ j) : R p q := by
  obtain ⟨below, rfl⟩ := List.getElem?_eq_some_iff.mp left
  obtain ⟨below', rfl⟩ := List.getElem?_eq_some_iff.mp right
  rcases upTo.eq_or_lt with rfl | less
  · exact itself _
  · exact List.pairwise_iff_getElem.mp ordered i j below below' less

variable {first p : α × α} {rest : List (α × α)} (ordered : (first :: rest).Pairwise R)
  (member : p ∈ first :: rest)

include ordered member

theorem rel_first : R first p := by
  obtain ⟨i, found⟩ := List.mem_iff_getElem?.mp member
  exact rel_getElem? itself ordered rfl found i.zero_le

theorem rel_lastPoint : R p (lastPoint first rest) := by
  obtain ⟨i, found⟩ := List.mem_iff_getElem?.mp member
  obtain ⟨below, -⟩ := List.getElem?_eq_some_iff.mp found
  exact rel_getElem? itself ordered found (lastPoint_eq first rest) (Nat.le_of_lt_succ below)

end Ends

section Search

variable {α : Type} [Scalar α] {points : List (α × α)} {x : α} {count : Nat}

theorem ofPoints_ok {table : LookupTable α} (accepted : ofPoints points = .ok table) :
    points ≠ [] ∧ (∀ p ∈ points, Scalar.isFinite p.1 = true ∧ Scalar.isFinite p.2 = true) ∧
      table.points = points.mergeSort fun p q => Scalar.totalLe p.1 q.1 := by
  unfold ofPoints at accepted
  split at accepted
  · cases accepted
  · rename_i filled
    split at accepted
    · cases accepted
    · rename_i proper
      cases accepted
      refine ⟨by simpa using filled, fun p member => ?_, rfl⟩
      simpa using mt (fun improper => List.any_eq_true.mpr ⟨p, member, improper⟩) proper

structure Parts (points : List (α × α)) (x : α) (count : Nat) : Prop where
  inside : count ≤ points.length
  before : ∀ (i : Nat) (p : α × α), points[i]? = some p → i < count → Scalar.le p.1 x = true
  after : ∀ (i : Nat) (p : α × α), points[i]? = some p → count ≤ i → Scalar.le p.1 x = false

theorem countUpTo?_eq (parts : Parts points x count) {low high : Nat} (lower : low ≤ count)
    (upper : count ≤ high) (within : high ≤ points.length) :
    countUpTo? points x low high = some count := by
  fun_induction countUpTo? points x low high with
  | case1 low high open_ middle missing =>
    have there : middle < points.length := by omega
    rw [List.getElem?_eq_getElem there] at missing
    cases missing
  | case2 low high open_ middle p found left ih =>
    refine ih ?_ upper within
    by_contra beyond
    rw [parts.after middle p found (by omega)] at left
    cases left
  | case3 low high open_ middle p found right ih =>
    refine ih lower ?_ (by omega)
    by_contra beyond
    exact right (parts.before middle p found (by omega))
  | case4 low high closed => rw [Nat.le_antisymm lower (by omega)]

theorem exists_parts (downward : points.Pairwise fun p q => Scalar.le q.1 x = true →
    Scalar.le p.1 x = true) : ∃ count, Parts points x count := by
  induction points with
  | nil => exact ⟨0, Nat.le_refl 0, by simp, by simp⟩
  | cons p rest ih =>
    obtain ⟨ahead, behind⟩ := List.pairwise_cons.mp downward
    cases left : Scalar.le p.1 x with
    | true =>
      obtain ⟨count, parts⟩ := ih behind
      refine ⟨count + 1, Nat.succ_le_succ parts.inside, ?_, ?_⟩
      · rintro (_ | i) q found below
        · cases found
          exact left
        · exact parts.before i q found (by omega)
      · rintro (_ | i) q found above
        · omega
        · exact parts.after i q found (by omega)
    | false =>
      refine ⟨0, Nat.zero_le _, by simp, fun i q found _ => ?_⟩
      rcases List.mem_cons.mp (List.mem_of_getElem? found) with rfl | member
      · exact left
      · rw [Bool.eq_false_iff]
        intro right
        rw [ahead q member right] at left
        cases left

theorem follow_eq {p l r : α × α} {rest : List (α × α)} {i : Nat}
    (before : ∀ (j : Nat) (q : α × α), (p :: rest)[j]? = some q → j ≤ i → Scalar.le q.1 x = true)
    (left : (p :: rest)[i]? = some l) (right : (p :: rest)[i + 1]? = some r)
    (beyond : Scalar.le r.1 x = false) : follow p x rest = between l r x := by
  induction i generalizing p rest with
  | zero =>
    cases left
    cases rest with
    | nil => cases right
    | cons q rest =>
      cases right
      rw [follow, beyond]
      rfl
  | succ i ih =>
    cases rest with
    | nil => cases left
    | cons q rest =>
      rw [follow, before 1 q rfl (by omega)]
      exact ih (fun j u found below => before (j + 1) u found (by omega)) left right

/-- Two neighbouring points, of which the first one is not right of a number and the second one is. -/
structure Brackets (points : List (α × α)) (x : α) (p q : α × α) : Prop where
  neighbours : ∃ i, points[i]? = some p ∧ points[i + 1]? = some q
  left : Scalar.le p.1 x = true
  right : Scalar.lt x q.1 = true

/-- What the search relies on: the points ascend, each of them has an order to `x`, and only points at
the same place have a difference of zero. -/
structure Searchable (points : List (α × α)) (x : α) : Prop where
  downward : points.Pairwise fun p q => Scalar.le q.1 x = true → Scalar.le p.1 x = true
  total : ∀ p ∈ points, Scalar.le x p.1 = false → Scalar.le p.1 x = true
  apart : ∀ p ∈ points, ∀ q ∈ points, Scalar.eq (q.1 - p.1) Scalar.zero = true →
    Scalar.eq q.1 p.1 = true

theorem chord?_eq {i : Nat} {p q : α × α} (left : points[i]? = some p)
    (right : points[i + 1]? = some q)
    (apart : Scalar.eq (q.1 - p.1) Scalar.zero = true → Scalar.eq q.1 p.1 = true) :
    chord? points x (i + 1) = some (between p q x) := by
  have there : points[i + 1 - 1]? = some p := left
  unfold chord? between
  rw [if_neg (Nat.succ_ne_zero i), there, right]
  cases upright : Scalar.eq q.1 p.1 with
  | true => simp [upright]
  | false =>
    have nonzero : Scalar.eq (q.1 - p.1) Scalar.zero = false := by
      rw [Bool.eq_false_iff]
      exact fun zero => by rw [apart zero] at upright; cases upright
    simp [upright, nonzero]

theorem chord?_countUpTo? {first : α × α} {rest : List (α × α)}
    (searchable : Searchable (first :: rest) x) (inside : Scalar.le x first.1 = false)
    (before : Scalar.le (lastPoint first rest).1 x = false) :
    (countUpTo? (first :: rest) x 0 (first :: rest).length).bind (chord? (first :: rest) x) =
      some (follow first x rest) := by
  obtain ⟨count, parts⟩ := exists_parts searchable.downward
  have some : count ≠ 0 := by
    rintro rfl
    have left := searchable.total first List.mem_cons_self inside
    rw [parts.after 0 first rfl (Nat.le_refl 0)] at left
    cases left
  have fewer : count < (first :: rest).length := by
    by_contra all
    rw [List.length_cons] at all
    rw [parts.before _ _ (lastPoint_eq first rest) (by omega)] at before
    cases before
  obtain ⟨i, rfl⟩ := Nat.exists_eq_succ_of_ne_zero some
  have left := List.getElem?_eq_getElem (Nat.lt_of_succ_lt fewer)
  have right := List.getElem?_eq_getElem fewer
  rw [countUpTo?_eq parts (Nat.zero_le _) parts.inside (Nat.le_refl _), Option.bind_some,
    follow_eq (fun j q found below => parts.before j q found (by omega)) left right
      (parts.after _ _ right (Nat.le_refl _))]
  exact chord?_eq left right
    (searchable.apart _ (List.mem_of_getElem? left) _ (List.mem_of_getElem? right))

/-- The checks of the search never fail, and it finds the value. -/
theorem value?_eq {table : LookupTable α} (filled : table.points ≠ [])
    (searchable : Scalar.isUndefined x = false → Searchable table.points x) :
    table.value? x = some (table.value x) := by
  obtain ⟨points⟩ := table
  dsimp only at filled searchable
  cases points with
  | nil => exact absurd rfl filled
  | cons first rest =>
    have last : (first :: rest)[(first :: rest).length - 1]? = some (lastPoint first rest) :=
      lastPoint_eq first rest
    unfold value? value
    dsimp only
    rw [last]
    cases undefined : Scalar.isUndefined x with
    | true => rfl
    | false =>
      cases inside : Scalar.le x first.1 with
      | true => simp [inside]
      | false =>
        cases before : Scalar.le (lastPoint first rest).1 x with
        | true => simp [inside, before]
        | false =>
          have found := chord?_countUpTo? (searchable undefined) inside before
          simpa [inside, before] using found

end Search

section Lines

variable {κ : Type} [ExactScalar κ] [LinearOrder κ] [OrderedScalar κ]
variable {p q : κ × κ} {x x' : κ}

theorem between_eq (apart : p.1 < q.1) :
    between p q x = p.2 + (q.2 - p.2) * (x - p.1) / (q.1 - p.1) := by
  have upright : Scalar.eq q.1 p.1 ≠ true := fun same =>
    apart.ne' ((OrderedScalar.eq_iff _ _).mp same)
  rw [between, if_neg upright]

theorem between_left (apart : p.1 < q.1) : between p q p.1 = p.2 := by
  rw [between_eq apart, sub_self, mul_zero, zero_div, add_zero]

theorem between_right (apart : p.1 < q.1) : between p q q.1 = q.2 := by
  rw [between_eq apart, mul_div_cancel_right₀ _ (sub_pos.mpr apart).ne', add_sub_cancel]

theorem between_mono (apart : p.1 < q.1) (rising : p.2 ≤ q.2) (ordered : x ≤ x') :
    between p q x ≤ between p q x' := by
  rw [between_eq apart, between_eq apart]
  have product : (q.2 - p.2) * (x - p.1) ≤ (q.2 - p.2) * (x' - p.1) :=
    mul_le_mul_of_nonneg_left (sub_le_sub_right ordered _) (sub_nonneg.mpr rising)
  have width : 0 ≤ q.1 - p.1 := (sub_pos.mpr apart).le
  exact add_le_add le_rfl (div_le_div_of_nonneg_right product width)

theorem between_anti (apart : p.1 < q.1) (falling : q.2 ≤ p.2) (ordered : x ≤ x') :
    between p q x' ≤ between p q x := by
  rw [between_eq apart, between_eq apart]
  have product : (q.2 - p.2) * (x' - p.1) ≤ (q.2 - p.2) * (x - p.1) :=
    mul_le_mul_of_nonpos_left (sub_le_sub_right ordered _) (sub_nonpos.mpr falling)
  have width : 0 ≤ q.1 - p.1 := (sub_pos.mpr apart).le
  exact add_le_add le_rfl (div_le_div_of_nonneg_right product width)

theorem between_mem (left : p.1 ≤ x) (right : x < q.1) : between p q x ∈ Set.uIcc p.2 q.2 := by
  have apart := left.trans_lt right
  have start := between_left apart
  have stop := between_right apart
  rcases le_total p.2 q.2 with rising | falling
  · rw [Set.uIcc_of_le rising]
    exact ⟨start.symm.trans_le (between_mono apart rising left),
      (between_mono apart rising right.le).trans_eq stop⟩
  · rw [Set.uIcc_of_ge falling]
    exact ⟨stop.symm.trans_le (between_anti apart falling right.le),
      (between_anti apart falling left).trans_eq start⟩

end Lines

section Laws

variable {κ : Type} [ExactScalar κ] [LinearOrder κ] [OrderedScalar κ]
variable {p q first : κ × κ} {rest : List (κ × κ)} {x x' y : κ}

theorem follow_of_le (left : q.1 ≤ x) : follow p x (q :: rest) = follow q x rest :=
  if_pos ((OrderedScalar.le_iff _ _).mpr left)

theorem follow_of_lt (right : x < q.1) : follow p x (q :: rest) = between p q x :=
  if_neg fun left => right.not_ge ((OrderedScalar.le_iff _ _).mp left)

theorem value_cons : value ⟨first :: rest⟩ x =
    if x ≤ first.1 then first.2
    else if (lastPoint first rest).1 ≤ x then (lastPoint first rest).2
    else follow first x rest := by
  unfold value
  rw [Scalar.isUndefined_eq]
  simp only [OrderedScalar.le_iff, Bool.false_eq_true, if_false]

theorem value_left (outside : x ≤ first.1) : value ⟨first :: rest⟩ x = first.2 := by
  rw [value_cons, if_pos outside]

theorem value_right (inside : first.1 < x) (beyond : (lastPoint first rest).1 ≤ x) :
    value ⟨first :: rest⟩ x = (lastPoint first rest).2 := by
  rw [value_cons, if_neg inside.not_ge, if_pos beyond]

theorem value_inside (inside : first.1 < x) (before : x < (lastPoint first rest).1) :
    value ⟨first :: rest⟩ x = follow first x rest := by
  rw [value_cons, if_neg inside.not_ge, if_neg before.not_ge]

theorem exists_brackets (inside : first.1 ≤ x) (before : x < (lastPoint first rest).1) :
    ∃ p q, Brackets (first :: rest) x p q := by
  induction rest generalizing first with
  | nil => exact absurd inside before.not_ge
  | cons q rest ih =>
    rcases le_or_gt q.1 x with reached | right
    · obtain ⟨l, r, ⟨i, here, there⟩, left, right⟩ := ih reached before
      exact ⟨l, r, ⟨i + 1, here, there⟩, left, right⟩
    · exact ⟨first, q, ⟨0, rfl, rfl⟩, (OrderedScalar.le_iff _ _).mpr inside,
        (OrderedScalar.lt_iff _ _).mpr right⟩

section Node

variable (sorted : (first :: rest).Pairwise fun p q => p.1 ≤ q.1)

include sorted

theorem follow_node (left : first.1 ≤ x) (there : ∃ p ∈ first :: rest, p.1 = x)
    (single : ∀ p ∈ first :: rest, p.1 = x → p.2 = y) : follow first x rest = y := by
  induction rest generalizing first with
  | nil =>
    obtain ⟨p, member, here⟩ := there
    rw [List.mem_singleton] at member
    exact single first List.mem_cons_self (member ▸ here)
  | cons q rest ih =>
    obtain ⟨ahead, behind⟩ := List.pairwise_cons.mp sorted
    obtain ⟨p, member, here⟩ := there
    rcases le_or_gt q.1 x with reached | right
    · rw [follow_of_le reached]
      refine ih behind reached ?_ fun p member => single p (List.mem_cons_of_mem first member)
      rcases List.mem_cons.mp member with rfl | later
      · have same : q.1 = x := le_antisymm reached (here ▸ ahead q List.mem_cons_self)
        exact ⟨q, List.mem_cons_self, same⟩
      · exact ⟨p, later, here⟩
    · have first_here : first.1 = x := by
        rcases List.mem_cons.mp member with rfl | later
        · exact here
        · have beyond : q.1 ≤ p.1 := by
            rcases List.mem_cons.mp later with rfl | further
            · exact le_refl _
            · exact (List.pairwise_cons.mp behind).1 p further
          exact absurd (beyond.trans_eq here) right.not_ge
      subst first_here
      rw [follow_of_lt right, between_left right]
      exact single first List.mem_cons_self rfl

theorem value_node (there : p ∈ first :: rest)
    (single : ∀ q ∈ first :: rest, q.1 = p.1 → q.2 = p.2) : value ⟨first :: rest⟩ p.1 = p.2 := by
  have start : first.1 ≤ p.1 := rel_first (fun p => le_refl p.1) sorted there
  have stop : p.1 ≤ (lastPoint first rest).1 := rel_lastPoint (fun p => le_refl p.1) sorted there
  rcases start.eq_or_lt with same | inside
  · rw [value_left same.ge]
    exact single first List.mem_cons_self same
  · rcases stop.eq_or_lt with same | before
    · rw [value_right inside same.ge]
      exact single _ (List.mem_of_getElem? (lastPoint_eq first rest)) same.symm
    · rw [value_inside inside before]
      exact follow_node sorted inside.le ⟨p, there, rfl⟩ single

theorem value_brackets (inside : first.1 < x) (brackets : Brackets (first :: rest) x p q) :
    value ⟨first :: rest⟩ x = between p q x := by
  obtain ⟨⟨i, here, there⟩, left, right⟩ := brackets
  rw [OrderedScalar.le_iff] at left
  rw [OrderedScalar.lt_iff] at right
  have before : x < (lastPoint first rest).1 :=
    right.trans_le (rel_lastPoint (fun p => le_refl p.1) sorted (List.mem_of_getElem? there))
  have upTo (j : Nat) (r : κ × κ) (found : (first :: rest)[j]? = some r) (below : j ≤ i) :
      Scalar.le r.1 x = true := by
    rw [OrderedScalar.le_iff]
    exact (rel_getElem? (fun p => le_refl p.1) sorted found here below).trans left
  have beyond : Scalar.le q.1 x = false := by
    rw [Bool.eq_false_iff]
    exact fun reached => right.not_ge ((OrderedScalar.le_iff _ _).mp reached)
  rw [value_inside inside before, follow_eq upTo here there beyond]

end Node

section Rising

variable (rising : (first :: rest).Pairwise fun p q => p.2 ≤ q.2)

include rising

theorem follow_mem (left : first.1 ≤ x) :
    follow first x rest ∈ Set.Icc first.2 (lastPoint first rest).2 := by
  induction rest generalizing first with
  | nil => exact ⟨le_refl _, le_refl _⟩
  | cons q rest ih =>
    obtain ⟨ahead, behind⟩ := List.pairwise_cons.mp rising
    have step := ahead q List.mem_cons_self
    rcases le_or_gt q.1 x with reached | right
    · rw [follow_of_le reached]
      obtain ⟨lower, upper⟩ := ih behind reached
      exact ⟨step.trans lower, upper⟩
    · rw [follow_of_lt right]
      have inside := between_mem left right
      rw [Set.uIcc_of_le step] at inside
      exact ⟨inside.1, inside.2.trans (rel_lastPoint (fun p => le_refl p.2) behind List.mem_cons_self)⟩

theorem follow_mono (left : first.1 ≤ x) (ordered : x ≤ x') :
    follow first x rest ≤ follow first x' rest := by
  induction rest generalizing first with
  | nil => exact le_refl _
  | cons q rest ih =>
    obtain ⟨ahead, behind⟩ := List.pairwise_cons.mp rising
    have step := ahead q List.mem_cons_self
    rcases le_or_gt q.1 x with reached | right
    · rw [follow_of_le reached, follow_of_le (reached.trans ordered)]
      exact ih behind reached
    · rw [follow_of_lt right]
      rcases le_or_gt q.1 x' with reached | right'
      · have inside := between_mem left right
        rw [Set.uIcc_of_le step] at inside
        rw [follow_of_le reached]
        exact inside.2.trans (follow_mem behind reached).1
      · rw [follow_of_lt right']
        exact between_mono (left.trans_lt right) step ordered

theorem value_mem : value ⟨first :: rest⟩ x ∈ Set.Icc first.2 (lastPoint first rest).2 := by
  have whole : first.2 ≤ (lastPoint first rest).2 :=
    rel_lastPoint (fun p => le_refl p.2) rising List.mem_cons_self
  rcases le_or_gt x first.1 with outside | inside
  · rw [value_left outside]
    exact ⟨le_refl _, whole⟩
  · rcases le_or_gt (lastPoint first rest).1 x with beyond | before
    · rw [value_right inside beyond]
      exact ⟨whole, le_refl _⟩
    · rw [value_inside inside before]
      exact follow_mem rising inside.le

theorem value_mono (ordered : x ≤ x') : value ⟨first :: rest⟩ x ≤ value ⟨first :: rest⟩ x' := by
  rcases le_or_gt x first.1 with outside | inside
  · rw [value_left outside]
    exact (value_mem rising).1
  · have inside' := inside.trans_le ordered
    rcases le_or_gt (lastPoint first rest).1 x with beyond | before
    · rw [value_right inside beyond, value_right inside' (beyond.trans ordered)]
    · rw [value_inside inside before]
      rcases le_or_gt (lastPoint first rest).1 x' with beyond | before'
      · rw [value_right inside' beyond]
        exact (follow_mem rising inside.le).2
      · rw [value_inside inside' before']
        exact follow_mono rising inside.le ordered

end Rising

end Laws

section Finite

variable {κ : Type}

def finitePoint (p : κ × κ) : Extended κ × Extended κ := (.finite p.1, .finite p.2)

theorem lastPoint_finite (p : κ × κ) (rest : List (κ × κ)) :
    lastPoint (finitePoint p) (rest.map finitePoint) = finitePoint (lastPoint p rest) := by
  induction rest generalizing p with
  | nil => rfl
  | cons q rest ih => exact ih q

variable [ExactScalar κ] [LinearOrder κ]

theorem exists_finitePoints {points : List (Extended κ × Extended κ)}
    (finite : ∀ p ∈ points, Scalar.isFinite p.1 = true ∧ Scalar.isFinite p.2 = true) :
    ∃ raw : List (κ × κ), raw.map finitePoint = points := by
  show points ∈ Set.range (List.map finitePoint)
  rw [Set.range_list_map]
  rintro ⟨x, y⟩ member
  obtain ⟨left, right⟩ := finite _ member
  obtain ⟨a, rfl⟩ := Extended.exists_of_isFinite left
  obtain ⟨b, rfl⟩ := Extended.exists_of_isFinite right
  exact ⟨(a, b), rfl⟩

theorem mergeSort_finite (raw : List (κ × κ)) : ∃ ascending : List (κ × κ),
    (raw.map finitePoint).mergeSort (fun p q => Scalar.totalLe p.1 q.1) = ascending.map finitePoint ∧
      ascending.Pairwise fun p q => p.1 ≤ q.1 := by
  refine ⟨raw.mergeSort fun p q => decide (p.1 ≤ q.1), ?_, ?_⟩
  · exact (List.map_mergeSort fun p _ q _ => (Extended.totalLe_finite p.1 q.1).symm).symm
  · have order := List.pairwise_mergeSort
      (fun p q r (left : decide (p.1 ≤ q.1) = true) (right : decide (q.1 ≤ r.1) = true) =>
        decide_eq_true ((of_decide_eq_true left).trans (of_decide_eq_true right)))
      (fun p q => by simpa using le_total p.1 q.1) raw
    exact order.imp of_decide_eq_true

theorem ofPoints_finite {points : List (Extended κ × Extended κ)} {table : LookupTable (Extended κ)}
    (accepted : ofPoints points = .ok table) :
    ∃ first rest, table.points = (first :: rest).map finitePoint ∧ table.points.Perm points ∧
      (first :: rest).Pairwise fun p q => p.1 ≤ q.1 := by
  obtain ⟨filled, finite, stored⟩ := ofPoints_ok accepted
  obtain ⟨raw, rfl⟩ := exists_finitePoints finite
  obtain ⟨ascending, same, order⟩ := mergeSort_finite raw
  have perm : table.points.Perm (raw.map finitePoint) := stored ▸ List.mergeSort_perm _ _
  rw [same] at stored
  cases ascending with
  | nil =>
    rw [stored] at perm
    exact absurd perm.nil_eq.symm filled
  | cons first rest => exact ⟨first, rest, stored, perm, order⟩

theorem value_infinite (first : κ × κ) (rest : List (κ × κ)) (negative : Bool) :
    value ⟨(first :: rest).map finitePoint⟩ (.infinite negative) =
      .finite (if negative then first.2 else (lastPoint first rest).2) := by
  unfold value
  simp only [List.map_cons, lastPoint_finite]
  cases negative with
  | true => rfl
  | false => rfl

variable [OrderedScalar κ]

theorem between_finite (p q : κ × κ) (x : κ) :
    between (finitePoint p) (finitePoint q) (.finite x) = .finite (between p q x) := by
  by_cases same : q.1 = p.1
  · have upright : Scalar.eq (finitePoint q).1 (finitePoint p).1 = true := Extended.eq_finite.mpr same
    rw [between, between, if_pos upright, if_pos ((OrderedScalar.eq_iff _ _).mpr same)]
    rfl
  · have apart : Scalar.eq (finitePoint q).1 (finitePoint p).1 ≠ true := mt Extended.eq_finite.mp same
    rw [between, between, if_neg apart, if_neg (mt (OrderedScalar.eq_iff _ _).mp same)]
    simp only [finitePoint, Extended.sub_finite, Extended.add_finite, Extended.mul_finite,
      Extended.div_finite (sub_ne_zero.mpr same)]

theorem follow_finite (p : κ × κ) (x : κ) (rest : List (κ × κ)) :
    follow (finitePoint p) (.finite x) (rest.map finitePoint) = .finite (follow p x rest) := by
  induction rest generalizing p with
  | nil => rfl
  | cons q rest ih =>
    rw [List.map_cons, follow, follow, ih, between_finite, finitePoint, Extended.le_finite_eq]
    exact (apply_ite Extended.finite _ _ _).symm

theorem value_finite (first : κ × κ) (rest : List (κ × κ)) (x : κ) :
    value ⟨(first :: rest).map finitePoint⟩ (.finite x) = .finite (value ⟨first :: rest⟩ x) := by
  have defined : Scalar.isUndefined (Extended.finite x) = false := by
    simp [Scalar.isUndefined]
  unfold value
  rw [defined, Scalar.isUndefined_eq]
  simp only [List.map_cons, lastPoint_finite, follow_finite, Bool.false_eq_true, if_false]
  simp only [finitePoint, Extended.le_finite_eq, apply_ite Extended.finite]

end Finite

def Spans {α : Type} [Scalar α] (left right x : α) : Prop :=
  (Scalar.le left x = true ∧ Scalar.le x right = true) ∨
    (Scalar.le right x = true ∧ Scalar.le x left = true)

/-- What is expected of the table of some points. Where several points stand at the right end, the last
one counts, there and beyond. -/
structure Interpolates {α : Type} [Scalar α] [DecidableEq α] (points : List (α × α))
    (table : LookupTable α) : Prop where
  stored : table.points.Perm points
  sorted : table.points.Pairwise fun p q => Scalar.le p.1 q.1 = true
  checked : ∀ x, table.value? x = some (table.value x)
  finite : ∀ x, Scalar.isUndefined x = false → Scalar.isFinite (table.value x) = true
  left : ∀ first, table.points.head? = some first → ∀ x, Scalar.le x first.1 = true →
    table.value x = first.2
  right : ∀ last, table.points.getLast? = some last → ∀ x, Scalar.lt last.1 x = true →
    table.value x = last.2
  ending : ∀ first last, table.points.head? = some first → table.points.getLast? = some last →
    Scalar.lt first.1 last.1 = true → table.value last.1 = last.2
  node : ∀ p ∈ table.points, (table.points.map Prod.fst).count p.1 = 1 → table.value p.1 = p.2
  bracketed : ∀ first last, table.points.head? = some first → table.points.getLast? = some last →
    ∀ x, Scalar.lt first.1 x = true → Scalar.lt x last.1 = true →
      (∃ p q, Brackets table.points x p q) ∧ ∀ p q, Brackets table.points x p q →
        Spans p.2 q.2 (table.value x) ∧
          table.value x = p.2 + (q.2 - p.2) * (x - p.1) / (q.1 - p.1)
  rising : (table.points.Pairwise fun p q => Scalar.le p.2 q.2 = true) →
    ∀ x x', Scalar.le x x' = true → Scalar.le (table.value x) (table.value x') = true

section Tables

variable {κ : Type} [ExactScalar κ] [LinearOrder κ] {first : κ × κ} {rest : List (κ × κ)}
variable {x x' : Extended κ}

theorem searchable_finite (sorted : (first :: rest).Pairwise fun p q => p.1 ≤ q.1)
    (defined : Scalar.isUndefined x = false) :
    Searchable ((first :: rest).map finitePoint) x where
  downward := List.pairwise_map.mpr (sorted.imp fun ordered => Extended.finite_le_of_le ordered)
  total := by
    intro P member beyond
    obtain ⟨p, -, rfl⟩ := List.mem_map.mp member
    cases x with
    | finite a =>
      have right : ¬a ≤ p.1 := fun left =>
        Bool.false_ne_true (beyond.symm.trans (Extended.le_finite.mpr left))
      exact Extended.le_finite.mpr (not_le.mp right).le
    | infinite negative =>
      cases negative with
      | true => cases beyond
      | false => rfl
    | undefined => cases defined
  apart := by
    intro P member Q member' zero
    obtain ⟨p, -, rfl⟩ := List.mem_map.mp member
    obtain ⟨q, -, rfl⟩ := List.mem_map.mp member'
    have nothing : (Scalar.zero : Extended κ) = .finite 0 :=
      congrArg Extended.finite ExactScalar.zero_eq
    have difference : (finitePoint q).1 - (finitePoint p).1 = .finite (q.1 - p.1) :=
      Extended.sub_finite q.1 p.1
    rw [nothing, difference, Extended.eq_finite, sub_eq_zero] at zero
    exact Extended.eq_finite.mpr zero

theorem spans_of_mem {a b y : κ} (inside : y ∈ Set.uIcc a b) :
    Spans (Extended.finite a) (.finite b) (.finite y) := by
  rcases Set.mem_uIcc.mp inside with ⟨lower, upper⟩ | ⟨lower, upper⟩
  · exact .inl ⟨Extended.le_finite.mpr lower, Extended.le_finite.mpr upper⟩
  · exact .inr ⟨Extended.le_finite.mpr lower, Extended.le_finite.mpr upper⟩

variable [OrderedScalar κ]

theorem exists_finite_value (first : κ × κ) (rest : List (κ × κ))
    (defined : Scalar.isUndefined x = false) :
    ∃ y, value ⟨(first :: rest).map finitePoint⟩ x = .finite y := by
  cases x with
  | finite a => exact ⟨_, value_finite first rest a⟩
  | infinite negative => exact ⟨_, value_infinite first rest negative⟩
  | undefined => cases defined

theorem value_left_finite (outside : Scalar.le x (.finite first.1) = true) :
    value ⟨(first :: rest).map finitePoint⟩ x = .finite first.2 := by
  cases x with
  | finite a => rw [value_finite, value_left (Extended.le_finite.mp outside)]
  | infinite negative =>
    rw [Extended.le_infinite_finite] at outside
    rw [value_infinite, if_pos outside]
  | undefined => cases outside

theorem value_right_finite (beyond : Scalar.lt (.finite (lastPoint first rest).1) x = true)
    (sorted : (first :: rest).Pairwise fun p q => p.1 ≤ q.1) :
    value ⟨(first :: rest).map finitePoint⟩ x = .finite (lastPoint first rest).2 := by
  cases x with
  | finite a =>
    have last_left := Extended.lt_finite.mp beyond
    have first_left := rel_lastPoint (fun p => le_refl p.1) sorted List.mem_cons_self
    rw [value_finite, value_right (first_left.trans_lt last_left) last_left.le]
  | infinite negative =>
    cases negative with
    | true => cases beyond
    | false => rw [value_infinite]; rfl
  | undefined => cases beyond

theorem value_rising (rising : (first :: rest).Pairwise fun p q => p.2 ≤ q.2)
    (ordered : Scalar.le x x' = true) :
    Scalar.le (value ⟨(first :: rest).map finitePoint⟩ x)
      (value ⟨(first :: rest).map finitePoint⟩ x') = true := by
  have whole : first.2 ≤ (lastPoint first rest).2 :=
    rel_lastPoint (fun p => le_refl p.2) rising List.mem_cons_self
  cases x with
  | undefined => cases x' <;> cases ordered
  | finite a =>
    cases x' with
    | undefined => cases ordered
    | finite b =>
      rw [value_finite, value_finite, Extended.le_finite]
      exact value_mono rising (Extended.le_finite.mp ordered)
    | infinite negative =>
      rw [Extended.le_finite_infinite] at ordered
      subst ordered
      rw [value_finite, value_infinite, Extended.le_finite]
      exact (value_mem rising).2
  | infinite negative =>
    cases x' with
    | undefined => cases ordered
    | finite b =>
      rw [Extended.le_infinite_finite] at ordered
      subst ordered
      rw [value_finite, value_infinite, Extended.le_finite]
      exact (value_mem rising).1
    | infinite negative' =>
      rw [value_infinite, value_infinite, Extended.le_finite]
      cases negative <;> cases negative' <;> first | exact le_refl _ | exact whole | cases ordered

theorem brackets_finite {points : List (κ × κ)} {a : κ} {P Q : Extended κ × Extended κ} :
    Brackets (points.map finitePoint) (.finite a) P Q ↔
      ∃ p q, finitePoint p = P ∧ finitePoint q = Q ∧ Brackets points a p q := by
  constructor
  · rintro ⟨⟨i, here, there⟩, left, right⟩
    rw [List.getElem?_map, Option.map_eq_some_iff] at here there
    obtain ⟨p, here, rfl⟩ := here
    obtain ⟨q, there, rfl⟩ := there
    exact ⟨p, q, rfl, rfl, ⟨i, here, there⟩,
      (OrderedScalar.le_iff _ _).mpr (Extended.le_finite.mp left),
      (OrderedScalar.lt_iff _ _).mpr (Extended.lt_finite.mp right)⟩
  · rintro ⟨p, q, rfl, rfl, ⟨i, here, there⟩, left, right⟩
    refine ⟨⟨i, ?_, ?_⟩, Extended.le_finite.mpr ((OrderedScalar.le_iff _ _).mp left),
      Extended.lt_finite.mpr ((OrderedScalar.lt_iff _ _).mp right)⟩
    · rw [List.getElem?_map, here]
      rfl
    · rw [List.getElem?_map, there]
      rfl

theorem value_bracketed (sorted : (first :: rest).Pairwise fun p q => p.1 ≤ q.1)
    (inside : Scalar.lt (.finite first.1) x = true)
    (before : Scalar.lt x (.finite (lastPoint first rest).1) = true) :
    (∃ P Q, Brackets ((first :: rest).map finitePoint) x P Q) ∧
      ∀ P Q, Brackets ((first :: rest).map finitePoint) x P Q →
        Spans P.2 Q.2 (value ⟨(first :: rest).map finitePoint⟩ x) ∧
          value ⟨(first :: rest).map finitePoint⟩ x =
            P.2 + (Q.2 - P.2) * (x - P.1) / (Q.1 - P.1) := by
  cases x with
  | undefined => cases inside
  | infinite negative =>
    cases negative with
    | true => cases inside
    | false => cases before
  | finite a =>
    rw [Extended.lt_finite] at inside before
    constructor
    · obtain ⟨p, q, brackets⟩ := exists_brackets inside.le before
      exact ⟨_, _, brackets_finite.mpr ⟨p, q, rfl, rfl, brackets⟩⟩
    · intro P Q brackets
      obtain ⟨p, q, rfl, rfl, around⟩ := brackets_finite.mp brackets
      have left := (OrderedScalar.le_iff _ _).mp around.left
      have right := (OrderedScalar.lt_iff _ _).mp around.right
      have width : q.1 - p.1 ≠ 0 := (sub_pos.mpr (left.trans_lt right)).ne'
      rw [value_finite, value_brackets sorted inside around]
      refine ⟨spans_of_mem (between_mem left right), ?_⟩
      rw [between_eq (left.trans_lt right)]
      simp only [finitePoint, Extended.sub_finite, Extended.mul_finite, Extended.add_finite,
        Extended.div_finite width]

/-- Accepted tables interpolate their points, for infinite numbers as well as for finite ones. -/
theorem interpolates {points : List (Extended κ × Extended κ)} {table : LookupTable (Extended κ)}
    (accepted : ofPoints points = .ok table) : table.Interpolates points := by
  obtain ⟨first, rest, form, perm, sorted⟩ := ofPoints_finite accepted
  obtain ⟨stored⟩ := table
  obtain rfl : stored = (first :: rest).map finitePoint := form
  have last_eq : ((first :: rest).map finitePoint).getLast? =
      some (finitePoint (lastPoint first rest)) := by
    rw [List.getLast?_map, getLast?_eq]
    rfl
  exact {
    stored := perm
    sorted := List.pairwise_map.mpr (sorted.imp Extended.le_finite.mpr)
    checked := fun x => value?_eq (List.cons_ne_nil _ _) (searchable_finite sorted)
    finite := by
      intro x defined
      obtain ⟨y, found⟩ := exists_finite_value first rest defined
      rw [found]
      rfl
    left := by
      rintro _ ⟨⟩ x outside
      exact value_left_finite outside
    right := by
      intro last there x beyond
      rw [last_eq] at there
      cases there
      exact value_right_finite beyond sorted
    ending := by
      rintro _ last ⟨⟩ there apart
      rw [last_eq] at there
      cases there
      rw [finitePoint, value_finite, value_right (Extended.lt_finite.mp apart) (le_refl _)]
    node := by
      intro P member once
      obtain ⟨p, there, rfl⟩ := List.mem_map.mp member
      rw [finitePoint, value_finite]
      refine congrArg Extended.finite (value_node sorted there fun q there' same => ?_)
      have twin := eq_of_count_map once (List.mem_map_of_mem there') member
        (congrArg Extended.finite same)
      exact Extended.finite.inj (congrArg Prod.snd twin)
    bracketed := by
      rintro _ last ⟨⟩ there x inside before
      rw [last_eq] at there
      cases there
      exact value_bracketed sorted inside before
    rising := by
      intro ascending x x' ordered
      refine value_rising ((List.pairwise_map.mp ascending).imp ?_) ordered
      exact Extended.le_finite.mp }

/-- Two points at one place, which is neither end. -/
theorem interpolates_upright :
    let points : List (Extended Rat × Extended Rat) :=
      [finitePoint (1, 5), finitePoint (2, 2), finitePoint (0, 0), finitePoint (1, 7)]
    let table : LookupTable (Extended Rat) :=
      ⟨[finitePoint (0, 0), finitePoint (1, 5), finitePoint (1, 7), finitePoint (2, 2)]⟩
    ofPoints points = .ok table ∧ table.Interpolates points := by
  intro points table
  have ascending : points.mergeSort (fun p q => Scalar.totalLe p.1 q.1) = table.points := by
    simp [points, table, finitePoint, List.mergeSort, List.MergeSort.Internal.splitInTwo,
      Extended.totalLe_finite]
  have accepted : ofPoints points = .ok table :=
    congrArg (fun stored => Except.ok (LookupTable.mk stored)) ascending
  exact ⟨accepted, interpolates accepted⟩

end Tables

end MeshLang.LookupTable
