import MeshLang.Error

namespace MeshLang

/-- Points with ascending first coordinates. -/
structure LookupTable (α : Type) where
  points : List (α × α)
deriving DecidableEq, Repr

namespace LookupTable

variable {α : Type} [Scalar α]

def ofPoints (points : List (α × α)) : Except RepositoryError (LookupTable α) :=
  if points.isEmpty then .error .emptyTable
  else if points.any fun (x, y) => !Scalar.isFinite x || !Scalar.isFinite y then
    .error .nonFiniteTable
  else .ok ⟨points.mergeSort fun p q => Scalar.totalLe p.1 q.1⟩

/-- The value on the line between two points; on an upright line the upper end counts. -/
def between (p q : α × α) (x : α) : α :=
  if Scalar.eq q.1 p.1 then q.2 else p.2 + (q.2 - p.2) * (x - p.1) / (q.1 - p.1)

/-- The value right of a point `p`, whose first coordinate is at most `x`: on the line to the first
of the following points that is right of `x`. -/
def follow (p : α × α) (x : α) : List (α × α) → α
  | [] => p.2
  | q :: rest => if Scalar.le q.1 x then follow q x rest else between p q x

def lastPoint (p : α × α) : List (α × α) → α × α
  | [] => p
  | q :: rest => lastPoint q rest

def value (table : LookupTable α) (x : α) : α :=
  if Scalar.isUndefined x then Scalar.nan
  else
    match table.points with
    | [] => Scalar.nan
    | first :: rest =>
      let last := lastPoint first rest
      if Scalar.le x first.1 then first.2
      else if Scalar.le last.1 x then last.2
      else follow first x rest

def countUpTo? (points : List (α × α)) (x : α) (low high : Nat) : Option Nat :=
  if low < high then
    let middle := (low + high) / 2
    match points[middle]? with
    | none => none
    | some p =>
      if Scalar.le p.1 x then countUpTo? points x (middle + 1) high
      else countUpTo? points x low middle
  else some low
termination_by high - low
decreasing_by all_goals omega

def chord? (points : List (α × α)) (x : α) (upper : Nat) : Option α :=
  if upper = 0 then none
  else do
    let p ← points[upper - 1]?
    let q ← points[upper]?
    if Scalar.eq q.1 p.1 then return q.2
    if Scalar.eq (q.1 - p.1) Scalar.zero then none
    else return p.2 + (q.2 - p.2) * (x - p.1) / (q.1 - p.1)

/-- The value, or none if a point is read that is not there or zero is divided by. -/
def value? (table : LookupTable α) (x : α) : Option α :=
  if Scalar.isUndefined x then some Scalar.nan
  else do
    let first ← table.points[0]?
    let last ← table.points[table.points.length - 1]?
    if Scalar.le x first.1 then return first.2
    if Scalar.le last.1 x then return last.2
    chord? table.points x (← countUpTo? table.points x 0 table.points.length)

end LookupTable

end MeshLang
