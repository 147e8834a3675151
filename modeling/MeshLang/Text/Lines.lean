import MeshLang.Text.Bytes

namespace MeshLang.Text

/-- A place in a text as hosts show it, both counted from zero and the column in bytes. Every line
feed ends a line. -/
structure LineColumn where
  line : Nat
  column : Nat
deriving DecidableEq, Repr

/-- Byte positions at which the lines of `text` start, when `text` itself starts at `offset`; the
first line is not among them. -/
def laterLineStarts (offset : Nat) : List Char → List Nat
  | [] => []
  | c :: rest =>
    if c = '\n' then (offset + 1) :: laterLineStarts (offset + 1) rest
    else laterLineStarts (offset + c.utf8Size) rest

structure LineIndex where
  starts : List Nat
deriving DecidableEq, Repr

def LineIndex.ofText (text : String) : LineIndex := ⟨0 :: laterLineStarts 0 text.toList⟩

/-- A position lies in the last line that starts at or before it. -/
def LineIndex.lineColumn (index : LineIndex) (offset : Nat) : LineColumn :=
  let before := index.starts.takeWhile (· ≤ offset)
  ⟨before.length - 1, offset - before.getLastD 0⟩

def LineIndex.lineCount (index : LineIndex) : Nat := index.starts.length

inductive Slot where
  | hit (index : Nat)
  | gap (index : Nat)
deriving DecidableEq, Repr

def Slot.last? : Slot → Option Nat
  | .hit index => some index
  | .gap index => if index = 0 then none else some (index - 1)

/-- The slot of a number, which is found by halving `size` numbers from `base` on; none if a number is
read that is not there. -/
def slotFrom? (numbers : List UInt32) (n : UInt32) (base size : Nat) : Option Slot :=
  if size ≤ 1 then
    numbers[base]?.map fun last =>
      if last = n then .hit base else if last < n then .gap (base + 1) else .gap base
  else
    match numbers[base + size / 2]? with
    | none => none
    | some middle =>
      if n < middle then slotFrom? numbers n base (size - size / 2)
      else slotFrom? numbers n (base + size / 2) (size - size / 2)
termination_by size
decreasing_by all_goals omega

def slot? (numbers : List UInt32) (n : UInt32) : Option Slot :=
  if numbers.isEmpty then some (.gap 0) else slotFrom? numbers n 0 numbers.length

def LineIndex.words (index : LineIndex) : List UInt32 := index.starts.map UInt32.ofNat

/-- The line and the column of a position, or none if a start is read that is not there or a difference
would be less than zero. -/
def LineIndex.lineColumn? (index : LineIndex) (offset : UInt32) : Option LineColumn := do
  let line ← (← slot? index.words offset).last?
  let start ← index.words[line]?
  if offset < start then none else some ⟨line, (offset - start).toNat⟩

end MeshLang.Text
