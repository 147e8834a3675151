import MeshLang.Scalar

namespace MeshLang

/-- A generator with a seed, and the draws from it so far, the last one first: whether zero was left
out. -/
structure Generator where
  seed : UInt64
  draws : List Bool
deriving DecidableEq, Repr

namespace Generator

def ofSeed (seed : UInt64) : Generator := ⟨seed, []⟩

variable {α : Type} [Scalar α]

def draw (positive : Bool) (generator : Generator) : α × Generator :=
  (Scalar.drawn generator.seed generator.draws positive,
    ⟨generator.seed, positive :: generator.draws⟩)

def normal (generator : Generator) : α × Generator :=
  let (first, generator) := generator.draw true
  let (second, generator) := generator.draw false
  let radius : α := Scalar.sqrt (-Scalar.ofNat 2 * Scalar.elementary .log first)
  let angle : α := Scalar.ofNat 2 * Scalar.pi * second
  (radius * Scalar.elementary .cos angle, generator)

def sample (isNormal : Bool) : Nat → Generator → List α × Generator
  | 0, generator => ([], generator)
  | count + 1, generator =>
    let (x, generator) := if isNormal then generator.normal else generator.draw false
    let (rest, generator) := sample isNormal count generator
    (x :: rest, generator)

theorem sample_length (isNormal : Bool) (count : Nat) (generator : Generator) :
    (sample (α := α) isNormal count generator).1.length = count := by
  induction count generalizing generator with
  | zero => rfl
  | succ count ih => exact congrArg (· + 1) (ih _)

end Generator

end MeshLang
