import MeshLang.Proofs.Grammar.Calls
import MeshLang.Proofs.Repository.Built
import MeshLang.Scalar.Double
import MeshLang.Session

namespace MeshLang

variable {α : Type} [Scalar α]

mutual

theorem Tree.parses (env : Environment α) : ∀ tree : Tree, tree.Parses env
  | .literal n => by
    unfold Tree.Parses
    simp only [print, eval]
    exact .literal n
  | .constant c => by
    unfold Tree.Parses
    simp only [print, eval]
    exact .constant c
  | .name w => by
    unfold Tree.Parses
    simp only [print, eval]
    exact .name w
  | .sign op operand => by
    have inner := (operand.parses env).enclosed 7
    unfold Tree.Parses
    simp only [print, eval]
    exact inner.sign
  | .binary op left right => by
    have first := (left.parses env).enclosed op.rank
    have second := (right.parses env).enclosed (op.rank + 1)
    unfold Tree.Parses
    simp only [print, eval]
    exact first.binary second
  | .choice condition first second => by
    have decided := (condition.parses env).enclosed 1
    have one := (first.parses env).enclosed 0
    have other := (second.parses env).enclosed 0
    unfold Tree.Parses
    simp only [print, eval]
    exact decided.choice one other
  | .component operand suffix => by
    have inner := (operand.parses env).enclosed 8
    unfold Tree.Parses
    simp only [print, eval]
    exact inner.component
  | .tensorPart operand function => by
    have inner := (operand.parses env).enclosed 8
    unfold Tree.Parses
    simp only [print, eval]
    exact inner.tensorPart
  | .call function args => by
    have each := Tree.all_parse env args
    unfold Tree.Parses
    simp only [print, eval]
    exact .call each
  | .callNamed function argument => by
    unfold Tree.Parses
    simp only [print, eval]
    exact .callNamed
  | .callOld mesh field => by
    unfold Tree.Parses
    simp only [print, eval]
    exact .callOld
  | .callSeeded function seed => by
    unfold Tree.Parses
    simp only [print, eval]
    exact .callSeeded

theorem Tree.all_parse (env : Environment α) : ∀ trees : List Tree, ∀ t ∈ trees, t.Parses env
  | [] => by simp
  | tree :: trees => by
    have here := tree.parses env
    have behind := Tree.all_parse env trees
    intro t member
    rcases List.mem_cons.mp member with rfl | later
    · exact here
    · exact behind t later

end

theorem Tree.expression_follows {env : Environment α} {tree : Tree} {state : State} {v : Value α}
    {g : Generator} (means : tree.eval env state.generator = some (v, g))
    (written : state.cursor.rest = spell tree.print) :
    ∃ after, Run.expression env state = .ok v after ∧ Follows state after [] g := by
  have spells : state.cursor.Spells (tree.print ++ []) := by
    rw [List.append_nil]
    exact .inl written
  have ends : ∀ least, (nextKind []).Halts least v.kind := fun least =>
    .ofClosing (.inr (.inr (.inr rfl))) least v.kind
  obtain ⟨after, done, follows⟩ := (tree.parses env).value means (Nat.zero_le _) (ends _)
    (ends 0).self spells rfl (Nat.le_refl _)
  refine ⟨after, ?_, follows⟩
  unfold Run.expression
  exact (Run.bind_ok rfl).trans done

theorem Session.evaluate_print {session : Session α} {tree : Tree} {v : Value α} {g : Generator}
    (means : tree.eval session.environment session.generator = some (v, g)) :
    (session.evaluate (spell tree.print)).2 =
      .ok (v.broadcastTo session.options.defaultLocation
        (session.repository.mesh.size session.options.defaultLocation)) := by
  let fresh : Session α := { session with result := none, origins := [] }
  have same : tree.eval fresh.environment (fresh.stateAt (.ofText (spell tree.print))).generator =
      some (v, g) := means
  obtain ⟨after, done, follows⟩ := Tree.expression_follows same rfl
  have finished : (Run.finish v : Run α Unit) after = .ok () after := by
    unfold Run.finish
    rw [Run.bind_ok (Run.current_eq after), follows.spells.current_nil]
    rfl
  have run : (do
      let v ← Run.expression fresh.environment
      Run.finish v
      return v : Run α (Value α)) (fresh.stateAt (.ofText (spell tree.print))) = .ok v after := by
    rw [Run.bind_ok done, Run.bind_ok finished]
    rfl
  unfold evaluate accept
  simp only [if_true]
  rw [run]
  rfl

/-- A text that a tree was printed to is read to its end, and its value is that of the tree. -/
theorem Tree.expression_print (env : Environment α) (tree : Tree) {state : State} {v : Value α}
    {g : Generator} (means : tree.eval env state.generator = some (v, g))
    (written : state.cursor.rest = spell tree.print) :
    ∃ after, Run.expression env state = .ok v after ∧ after.cursor.rest = [] ∧
      after.cursor.place = state.cursor.finish ∧ after.generator = g := by
  obtain ⟨after, done, follows⟩ := Tree.expression_follows means written
  refine ⟨after, done, follows.spells.nil, ?_, follows.generator⟩
  rw [← follows.finish, Cursor.finish, follows.spells.nil]
  rfl

def Tree.conjunctions : Tree :=
  let identity : Tree := .name ⟨"unitTensor".toList, by decide +kernel⟩
  .binary .or
    (.binary .and (.constant .true) (.binary .less (.constant .pi) (.binary .doubleInner identity identity)))
    (.sign .not (.choice (.constant .true) (.constant .false) (.constant .true)))

theorem Tree.expression_print_conjunctions :
    let session : Session Float := .ofRepository (.ofMesh Mesh.tetrahedron)
    let state := session.stateAt
      (.ofText "true && pi < unitTensor && unitTensor || ! ( true ? false : true )".toList)
    ∃ v g after, conjunctions.eval session.environment state.generator = some (v, g) ∧
      Run.expression session.environment state = .ok v after ∧ after.cursor.rest = [] := by
  intro session state
  have defined : (conjunctions.eval session.environment state.generator).isSome = true := by
    decide +kernel
  obtain ⟨⟨v, g⟩, means⟩ := Option.isSome_iff_exists.mp defined
  have written : state.cursor.rest = spell conjunctions.print := by decide +kernel
  obtain ⟨after, done, finished, -⟩ :=
    Tree.expression_print session.environment conjunctions means written
  exact ⟨v, g, after, means, done, finished⟩

end MeshLang
