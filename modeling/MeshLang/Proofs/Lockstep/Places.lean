import MeshLang.Plugin
import MeshLang.Proofs.Token.Advance

namespace MeshLang

variable {α : Type}

def Cursor.Calls (cursor : Cursor) (name : String) : Prop :=
  cursor.current.kind = .word ∧ cursor.current.word = name ∧
    cursor.advance.current.kind = .openParen

/-- What reading has got to: a place, or a step of a plugin in the text behind its name. -/
inductive Stage (α : Type) where
  | place (cursor : Cursor)
  | script (behind : Cursor) (script : Script α (Except (PluginError α) (Value α × Nat)))

namespace Registry

/-- How reading gets on from a place. A plugin may be told of any failure and of any value, but not
of any end: an expression ends at a place of its own text that reading gets to from its start. -/
inductive Leads (registry : Registry α) : Cursor → Stage α → Prop where
  | here {start : Cursor} : Leads registry start (.place start)
  | advance {start cursor : Cursor} :
      Leads registry start (.place cursor) → Leads registry start (.place cursor.advance)
  | called {start cursor : Cursor} {name : String} {plugin : Plugin α} :
      Leads registry start (.place cursor) → cursor.Calls name →
      registry.get? name = some plugin →
      Leads registry start (.script cursor.advance (plugin.call cursor.advance.rest))
  | asked {start behind : Cursor} {offset : Nat} {expected : Option ValueType}
      {next : Except (EvalError α) (Value α × Nat) → Script α (Except (PluginError α) (Value α × Nat))} :
      Leads registry start (.script behind (.argument offset expected next)) →
      Leads registry start (.place (.within behind.place behind.rest offset))
  | refused {start behind : Cursor} {offset : Nat} {expected : Option ValueType}
      {next : Except (EvalError α) (Value α × Nat) → Script α (Except (PluginError α) (Value α × Nat))}
      {error : EvalError α} :
      Leads registry start (.script behind (.argument offset expected next)) →
      Leads registry start (.script behind (next (.error error)))
  | answered {start behind cursor : Cursor} {offset : Nat} {expected : Option ValueType}
      {next : Except (EvalError α) (Value α × Nat) → Script α (Except (PluginError α) (Value α × Nat))}
      {value : Value α} :
      Leads registry start (.script behind (.argument offset expected next)) →
      Leads registry (.within behind.place behind.rest offset) (.place cursor) →
      cursor.base = behind.place →
      Leads registry start (.script behind (next (.ok (value, cursor.offset))))
  | resumed {start behind : Cursor} {value : Value α} {consumed : Nat} {rest : List Char} :
      Leads registry start (.script behind (.done (.ok (value, consumed)))) →
      Text.dropBytes? consumed behind.rest = some rest →
      Leads registry start (.place ⟨rest, behind.base, behind.offset + consumed⟩)

def Reaches (registry : Registry α) (start cursor : Cursor) : Prop :=
  registry.Leads start (.place cursor)

def Calls (registry : Registry α) (start : Cursor) (name : String) : Prop :=
  ∃ cursor, registry.Reaches start cursor ∧ cursor.Calls name

def Omits (registry : Registry α) (start : Cursor) (names : List String) : Prop :=
  ∀ name ∈ names, ¬ registry.Calls start name

variable {registry : Registry α} {start cursor : Cursor}

theorem Leads.trans {stage : Stage α} (onward : registry.Leads cursor stage)
    (before : registry.Reaches start cursor) : registry.Leads start stage := by
  induction onward with
  | here => exact before
  | advance _ ih => exact (ih before).advance
  | called _ calls found ih => exact (ih before).called calls found
  | asked _ ih => exact (ih before).asked
  | refused _ ih => exact (ih before).refused
  | answered _ ends inside ih _ => exact (ih before).answered ends inside
  | resumed _ rest ih => exact (ih before).resumed rest

namespace Reaches

theorem refl : registry.Reaches cursor cursor := .here

theorem trans {final : Cursor} (before : registry.Reaches start cursor)
    (onward : registry.Reaches cursor final) : registry.Reaches start final :=
  Leads.trans onward before

theorem advance (before : registry.Reaches start cursor) : registry.Reaches start cursor.advance :=
  Leads.advance before

theorem step : registry.Reaches cursor cursor.advance := refl.advance

end Reaches

end Registry

section Occurrences

theorem Cursor.advance_suffix (cursor : Cursor) : cursor.advance.rest <:+ cursor.rest := by
  obtain ⟨taken, split, -⟩ := cursor.advance_precedes
  exact ⟨taken, split.symm⟩

theorem Cursor.current_infix (cursor : Cursor) : cursor.current.text <:+: cursor.rest := by
  rcases cursor.read_cases with ⟨-, current, -⟩ | ⟨-, finds⟩
  · rw [current]
    exact List.nil_infix
  · obtain ⟨before, split, -⟩ := finds.split
    exact ⟨before, cursor.advance.rest, by rw [split, List.append_assoc]⟩

theorem Text.suffix_of_dropBytes? {n : Nat} {text rest : List Char}
    (cut : dropBytes? n text = some rest) : rest <:+ text := by
  obtain ⟨taken, split, -⟩ := append_of_dropBytes? cut
  exact ⟨taken, split.symm⟩

theorem Cursor.within_suffix (base : Nat) (text : List Char) (start : Nat) :
    (within base text start).rest <:+ text := by
  unfold within
  split
  · rename_i rest cut
    exact Text.suffix_of_dropBytes? cut
  · exact List.nil_suffix

def Stage.rest : Stage α → List Char
  | .place cursor => cursor.rest
  | .script behind _ => behind.rest

variable {registry : Registry α} {start : Cursor}

theorem Registry.Leads.suffix {stage : Stage α} (leads : registry.Leads start stage) :
    stage.rest <:+ start.rest := by
  induction leads with
  | here => exact List.suffix_rfl
  | advance _ ih => exact (Cursor.advance_suffix _).trans ih
  | called _ _ _ ih => exact (Cursor.advance_suffix _).trans ih
  | asked _ ih => exact (Cursor.within_suffix _ _ _).trans ih
  | refused _ ih => exact ih
  | answered _ _ _ ih _ => exact ih
  | resumed _ cut ih => exact (Text.suffix_of_dropBytes? cut).trans ih

theorem Registry.Calls.occurs {name : String} (calls : registry.Calls start name) :
    name.toList <:+: start.rest := by
  obtain ⟨cursor, reached, -, rfl, -⟩ := calls
  have here : cursor.current.word.toList = cursor.current.text := String.toList_ofList
  rw [here]
  exact cursor.current_infix.trans reached.suffix.isInfix

theorem Registry.Omits.of_absent {names : List String}
    (absent : ∀ name ∈ names, ¬ name.toList <:+: start.rest) : registry.Omits start names :=
  fun name listed calls => absent name listed calls.occurs

end Occurrences

end MeshLang
