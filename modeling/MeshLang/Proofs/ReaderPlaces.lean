import MeshLang.Proofs.Reader.Elements

namespace MeshLang

variable {α : Type}

namespace Reader

section Element

variable [Scalar α]

/-- What a call reads, with what follows it, and the answer that it gives for it. -/
inductive Element (session : Session α) : Call → List Char → List Char → Answer α → Prop where
  | openList {token element rest : List Char} (shows : Shows .openParen token element rest) :
      Element session .openList element rest .done
  | separator {token element rest : List Char} (shows : Shows .comma token element rest) :
      Element session .separator element rest .done
  | closeList {token element rest : List Char} (shows : Shows .closeParen token element rest) :
      Element session .closeList element rest .done
  | word {blanks letters rest : List Char} {c : Char} (blank : ∀ b ∈ blanks, Text.isBlank b = true)
      (starts : (Text.startsIdentifier c || c == '_') = true)
      (continues : ∀ d ∈ letters, Text.continuesIdentifier d = true)
      (ends : ∀ d ∈ rest.head?, Text.continuesIdentifier d = false) :
      Element session .word (blanks ++ c :: letters) rest (.word (String.ofList (c :: letters)))
  | scalar {negative : Bool} {token : Token} {element rest : List Char} {size : α}
      (signed : Signed negative token element rest) (number : token.number? = some size) :
      Element session .scalar element rest (.scalar (if negative then -size else size))
  | integer {negative : Bool} {token : Token} {element rest : List Char}
      (signed : Signed negative token element rest) (digits : token.kind = .integer) :
      Element session .integer element rest
        (.integer (if negative then -(Decimal.natural 0 token.text) else Decimal.natural 0 token.text))
  | expression {expected : Option ValueType} {element rest : List Char} {v : Value α}
      (alone : (session.argument element 0 expected).2 = .ok (v, Text.byteSize element)) :
      Element session (.expression expected) element rest (.value v)

end Element

def ReadsElement [Scalar α] (session : Session α) (call : Call) (args behind : Arguments)
    (answer : Answer α) : Prop :=
  ∃ element, args.rest = element ++ behind.rest ∧
    behind.offset = args.offset + Text.byteSize element ∧ element ≠ [] ∧
    Element session call element behind.rest answer

section Calls

variable [Scalar α] {session : Session α} {args behind : Arguments} {answer : Answer α}

theorem sign_reads {kind : TokenKind} {call : Call} {found : Unit × Arguments}
    (sign : ∀ {token element rest : List Char}, Shows kind token element rest →
      Element session call element rest .done)
    (read : (args.sign kind : Except (PluginError α) _) = .ok found) :
    ReadsElement session call args found.2 .done := by
  unfold Arguments.sign at read
  split at read
  · rename_i token behind ahead
    split at read <;> cases read
    rename_i same
    obtain ⟨element, split, -, size, filled, shows⟩ := Shows.of_next? ahead
    exact ⟨element, split, size, filled, sign (same ▸ shows)⟩
  · cases read

theorem word_reads {found : String × Arguments}
    (read : (args.word : Except (PluginError α) _) = .ok found) :
    ReadsElement session .word args found.2 (.word found.1) := by
  have whole : args.rest.takeWhile Text.isBlank ++ args.rest.dropWhile Text.isBlank = args.rest :=
    List.takeWhile_append_dropWhile
  cases dropped : args.rest.dropWhile Text.isBlank with
  | nil =>
    rw [Arguments.word_nil dropped] at read
    cases read
  | cons c further =>
    rw [Arguments.word_cons dropped] at read
    split at read <;> cases read
    rename_i starts
    rw [dropped] at whole
    have letters : further.takeWhile Text.continuesIdentifier ++
        further.dropWhile Text.continuesIdentifier = further := List.takeWhile_append_dropWhile
    refine ⟨args.rest.takeWhile Text.isBlank ++ c :: further.takeWhile Text.continuesIdentifier, ?_, ?_,
      by simp, .word (fun b member => List.mem_takeWhile_imp member) starts
        (fun d member => List.mem_takeWhile_imp member) fun d first => ?_⟩
    · rw [List.append_assoc, List.cons_append, letters, whole]
    · rw [Text.byteSize_append, ← Nat.add_assoc]
    · cases ended : further.dropWhile Text.continuesIdentifier with
      | nil => rw [ended] at first; cases first
      | cons d' more =>
        have stops := List.head_dropWhile_not Text.continuesIdentifier (l := further) (by simp [ended])
        rw [ended] at first
        cases first
        simpa [ended] using stops

theorem scalar_reads {found : α × Arguments}
    (read : (args.scalar : Except (PluginError α) _) = .ok found) :
    ReadsElement session .scalar args found.2 (.scalar found.1) := by
  unfold Arguments.scalar at read
  split at read
  · cases read
  · rename_i negative token behind ahead
    obtain ⟨element, split, -, size, filled, signed⟩ := Signed.of_signed? ahead
    cases number : (token.number? : Option α) with
    | none =>
      rw [number] at read
      cases read
    | some x =>
      rw [number] at read
      cases read
      exact ⟨element, split, size, filled, .scalar signed number⟩

theorem integer_reads {found : Int × Arguments}
    (read : (args.integer : Except (PluginError α) _) = .ok found) :
    ReadsElement session .integer args found.2 (.integer found.1) := by
  unfold Arguments.integer at read
  split at read
  · cases read
  · rename_i negative token behind ahead
    obtain ⟨element, split, -, size, filled, signed⟩ := Signed.of_signed? ahead
    split at read
    · rename_i digits
      dsimp only at read
      split at read <;> cases read
      exact ⟨element, split, size, filled, .integer signed digits⟩
    · cases read

theorem expression_reads {taken rest : List Char} {expected : Option ValueType} {found : Value α × Arguments}
    (library : ∀ name plugin, session.registry.get? name = some plugin → plugin.IsLibrary)
    (read : (session.readExpression (taken ++ rest) (Reader.args taken rest) expected).2 = .ok found) :
    ReadsElement session (.expression expected) (Reader.args taken rest) found.2 (.value found.1) := by
  let base := session.origins.headD 0
  change (Reader.args taken rest).afterExpression
    (session.argument (taken ++ rest) (Text.byteSize taken) expected).2 = .ok found at read
  cases told : (session.argument (taken ++ rest) (Text.byteSize taken) expected).2 with
  | error error =>
    rw [told] at read
    cases read
  | ok answer =>
    obtain ⟨v, stop⟩ := answer
    obtain ⟨u, after, ran, formed, rfl⟩ := Session.argument_ok_iff.mp told
    obtain ⟨element, alone, split, -, size, done, ended, -⟩ := Session.expression_alone library ran
    have forwards := Motion.evaluate_forwards session.environment (rest.length + 1) 0
      (session.stateAt ⟨rest, base, Text.byteSize taken⟩)
    have further : Text.byteSize taken < after.cursor.offset := forwards.further u after ran
    have moved := Session.expression_moved library element base 0 session.origins
    rw [done] at moved
    have byItself : (session.argument ([] ++ element) (Text.byteSize []) expected).2 =
        .ok (v, Text.byteSize element) := by
      refine Session.argument_ok_iff.mpr ⟨u, _, moved.answered, formed, ?_⟩
      change _ = alone.cursor.offset + 0
      rw [ended]
      rfl
    have behind : Text.dropBytes? (after.cursor.offset - Text.byteSize taken)
        (element ++ after.cursor.rest) = some after.cursor.rest := by
      rw [size, Nat.add_sub_cancel_left]
      exact Text.dropBytes?_byteSize_append _ _
    rw [told] at read
    cases read
    refine ⟨element, ?_, size, ?_, .expression byItself⟩
    · change rest = element ++ (Text.dropBytes? (after.cursor.offset - Text.byteSize taken) rest).getD []
      rw [split, behind]
      rfl
    · rintro rfl
      rw [Text.byteSize_nil] at size
      omega

theorem Call.read_reads {taken rest : List Char} {call : Call}
    (library : ∀ name plugin, session.registry.get? name = some plugin → plugin.IsLibrary)
    (reads : call ≠ .atClose)
    (read : (call.read session (taken ++ rest) (Reader.args taken rest)).2 = .ok (answer, behind)) :
    ReadsElement session call (Reader.args taken rest) behind answer := by
  cases call with
  | openList =>
    simp only [Call.read] at read
    obtain ⟨found, done, rfl⟩ := answered_ok.mp read
    exact sign_reads .openList done
  | separator =>
    simp only [Call.read] at read
    obtain ⟨found, done, rfl⟩ := answered_ok.mp read
    exact sign_reads .separator done
  | closeList =>
    simp only [Call.read] at read
    obtain ⟨found, done, rfl⟩ := answered_ok.mp read
    exact sign_reads .closeList done
  | atClose => exact absurd rfl reads
  | word =>
    simp only [Call.read] at read
    obtain ⟨name, done, rfl⟩ := answered_ok.mp read
    exact word_reads done
  | scalar =>
    simp only [Call.read] at read
    obtain ⟨x, done, rfl⟩ := answered_ok.mp read
    exact scalar_reads done
  | integer =>
    simp only [Call.read] at read
    obtain ⟨n, done, rfl⟩ := answered_ok.mp read
    exact integer_reads done
  | expression expected =>
    simp only [Call.read] at read
    obtain ⟨v, done, rfl⟩ := answered_ok.mp read
    exact expression_reads library done

end Calls

section Places

variable [Scalar α] {reader after : Reader α} {taken rest : List Char} {call : Call}
  {answer : Except (PluginError α) (Answer α)}

structure Follows (reader after : Reader α) : Prop where
  text : after.text = reader.text
  registry : after.session.registry = reader.session.registry
  stands : ∃ taken rest, after.Stands taken rest

end Places

end Reader

end MeshLang
