import MeshLang.Reader
import MeshLang.Proofs.Token.Advance

namespace MeshLang

namespace Cursor

theorem next?_precedes {cursor behind : Cursor} {token : Token}
    (found : cursor.next? = some (token, behind)) :
    cursor.Precedes behind ∧ behind.base = cursor.base ∧ behind.place = token.stop :=
  have finds := nextFrom_finds found
  ⟨finds.precedes, finds.base, finds.stop⟩

end Cursor

namespace Arguments

theorem signed?_precedes {args behind : Arguments} {negative : Bool} {token : Token}
    (found : args.signed? = some (negative, token, behind)) :
    args.Precedes behind ∧ behind.base = args.base ∧ behind.place = token.stop := by
  unfold signed? at found
  cases first : args.next? with
  | none => simp [first] at found
  | some answer =>
    obtain ⟨sign, rest⟩ := answer
    simp only [first] at found
    have ahead := Cursor.next?_precedes first
    split at found
    · obtain ⟨⟨number, after⟩, second, same⟩ := Option.map_eq_some_iff.mp found
      cases same
      have further := Cursor.next?_precedes second
      exact ⟨ahead.1.trans further.1, further.2.1.trans ahead.2.1, further.2.2⟩
    · cases found
      exact ahead

variable {α : Type} {args : Arguments}

theorem word_cons {c : Char} {further : List Char}
    (dropped : args.rest.dropWhile Text.isBlank = c :: further) :
    (args.word : Except (PluginError α) _) =
      if Text.startsIdentifier c || c == '_' then
        let name := c :: further.takeWhile Text.continuesIdentifier
        .ok (String.ofList name, ⟨further.dropWhile Text.continuesIdentifier, args.base,
          args.offset + Text.byteSize (args.rest.takeWhile Text.isBlank) + Text.byteSize name⟩)
      else .error (args.missing "name") := by
  unfold word
  dsimp only
  rw [dropped]

theorem word_nil (dropped : args.rest.dropWhile Text.isBlank = []) :
    (args.word : Except (PluginError α) _) = .error (args.missing "name") := by
  unfold word
  dsimp only
  rw [dropped]

end Arguments

namespace Reader

variable {α β γ : Type} {reader : Reader α} {taken rest : List Char}

theorem bind_ok {step : Step α β} {v : β} {after : Reader α} (done : step reader = .ok v after)
    (next : β → Step α γ) : (step >>= next) reader = next v after := by
  change EStateM.bind step next reader = _
  unfold EStateM.bind
  rw [done]

theorem bind_error {step : Step α β} {fault : Fault α} {after : Reader α}
    (fails : step reader = .error fault after) (next : β → Step α γ) :
    (step >>= next) reader = .error fault after := by
  change EStateM.bind step next reader = _
  unfold EStateM.bind
  rw [fails]

theorem negate_natural (reader : Reader α) {size : Nat} (fits : size < UInt64.size / 2) :
    negate (Int64.ofNat size) reader = .ok (-Int64.ofNat size) reader ∧
      (-Int64.ofNat size).toInt = -(size : Int) := by
  have value : (Int64.ofNat size).toInt = size := Int64.toInt_ofNat_of_lt fits
  have inside : Int64.ofNat size ≠ Int64.minValue := by
    rw [Ne, ← Int64.toInt_inj, value, Int64.toInt_minValue]
    omega
  refine ⟨?_, ?_⟩
  · unfold negate
    rw [if_neg inside]
    rfl
  · have bound : size < 2 ^ 63 := fits
    rw [Int64.toInt_neg, value, Int.bmod_eq_of_le (by omega) (by omega)]

/-- The reader is between two parts of its text. -/
structure Stands (reader : Reader α) (taken rest : List Char) : Prop where
  text : reader.text = taken ++ rest
  consumed : reader.consumed = Text.byteSize taken

def facing (session : Session α) (taken rest : List Char) : Reader α :=
  ⟨session, taken ++ rest, Text.byteSize taken⟩

theorem facing_stands (session : Session α) (taken rest : List Char) :
    (facing session taken rest).Stands taken rest := ⟨rfl, rfl⟩

def args (taken rest : List Char) : Arguments := ⟨rest, 0, Text.byteSize taken⟩

theorem args_stop {behind : Arguments} {token : Token}
    (ends : behind.base = (args taken rest).base ∧ behind.place = token.stop) : behind.offset = token.stop := by
  obtain ⟨own, stop⟩ := ends
  rw [← stop, Cursor.place, own]
  exact (Nat.zero_add _).symm

def ends (reader : Reader α) :
    Except (PluginError α) (β × Arguments) → EStateM.Result (Fault α) (Reader α) β
  | .ok (answer, behind) => .ok answer { reader with consumed := behind.offset }
  | .error error => .error (.failure error) reader

namespace Stands

variable (stands : reader.Stands taken rest)

include stands

theorem ahead : reader.ahead = args taken rest := by
  unfold Reader.ahead Cursor.within
  rw [stands.text, stands.consumed, Text.dropBytes?_byteSize_append]
  rfl

theorem remaining : Reader.remaining reader = .ok rest reader := by
  change Reader.cut reader.consumed reader = _
  unfold Reader.cut
  rw [bind_ok (rfl : (get : Step α (Reader α)) reader = .ok reader reader), stands.text,
    stands.consumed, Text.dropBytes?_byteSize_append]
  rfl

theorem behindBlanks : Reader.behindBlanks reader =
    .ok (Text.byteSize taken + Text.byteSize (rest.takeWhile Text.isBlank)) reader := by
  have split := congrArg Text.byteSize (List.takeWhile_append_dropWhile (p := Text.isBlank) (l := rest))
  rw [Text.byteSize_append] at split
  have size : Text.byteSize rest - Text.byteSize (Text.trimStart rest) =
      Text.byteSize (rest.takeWhile Text.isBlank) := by
    unfold Text.trimStart
    omega
  unfold Reader.behindBlanks
  rw [bind_ok stands.remaining, bind_ok (rfl : (get : Step α (Reader α)) reader = .ok reader reader),
    stands.consumed, size]
  rfl

theorem missing (what : String) : (Reader.missing what : Step α β) reader =
    .error (.failure ((args taken rest).missing what)) reader := by
  unfold Reader.missing
  rw [bind_ok stands.behindBlanks]
  rfl

theorem sign (kind : TokenKind) :
    Reader.sign kind reader = reader.ends ((args taken rest).sign kind) := by
  unfold Reader.sign
  rw [bind_ok (rfl : (get : Step α (Reader α)) reader = .ok reader reader), stands.ahead]
  unfold Arguments.sign
  cases found : (args taken rest).next? with
  | none => exact stands.missing _
  | some answer =>
    obtain ⟨token, behind⟩ := answer
    have stop := args_stop (Cursor.next?_precedes found).2
    dsimp only
    split
    · rw [ends, stop]
      rfl
    · exact stands.missing _

theorem atClose : Reader.atClose reader = .ok (args taken rest).atClose reader := by
  unfold Reader.atClose
  rw [bind_ok (rfl : (get : Step α (Reader α)) reader = .ok reader reader), stands.ahead]
  unfold Arguments.atClose Cursor.current Cursor.read
  cases (args taken rest).next? with
  | none => rfl
  | some answer => rfl

theorem word : Reader.word reader = reader.ends (args taken rest).word := by
  have split : reader.text = (taken ++ rest.takeWhile Text.isBlank) ++ rest.dropWhile Text.isBlank := by
    rw [stands.text, List.append_assoc, List.takeWhile_append_dropWhile]
  have tail : Reader.cut (Text.byteSize taken + Text.byteSize (rest.takeWhile Text.isBlank)) reader =
      .ok (rest.dropWhile Text.isBlank) reader := by
    unfold Reader.cut
    rw [bind_ok (rfl : (get : Step α (Reader α)) reader = .ok reader reader), split,
      ← Text.byteSize_append, Text.dropBytes?_byteSize_append]
    rfl
  unfold Reader.word
  rw [bind_ok stands.behindBlanks, bind_ok tail]
  cases dropped : rest.dropWhile Text.isBlank with
  | nil =>
    rw [@Arguments.word_nil _ (args taken rest) dropped]
    exact stands.missing _
  | cons c further =>
    rw [@Arguments.word_cons _ (args taken rest) _ _ dropped]
    dsimp only
    split
    · rfl
    · exact stands.missing _

theorem scalar [Scalar α] : Reader.scalar reader = reader.ends (args taken rest).scalar := by
  unfold Reader.scalar
  rw [bind_ok (rfl : (get : Step α (Reader α)) reader = .ok reader reader), stands.ahead]
  unfold Arguments.scalar
  cases found : (args taken rest).signed? with
  | none => exact stands.missing _
  | some answer =>
    obtain ⟨negative, token, behind⟩ := answer
    have stop := args_stop (Arguments.signed?_precedes found).2
    dsimp only
    cases (token.number? : Option α) with
    | none => exact stands.missing _
    | some size =>
      dsimp only
      rw [ends, stop]
      rfl

theorem integer : Reader.integer reader = reader.ends (args taken rest).integer := by
  unfold Reader.integer
  rw [bind_ok (rfl : (get : Step α (Reader α)) reader = .ok reader reader), stands.ahead]
  unfold Arguments.integer
  cases found : (args taken rest).signed? with
  | none => exact stands.missing _
  | some answer =>
    obtain ⟨negative, token, behind⟩ := answer
    have stop := args_stop (Arguments.signed?_precedes found).2
    dsimp only
    by_cases isInteger : token.kind = .integer
    · rw [if_pos isInteger, if_pos isInteger]
      by_cases fits : Decimal.natural 0 token.text < UInt64.size / 2
      · let read : Reader α := { reader with consumed := token.stop }
        obtain ⟨negated, value⟩ := negate_natural read fits
        have size : (Int64.ofNat (Decimal.natural 0 token.text)).toInt = Decimal.natural 0 token.text :=
          Int64.toInt_ofNat_of_lt fits
        rw [int64?, if_pos fits, if_pos fits, ends, stop]
        dsimp only
        rw [bind_ok (rfl : consumeTo token.stop reader = .ok () read)]
        cases negative with
        | false =>
          change EStateM.Result.ok (Int64.toInt _) read = _
          rw [size]
          rfl
        | true =>
          refine (bind_ok negated _).trans ?_
          rw [value]
          rfl
      · rw [int64?, if_neg fits, if_neg fits]
        exact stands.missing _
    · rw [if_neg isInteger, if_neg isInteger]
      exact stands.missing _

theorem expression [Scalar α] (expected : Option ValueType) :
    let read := reader.session.readExpression reader.text (args taken rest) expected
    Reader.expression expected reader = ({ reader with session := read.1 } : Reader α).ends read.2 := by
  have here : reader.consumed = (args taken rest).offset := stands.consumed
  unfold Reader.expression Session.readExpression
  rw [bind_ok (rfl : (get : Step α (Reader α)) reader = .ok reader reader), here]
  cases reader.session.argument reader.text (args taken rest).offset expected with
  | mk session told =>
    cases told with
    | ok answer => rfl
    | error error => rfl

end Stands

def answered (answer : β → Answer α) (read : Except (PluginError α) (β × Arguments)) :
    Except (PluginError α) (Answer α × Arguments) :=
  read.map fun (v, behind) => (answer v, behind)

theorem answered_ok {answer : β → Answer α} {read : Except (PluginError α) (β × Arguments)}
    {given : Answer α} {behind : Arguments} :
    answered answer read = .ok (given, behind) ↔ ∃ v, read = .ok (v, behind) ∧ answer v = given := by
  cases read with
  | error error => simp [answered, Except.map]
  | ok found =>
    constructor
    · intro same
      cases same
      exact ⟨found.1, rfl, rfl⟩
    · rintro ⟨v, same, rfl⟩
      cases same
      rfl

theorem answered_error {answer : β → Answer α} {read : Except (PluginError α) (β × Arguments)}
    {error : PluginError α} : answered answer read = .error error ↔ read = .error error := by
  cases read with
  | ok found => exact ⟨nofun, nofun⟩
  | error error => exact ⟨fun same => by cases same; rfl, fun same => by cases same; rfl⟩

/-- What a call answers from the rest of the text, and the session behind it. -/
def Call.read [Scalar α] (session : Session α) (text : List Char) (args : Arguments) :
    Call → Session α × Except (PluginError α) (Answer α × Arguments)
  | .openList => (session, answered (fun _ => .done) args.openList)
  | .separator => (session, answered (fun _ => .done) args.separator)
  | .closeList => (session, answered (fun _ => .done) args.closeList)
  | .atClose => (session, .ok (.truth args.atClose, args))
  | .word => (session, answered .word args.word)
  | .scalar => (session, answered .scalar args.scalar)
  | .integer => (session, answered .integer args.integer)
  | .expression expected =>
    let read := session.readExpression text args expected
    (read.1, answered .value read.2)

def concluded (reader : Reader α) :
    Session α × Except (PluginError α) (Answer α × Arguments) →
      Except (PluginError α) (Answer α) × Reader α
  | (session, .ok (answer, behind)) => (.ok answer, { reader with session, consumed := behind.offset })
  | (session, .error error) => (.error error, { reader with session })

theorem perform_ends [Scalar α] {call : Call} {session : Session α}
    {read : Except (PluginError α) (β × Arguments)} {step : Step α β}
    (runs : step reader = ({ reader with session } : Reader α).ends read) (answer : β → Answer α)
    (steps : call.step = step >>= fun v => pure (answer v)) :
    reader.perform call =
      some (reader.concluded (session, answered answer read)) := by
  unfold perform
  rw [steps]
  cases read with
  | ok found => rw [bind_ok runs]; rfl
  | error error => rw [bind_error runs]; rfl

/-- On a boundary of its text a reader never crashes. -/
theorem perform_eq [Scalar α] (stands : reader.Stands taken rest) (call : Call) :
    reader.perform call =
      some (reader.concluded (call.read reader.session reader.text (args taken rest))) := by
  cases call with
  | openList => exact perform_ends (stands.sign _) (fun _ => .done) rfl
  | separator => exact perform_ends (stands.sign _) (fun _ => .done) rfl
  | closeList => exact perform_ends (stands.sign _) (fun _ => .done) rfl
  | atClose =>
    have looked : Call.atClose.step reader = .ok (.truth (args taken rest).atClose) reader :=
      bind_ok stands.atClose _
    have here : (args taken rest).offset = reader.consumed := stands.consumed.symm
    rw [Call.read, concluded, here, perform, looked]
  | word => exact perform_ends stands.word .word rfl
  | scalar => exact perform_ends stands.scalar .scalar rfl
  | integer => exact perform_ends stands.integer .integer rfl
  | expression expected => exact perform_ends (stands.expression expected) .value rfl

end Reader

end MeshLang
