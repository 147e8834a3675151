import MeshLang.Proofs.ReaderPlaces

namespace MeshLang

variable {α β : Type}

open TokenKind

namespace Reader

/-- Both of two readings answer alike, the first one so many bytes further on, or both fail. -/
inductive Along (distance : Nat) : Except (PluginError α) (β × Arguments) →
    Except (PluginError α) (β × Arguments) → Prop where
  | ok {v : β} {behind behind' : Arguments} (further : behind.offset = behind'.offset + distance) :
      Along distance (.ok (v, behind)) (.ok (v, behind'))
  | error {error error' : PluginError α} : Along distance (.error error) (.error error')

theorem isBlank_of_mem : ∀ c ∈ blanks, Text.isBlank c = true := List.all_eq_true.mp (by decide)

section Steps

variable {distance : Nat} {ahead ahead' : Arguments}

def NextAlong (distance : Nat) (ahead ahead' : Arguments) : Prop :=
  ahead.next? = ahead'.next?.map fun found => (found.1.shift distance, found.2.move 0 distance)

theorem nextAlong {w : List Char} (trivia : Trivia w) (taken rest : List Char) :
    NextAlong (Text.byteSize w) (args taken (w ++ rest)) (args taken rest) := by
  have moved := (args taken rest).next?_move 0 (Text.byteSize w)
  rw [Nat.zero_add] at moved
  exact (trivia.next? 0 (Text.byteSize taken) rest).trans moved

theorem sign_along (next : NextAlong distance ahead ahead') (kind : TokenKind) :
    Along distance (ahead.sign kind : Except (PluginError α) _) (ahead'.sign kind) := by
  unfold Arguments.sign
  rw [next]
  cases ahead'.next? with
  | none => exact .error
  | some found =>
    have kept : (found.1.shift distance).kind = found.1.kind := rfl
    dsimp only [Option.map_some]
    by_cases same : found.1.kind = kind
    · rw [if_pos (kept.trans same), if_pos same]
      exact .ok rfl
    · rw [if_neg (kept ▸ same), if_neg same]
      exact .error

theorem signed?_along (next : NextAlong distance ahead ahead') :
    ahead.signed? = ahead'.signed?.map fun found =>
      (found.1, found.2.1.shift distance, found.2.2.move 0 distance) := by
  unfold Arguments.signed?
  rw [next]
  cases ahead'.next? with
  | none => rfl
  | some found =>
    have kept : (found.1.shift distance).kind = found.1.kind := rfl
    dsimp only [Option.map_some]
    by_cases minus : found.1.kind = .minus
    · rw [if_pos (kept.trans minus), if_pos minus, Cursor.next?_move, Nat.zero_add]
      cases found.2.next? <;> rfl
    · rw [if_neg (kept ▸ minus), if_neg minus]
      rfl

theorem scalar_along [Scalar α] (next : NextAlong distance ahead ahead') :
    Along distance (ahead.scalar : Except (PluginError α) (α × Arguments)) ahead'.scalar := by
  unfold Arguments.scalar
  rw [signed?_along next]
  cases ahead'.signed? with
  | none => exact .error
  | some found =>
    have same : (found.2.1.shift distance).number? = (found.2.1.number? : Option α) := rfl
    dsimp only [Option.map_some]
    rw [same]
    cases (found.2.1.number? : Option α) with
    | none => exact .error
    | some size => exact .ok rfl

theorem integer_along (next : NextAlong distance ahead ahead') :
    Along distance (ahead.integer : Except (PluginError α) (Int × Arguments)) ahead'.integer := by
  unfold Arguments.integer
  rw [signed?_along next]
  cases ahead'.signed? with
  | none => exact .error
  | some found =>
    have kept : (found.2.1.shift distance).kind = found.2.1.kind := rfl
    have written : (found.2.1.shift distance).text = found.2.1.text := rfl
    dsimp only [Option.map_some]
    by_cases digits : found.2.1.kind = .integer
    · rw [if_pos (kept.trans digits), if_pos digits]
      by_cases fits : Decimal.natural 0 found.2.1.text < UInt64.size / 2
      · rw [if_pos (written ▸ fits), if_pos fits]
        exact .ok rfl
      · rw [if_neg (written ▸ fits), if_neg fits]
        exact .error
    · rw [if_neg (kept ▸ digits), if_neg digits]
      exact .error

theorem word_along {w : List Char} (blank : ∀ c ∈ w, Text.isBlank c = true) (taken rest : List Char) :
    Along (Text.byteSize w) ((args taken (w ++ rest)).word : Except (PluginError α) _)
      (args taken rest).word := by
  have dropped : (w ++ rest).dropWhile Text.isBlank = rest.dropWhile Text.isBlank :=
    List.dropWhile_append_of_pos blank
  have white : (w ++ rest).takeWhile Text.isBlank = w ++ rest.takeWhile Text.isBlank :=
    List.takeWhile_append_of_pos blank
  cases starts : rest.dropWhile Text.isBlank with
  | nil =>
    rw [@Arguments.word_nil _ (args taken rest) starts,
      @Arguments.word_nil _ (args taken (w ++ rest)) (dropped.trans starts)]
    exact .error
  | cons c further =>
    rw [@Arguments.word_cons _ (args taken rest) _ _ starts,
      @Arguments.word_cons _ (args taken (w ++ rest)) _ _ (dropped.trans starts)]
    by_cases letter : (Text.startsIdentifier c || c == '_') = true
    · rw [if_pos letter, if_pos letter]
      refine .ok ?_
      change Text.byteSize taken + Text.byteSize ((w ++ rest).takeWhile Text.isBlank) + _ =
        Text.byteSize taken + Text.byteSize (rest.takeWhile Text.isBlank) + _ + _
      rw [white, Text.byteSize_append]
      omega
    · rw [if_neg letter, if_neg letter]
      exact .error

end Steps

section Calls

variable [Scalar α] {session : Session α} {w : List Char} {call : Call}
  (library : ∀ name plugin, session.registry.get? name = some plugin → plugin.IsLibrary)

include library

theorem expression_moves {text : List Char} {base offset : Nat} {v : Value α} {after : State}
    (done : Run.expression session.environment (session.stateAt ⟨text, base, offset⟩) = .ok v after)
    (offset' : Nat) : ∃ after',
      Run.expression session.environment (session.stateAt ⟨text, base, offset'⟩) = .ok v after' ∧
        offset' ≤ after'.cursor.offset ∧
        after'.cursor.offset + offset = after.cursor.offset + offset' := by
  have here := Session.expression_moved library text base offset session.origins
  have there := Session.expression_moved library text base offset' session.origins
  cases alone : Run.expression session.environment (session.stateAt (.ofText text)) with
  | error error last =>
    rw [alone] at here
    obtain ⟨_, -, failed⟩ := here.failed
    cases done.symm.trans failed
  | ok u last =>
    rw [alone] at here there
    cases done.symm.trans here.answered
    refine ⟨_, there.answered, Nat.le_add_left _ _, ?_⟩
    change last.cursor.offset + offset' + offset = last.cursor.offset + offset + offset'
    omega

omit library in
theorem expression_skips {v : Value α} {after : State} (trivia : Trivia w) (base offset : Nat)
    (rest : List Char) :
    Run.expression session.environment (session.stateAt ⟨w ++ rest, base, offset⟩) = .ok v after ↔
      Run.expression session.environment (session.stateAt ⟨rest, base, offset + Text.byteSize w⟩) =
        .ok v after := by
  have same : (Cursor.mk (w ++ rest) base offset).read =
      (Cursor.mk rest base (offset + Text.byteSize w)).read := trivia.read base offset rest
  constructor
  · exact Run.Starts.expression session.environment same.symm
  · exact Run.Starts.expression session.environment same

theorem argument_along {expected : Option ValueType} {v : Value α} {stop : Nat} (trivia : Trivia w)
    (taken rest : List Char) :
    (session.argument (taken ++ (w ++ rest)) (Text.byteSize taken) expected).2 = .ok (v, stop) ↔
      ∃ further, stop = further + Text.byteSize w ∧
        (session.argument (taken ++ rest) (Text.byteSize taken) expected).2 = .ok (v, further) := by
  constructor
  · intro told
    obtain ⟨u, after, done, formed, size⟩ := Session.argument_ok_iff.mp told
    rw [expression_skips trivia] at done
    obtain ⟨after', done', further, moved⟩ := expression_moves library done (Text.byteSize taken)
    exact ⟨after'.cursor.offset, by omega, Session.argument_ok_iff.mpr ⟨u, after', done', formed, rfl⟩⟩
  · rintro ⟨stop, rfl, told⟩
    obtain ⟨u, after, done, formed, size⟩ := Session.argument_ok_iff.mp told
    obtain ⟨after', done', further, moved⟩ := expression_moves library done
      (Text.byteSize taken + Text.byteSize w)
    exact Session.argument_ok_iff.mpr
      ⟨u, after', (expression_skips trivia _ _ _).mpr done', formed, by omega⟩

theorem expression_along (expected : Option ValueType) (trivia : Trivia w) (taken rest : List Char) :
    Along (Text.byteSize w)
      (session.readExpression (taken ++ (w ++ rest)) (args taken (w ++ rest)) expected).2
      (session.readExpression (taken ++ rest) (args taken rest) expected).2 := by
  change Along _
    ((args taken (w ++ rest)).afterExpression
      (session.argument (taken ++ (w ++ rest)) (Text.byteSize taken) expected).2)
    ((args taken rest).afterExpression (session.argument (taken ++ rest) (Text.byteSize taken) expected).2)
  cases told : (session.argument (taken ++ rest) (Text.byteSize taken) expected).2 with
  | ok answer =>
    rw [(argument_along library trivia taken rest).mpr ⟨_, rfl, told⟩]
    exact .ok rfl
  | error error =>
    cases told' : (session.argument (taken ++ (w ++ rest)) (Text.byteSize taken) expected).2 with
    | ok answer =>
      obtain ⟨further, -, told''⟩ := (argument_along library trivia taken rest).mp told'
      rw [told] at told''
      cases told''
    | error error' => exact .error

theorem read_along (trivia : Trivia w) (taken rest : List Char) (reads : call ≠ .atClose)
    (blank : call = .word → ∀ c ∈ w, c ∈ blanks) :
    Along (Text.byteSize w) (call.read session (taken ++ (w ++ rest)) (args taken (w ++ rest))).2
      (call.read session (taken ++ rest) (args taken rest)).2 := by
  have answers {β : Type} {read read' : Except (PluginError α) (β × Arguments)}
      (along : Along (Text.byteSize w) read read') (answer : β → Answer α) :
      Along (Text.byteSize w) (answered answer read) (answered answer read') := by
    cases along with
    | ok further => exact .ok further
    | error => exact .error
  have next := nextAlong trivia taken rest
  cases call with
  | openList => exact answers (sign_along next _) fun _ => .done
  | separator => exact answers (sign_along next _) fun _ => .done
  | closeList => exact answers (sign_along next _) fun _ => .done
  | atClose => exact absurd rfl reads
  | word =>
    have white : ∀ c ∈ w, Text.isBlank c = true := fun c member => isBlank_of_mem c (blank rfl c member)
    exact answers (word_along white taken rest) _
  | scalar => exact answers (scalar_along next) _
  | integer => exact answers (integer_along next) _
  | expression expected => exact answers (expression_along library expected trivia taken rest) _

end Calls

section Failures

variable {ahead : Arguments} {error : PluginError α}

theorem sign_misses {kind : TokenKind} (fails : ahead.sign kind = .error error) :
    ∃ what, error = ahead.missing what := by
  unfold Arguments.sign at fails
  split at fails
  · split at fails <;> cases fails
    exact ⟨_, rfl⟩
  · cases fails
    exact ⟨_, rfl⟩

theorem word_misses (fails : ahead.word = .error error) : ∃ what, error = ahead.missing what := by
  cases dropped : ahead.rest.dropWhile Text.isBlank with
  | nil =>
    rw [Arguments.word_nil dropped] at fails
    cases fails
    exact ⟨_, rfl⟩
  | cons c further =>
    rw [Arguments.word_cons dropped] at fails
    split at fails <;> cases fails
    exact ⟨_, rfl⟩

theorem scalar_misses [Scalar α] (fails : (ahead.scalar : Except (PluginError α) (α × Arguments)) =
    .error error) : ∃ what, error = ahead.missing what := by
  unfold Arguments.scalar at fails
  split at fails
  · cases fails
    exact ⟨_, rfl⟩
  · split at fails <;> cases fails
    exact ⟨_, rfl⟩

theorem integer_misses (fails : ahead.integer = .error error) : ∃ what, error = ahead.missing what := by
  unfold Arguments.integer at fails
  split at fails
  · cases fails
    exact ⟨_, rfl⟩
  · split at fails
    · dsimp only at fails
      split at fails <;> cases fails
      exact ⟨_, rfl⟩
    · cases fails
      exact ⟨_, rfl⟩

theorem read_misses [Scalar α] {session : Session α} {text : List Char} {call : Call} {what : String}
    {offset : Nat} (fails : (call.read session text ahead).2 = .error (.expected what offset)) :
    offset = ahead.offset + Text.byteSize (ahead.rest.takeWhile Text.isBlank) := by
  have placed (missing : ∃ what', (.expected what offset : PluginError α) = ahead.missing what') :
      offset = ahead.offset + Text.byteSize (ahead.rest.takeWhile Text.isBlank) := by
    obtain ⟨what', same⟩ := missing
    cases same
    rfl
  have sign {kind : TokenKind} (fails : answered (fun _ => (.done : Answer α)) (ahead.sign kind) =
      .error (.expected what offset)) :
      offset = ahead.offset + Text.byteSize (ahead.rest.takeWhile Text.isBlank) :=
    placed (sign_misses (answered_error.mp fails))
  cases call with
  | openList => exact sign fails
  | separator => exact sign fails
  | closeList => exact sign fails
  | atClose => cases fails
  | word => exact placed (word_misses (answered_error.mp fails))
  | scalar => exact placed (scalar_misses (answered_error.mp fails))
  | integer => exact placed (integer_misses (answered_error.mp fails))
  | expression expected =>
    have failed := answered_error.mp fails
    change ahead.afterExpression (session.argument text ahead.offset expected).2 = _ at failed
    cases told : (session.argument text ahead.offset expected).2 <;> rw [told] at failed <;> cases failed

end Failures

/-- White space before the next token is blank to the language, and there is no comment behind it. -/
structure Plain (text : List Char) : Prop where
  blank : text.takeWhile Text.isBlank = text.takeWhile blanks.contains
  noComment : ∀ more, text.dropWhile Text.isBlank ≠ '/' :: '/' :: more

theorem comment_current (offset : Nat) (more : List Char) :
    offset < (Cursor.mk ('/' :: '/' :: more) 0 offset).current.offset := by
  let line := '/' :: '/' :: more.takeWhile (· != '\n')
  let behind : Cursor := ⟨more.dropWhile (· != '\n'), 0, offset + Text.byteSize line⟩
  have split : '/' :: '/' :: more = line ++ behind.rest := by
    change _ = '/' :: '/' :: (more.takeWhile (· != '\n') ++ more.dropWhile (· != '\n'))
    rw [List.takeWhile_append_dropWhile]
  have next : (Cursor.mk ('/' :: '/' :: more) 0 offset).next? = behind.next? :=
    Cursor.nextFrom_comment 0 offset more
  have finish : (Cursor.mk ('/' :: '/' :: more) 0 offset).finish = behind.finish := by
    unfold Cursor.finish Cursor.place
    rw [split, Text.byteSize_append]
    change 0 + offset + _ = 0 + (offset + Text.byteSize line) + _
    omega
  have same : (Cursor.mk ('/' :: '/' :: more) 0 offset).current = behind.current := by
    unfold Cursor.current Cursor.read
    rw [next, finish]
    cases behind.next? <;> rfl
  have later : behind.place ≤ behind.current.offset := by
    rw [← Cursor.atToken_place]
    exact behind.current_between.1.place_le
  have filled : 0 < Text.byteSize line := Text.byteSize_pos (List.cons_ne_nil _ _)
  rw [same]
  change 0 + (offset + Text.byteSize line) ≤ _ at later
  omega

theorem current_offset_bare_iff {rest : List Char}
    (bare : ∀ c further, rest = c :: further → c ∉ blanks) (offset : Nat) :
    (Cursor.mk rest 0 offset).current.offset = offset + Text.byteSize (rest.takeWhile Text.isBlank) ↔
      rest.takeWhile Text.isBlank = [] ∧ ∀ more, rest.dropWhile Text.isBlank ≠ '/' :: '/' :: more := by
  cases rest with
  | nil => exact ⟨fun _ => ⟨rfl, nofun⟩, fun _ => Nat.zero_add _⟩
  | cons c further =>
    by_cases comment : ∃ more, c :: further = '/' :: '/' :: more
    · obtain ⟨more, same⟩ := comment
      have empty : ('/' :: '/' :: more).takeWhile Text.isBlank = [] := rfl
      have whole : ('/' :: '/' :: more).dropWhile Text.isBlank = '/' :: '/' :: more := rfl
      have behind := comment_current offset more
      rw [same, empty, whole, Text.byteSize_nil]
      exact ⟨fun here => absurd here (by omega), fun ⟨_, noComment⟩ => absurd rfl (noComment more)⟩
    · have starts : StartsSolid (c :: further) :=
        ⟨c, further, rfl, bare c further rfl, not_exists.mp comment⟩
      have here : (Cursor.mk (c :: further) 0 offset).current.offset = offset := by
        unfold Cursor.current Cursor.read Cursor.next?
        rw [Cursor.nextFrom_solid starts]
        exact Nat.zero_add _
      rw [here]
      constructor
      · intro same
        have empty : (c :: further).takeWhile Text.isBlank = [] := by
          by_contra filled
          have positive := Text.byteSize_pos filled
          omega
        have whole := List.takeWhile_append_dropWhile (p := Text.isBlank) (l := c :: further)
        rw [empty, List.nil_append] at whole
        rw [whole]
        exact ⟨empty, not_exists.mp comment⟩
      · rintro ⟨empty, -⟩
        rw [empty]
        rfl

/-- The next token stands behind the white space just in front of such texts. -/
theorem current_offset_iff (text : List Char) (offset : Nat) :
    (Cursor.mk text 0 offset).current.offset = offset + Text.byteSize (text.takeWhile Text.isBlank) ↔
      Plain text := by
  obtain ⟨w, rest, isW, isRest, split⟩ : ∃ w rest, text.takeWhile blanks.contains = w ∧
      text.dropWhile blanks.contains = rest ∧ w ++ rest = text :=
    ⟨_, _, rfl, rfl, List.takeWhile_append_dropWhile⟩
  have blank : ∀ c ∈ w, c ∈ blanks := by
    intro c member
    rw [← isW] at member
    simpa using List.mem_takeWhile_imp member
  -- What the lexer skips first is white space too, so only the rest of the white space matters.
  have bare (c : Char) (further : List Char) (same : rest = c :: further) : c ∉ blanks := by
    have ends := List.head_dropWhile_not blanks.contains (l := text) (by simp [isRest, same])
    simpa [isRest, same] using ends
  have white : ∀ c ∈ w, Text.isBlank c = true := fun c member => isBlank_of_mem c (blank c member)
  have taken : text.takeWhile Text.isBlank = w ++ rest.takeWhile Text.isBlank := by
    rw [← split, List.takeWhile_append_of_pos white]
  have dropped : text.dropWhile Text.isBlank = rest.dropWhile Text.isBlank := by
    rw [← split, List.dropWhile_append_of_pos white]
  have current : (Cursor.mk text 0 offset).current =
      (Cursor.mk rest 0 (offset + Text.byteSize w)).current := by
    rw [← split]
    exact congrArg Prod.fst ((Trivia.of_blanks blank).read 0 offset rest)
  have plain : Plain text ↔
      rest.takeWhile Text.isBlank = [] ∧ ∀ more, rest.dropWhile Text.isBlank ≠ '/' :: '/' :: more := by
    rw [← dropped]
    refine ⟨fun plain => ⟨?_, plain.noComment⟩, fun ⟨empty, noComment⟩ => ⟨?_, noComment⟩⟩
    · have same := plain.blank
      rw [taken, isW] at same
      exact List.append_right_eq_self.mp same
    · rw [taken, isW, empty, List.append_nil]
  rw [plain, current, taken, Text.byteSize_append, ← Nat.add_assoc]
  exact current_offset_bare_iff bare _

section Readers

variable [Scalar α] {session : Session α} {taken w rest : List Char} {call : Call}

def Gives (reader : Reader α) (call : Call) (answer : Answer α) (size : Nat) : Prop :=
  ∃ after, reader.perform call = some (.ok answer, after) ∧ after.consumed = reader.consumed + size

def Misses (reader : Reader α) (call : Call) (offset : Nat) : Prop :=
  ∃ what after, reader.perform call = some (.error (.expected what offset), after)

/-- A call skips blanks and comments before what it reads: it answers as it does without them and
consumes as many bytes more, and if it does not find what it expects, it reports where the next
token stands, or the end of the text. -/
structure SkipsTrivia (session : Session α) (call : Call) (taken w rest : List Char) : Prop where
  gives : ∀ answer size, (facing session taken (w ++ rest)).Gives call answer size ↔
    ∃ further, size = Text.byteSize w + further ∧ (facing session taken rest).Gives call answer further
  misses : ∀ offset, (facing session taken (w ++ rest)).Misses call offset →
    offset = (args taken (w ++ rest)).current.offset

theorem gives_iff {answer : Answer α} {size : Nat} :
    (facing session taken rest).Gives call answer size ↔
      ∃ behind, (call.read session (taken ++ rest) (args taken rest)).2 = .ok (answer, behind) ∧
        behind.offset = Text.byteSize taken + size := by
  have outcome := perform_eq (facing_stands session taken rest) call
  change _ = some (concluded _ (call.read session (taken ++ rest) (args taken rest))) at outcome
  unfold Gives
  rw [outcome]
  cases call.read session (taken ++ rest) (args taken rest) with
  | mk after result =>
    cases result with
    | error error => exact ⟨fun ⟨_, done, _⟩ => (nomatch done), fun ⟨_, done, _⟩ => (nomatch done)⟩
    | ok found =>
      constructor
      · rintro ⟨_, done, consumed⟩
        cases done
        exact ⟨found.2, rfl, consumed⟩
      · rintro ⟨_, done, consumed⟩
        cases done
        exact ⟨_, rfl, consumed⟩

theorem misses_iff {offset : Nat} : (facing session taken rest).Misses call offset ↔
    ∃ what, (call.read session (taken ++ rest) (args taken rest)).2 = .error (.expected what offset) := by
  have outcome := perform_eq (facing_stands session taken rest) call
  change _ = some (concluded _ (call.read session (taken ++ rest) (args taken rest))) at outcome
  unfold Misses
  rw [outcome]
  cases call.read session (taken ++ rest) (args taken rest) with
  | mk after result =>
    cases result with
    | ok found => exact ⟨fun ⟨_, _, done⟩ => (nomatch done), fun ⟨_, done⟩ => (nomatch done)⟩
    | error error =>
      constructor
      · rintro ⟨what, _, done⟩
        cases done
        exact ⟨what, rfl⟩
      · rintro ⟨what, done⟩
        cases done
        exact ⟨what, _, rfl⟩

omit [Scalar α] in
theorem gives_along {read read' : Except (PluginError α) (Answer α × Arguments)} {distance start size : Nat}
    (along : Along distance read read') (onward : ∀ v behind, read' = .ok (v, behind) → start ≤ behind.offset)
    (answer : Answer α) :
    (∃ behind, read = .ok (answer, behind) ∧ behind.offset = start + size) ↔
      ∃ further, size = distance + further ∧
        ∃ behind, read' = .ok (answer, behind) ∧ behind.offset = start + further := by
  cases along with
  | error => simp
  | @ok v behind behind' moved =>
    have later := onward v behind' rfl
    constructor
    · rintro ⟨_, done, size⟩
      cases done
      exact ⟨behind'.offset - start, by omega, behind', rfl, by omega⟩
    · rintro ⟨further, rfl, _, done, size⟩
      cases done
      exact ⟨behind, rfl, by omega⟩

theorem gives_trivia
    (library : ∀ name plugin, session.registry.get? name = some plugin → plugin.IsLibrary)
    (trivia : Trivia w) (reads : call ≠ .atClose) (blank : call = .word → ∀ c ∈ w, c ∈ blanks)
    (answer : Answer α) (size : Nat) :
    (facing session taken (w ++ rest)).Gives call answer size ↔ ∃ further,
      size = Text.byteSize w + further ∧ (facing session taken rest).Gives call answer further := by
  simp only [gives_iff]
  refine gives_along (read_along library trivia taken rest reads blank) (fun v behind read => ?_) answer
  obtain ⟨element, -, size, -⟩ := Call.read_reads library reads read
  rw [size]
  exact Nat.le_add_right _ _

theorem word_comment (trivia : Trivia w) (comment : ¬ ∀ c ∈ w, c ∈ blanks) (answer : Answer α)
    (size : Nat) : ¬ (facing session taken (w ++ rest)).Gives .word answer size := by
  obtain ⟨further, dropped⟩ : ∃ further, (w ++ rest).dropWhile Text.isBlank = '/' :: further := by
    induction trivia with
    | nil => exact absurd (fun _ member => nomatch member) comment
    | @blank c w blank trivia ih =>
      have further : ¬ ∀ d ∈ w, d ∈ blanks := fun all =>
        comment fun d member => (List.mem_cons.mp member).elim (fun same => same ▸ blank) (all d)
      rw [List.cons_append, List.dropWhile_cons_of_pos (isBlank_of_mem c blank)]
      exact ih further
    | comment within trivia ih => exact ⟨_, rfl⟩
  rw [gives_iff]
  rintro ⟨behind, read, -⟩
  obtain ⟨name, found, -⟩ := answered_ok.mp read
  rw [@Arguments.word_cons _ (args taken (w ++ rest)) _ _ dropped] at found
  cases found

/-- In a text whose places are numbers of 32 bits, blanks and comments before what a call reads are
skipped exactly if these are the blanks and no comments, should it be a name that comes next, and the byte
that is reported is that of the next token exactly if no other white space and no comment stands before
it. -/
theorem skipsTrivia_iff
    (library : ∀ name plugin, session.registry.get? name = some plugin → plugin.IsLibrary)
    (trivia : Trivia w) (reads : call ≠ .atClose) (taken rest : List Char)
    (_ : session.Addresses (taken ++ (w ++ rest))) :
    SkipsTrivia session call taken w rest ↔
      (call = .word → (∃ answer size, (facing session taken rest).Gives .word answer size) →
        ∀ c ∈ w, c ∈ blanks) ∧
      ((∃ offset, (facing session taken (w ++ rest)).Misses call offset) → Plain (w ++ rest)) := by
  constructor
  · intro skips
    constructor
    · rintro rfl ⟨answer, size, gives⟩
      by_contra comment
      exact word_comment trivia comment _ _ ((skips.gives _ _).mpr ⟨size, rfl, gives⟩)
    · rintro ⟨offset, misses⟩
      obtain ⟨what, fails⟩ := misses_iff.mp misses
      rw [← current_offset_iff _ (Text.byteSize taken)]
      exact (skips.misses offset misses).symm.trans (read_misses fails)
  · rintro ⟨names, plain⟩
    refine ⟨fun answer size => ?_, fun offset misses => ?_⟩
    · by_cases blank : call = .word → ∀ c ∈ w, c ∈ blanks
      · exact gives_trivia library trivia reads blank answer size
      · obtain ⟨rfl, comment⟩ := Classical.not_imp.mp blank
        refine ⟨fun gives => absurd gives (word_comment trivia comment _ _), ?_⟩
        rintro ⟨further, -, gives⟩
        exact absurd (names rfl ⟨answer, further, gives⟩) comment
    · obtain ⟨what, fails⟩ := misses_iff.mp misses
      exact (read_misses fails).trans ((current_offset_iff _ _).mpr (plain ⟨offset, misses⟩)).symm

theorem trivia_comment : Trivia " // c\n ".toList :=
  .blank (by decide) (@Trivia.comment [' ', 'c'] _ (by decide) (.blank (by decide) .nil))

/-- Behind a comment a number is found as it is without it, and a name is not. -/
theorem skipsTrivia_comment :
    let session := Session.overTetrahedron
    let w := " // c\n ".toList
    session.registry = Plugin.library ∧ Trivia w ∧
      SkipsTrivia session .scalar ['('] w ['1'] ∧ ¬ SkipsTrivia session .word ['('] w ['x'] := by
  intro session w
  have library : ∀ name plugin, session.registry.get? name = some plugin → plugin.IsLibrary :=
    fun _ _ found => Plugin.library_isLibrary found
  have number : ∀ offset, ¬ (facing session ['('] (w ++ ['1'])).Misses .scalar offset := by
    rintro offset ⟨what, after, fails⟩
    have answers : ∃ x after, (facing session ['('] (w ++ ['1'])).perform .scalar =
        some (.ok (.scalar x), after) := ⟨_, _, rfl⟩
    obtain ⟨x, after', answers⟩ := answers
    rw [answers] at fails
    cases fails
  have name : (facing session ['('] ['x']).Gives .word (.word "x") 1 := ⟨_, rfl, rfl⟩
  refine ⟨rfl, trivia_comment, ?_, ?_⟩
  · exact (skipsTrivia_iff library trivia_comment (by decide) ['('] ['1'] (by decide +kernel)).mpr
      ⟨nofun, fun ⟨offset, misses⟩ => absurd misses (number offset)⟩
  · intro skips
    have blank := ((skipsTrivia_iff library trivia_comment (by decide) ['('] ['x']
      (by decide +kernel)).mp skips).1 rfl ⟨_, _, name⟩
    exact absurd (blank '/' (by decide)) (by decide)

/-- Neither is a name found behind a comment nor is the place of a token reported that stands there. -/
theorem not_skipsTrivia_comment :
    let session := Session.overTetrahedron
    ¬ SkipsTrivia session .word [] "// c\n".toList ['x'] ∧
      ¬ SkipsTrivia session .scalar ['('] " // c\n ".toList [']'] := by
  intro session
  have name : (facing session [] ['x']).Gives .word (.word "x") 1 := ⟨_, rfl, rfl⟩
  have comment : Trivia "// c\n".toList := @Trivia.comment [' ', 'c'] _ (by decide) .nil
  have misses : (facing session ['('] (" // c\n ".toList ++ [']'])).Misses .scalar 2 := ⟨_, _, rfl⟩
  have slash : ¬ ∀ c ∈ "// c\n".toList, c ∈ blanks := fun blank =>
    absurd (blank '/' (by decide)) (by decide)
  refine ⟨fun skips => ?_, fun skips => ?_⟩
  · exact word_comment comment slash _ _ ((skips.gives _ _).mpr ⟨1, rfl, name⟩)
  · exact absurd (skips.misses 2 misses) (by decide +kernel)

end Readers

end Reader

end MeshLang
