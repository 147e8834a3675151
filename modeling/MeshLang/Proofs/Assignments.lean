import MeshLang.Proofs.Local.Alone
import MeshLang.Proofs.VariableTransparency

namespace MeshLang

variable {α : Type}

/-- The text of assignments, each of which ends before a semicolon on the next line. -/
def assignments : List (String × List Char) → List Char
  | [] => []
  | [(name, expression)] => assignment name expression
  | (name, expression) :: rest => assignment name expression ++ '\n' :: ';' :: assignments rest

def closings : List (List Char) := [[], [';'], ['\n', ';']]

namespace Cursor

/-- A name, an equality sign and the text of an expression, from a place up to another one. -/
inductive States : Cursor → String × List Char → Cursor → Prop where
  | intro {cursor afterName behind : Cursor} {name : Token} {expression : List Char} :
      cursor.next? = some (name, afterName) → name.kind = .word →
      afterName.current.kind = .assign → afterName.advance.rest = expression ++ behind.rest →
      behind.base = afterName.advance.base →
      behind.offset = afterName.advance.offset + Text.byteSize expression →
      States cursor (name.word, expression) behind

/-- Statements from a place up to another one, a semicolon behind each of them. -/
inductive Leads : Cursor → List (String × List Char) → Cursor → Prop where
  | none {cursor : Cursor} : Leads cursor [] cursor
  | more {cursor behind next last : Cursor} {separator : Token} {binding : String × List Char}
      {bindings : List (String × List Char)} :
      cursor.States binding behind → behind.next? = some (separator, next) →
      separator.kind = .semicolon → Leads next bindings last → Leads cursor (binding :: bindings) last

theorem next?_shorter {cursor after : Cursor} {token : Token} (found : cursor.next? = some (token, after)) :
    after.rest.length < cursor.rest.length := by
  have shorter := nextFrom_shorter found
  omega

theorem next?_separator {last : Cursor} (finish : last.current.kind = .finish) (more : List Char) :
    ∃ token offset, (last.andMore ('\n' :: ';' :: more)).next? =
      some (token, ⟨more, last.base, offset⟩) ∧ token.kind = .semicolon := by
  have split : TokenKind.patterns = TokenKind.patterns.take 11 ++
    (.semicolon, .literal [';']) :: TokenKind.patterns.drop 12 := rfl
  have single : TokenKind.first (';' :: more) = (.semicolon, 1) :=
    TokenKind.first_sign split (by decide) (by decide) more
  have next := last.next?_andLine (';' :: more)
  rw [last.next?_eq_none_iff.mpr finish] at next
  have starts : TokenKind.StartsSolid (';' :: more) := ⟨';', more, rfl, by decide, by simp⟩
  have found (offset : Nat) := nextFrom_solid starts last.base offset
  rw [single] at found
  exact ⟨_, _, next.trans (found _), rfl⟩

theorem current_of_next? {cursor after : Cursor} {token : Token}
    (found : cursor.next? = some (token, after)) : cursor.current = token ∧ cursor.advance = after := by
  unfold current advance read
  rw [found]
  exact ⟨rfl, rfl⟩

theorem read_blank {c : Char} (blank : c ∈ TokenKind.blanks) (rest : List Char) (base offset : Nat) :
    read ⟨c :: rest, base, offset⟩ = read ⟨rest, base, offset + c.utf8Size⟩ := by
  have next : next? ⟨c :: rest, base, offset⟩ = next? ⟨rest, base, offset + c.utf8Size⟩ :=
    nextFrom_blank blank base offset rest
  have size : offset + Text.byteSize (c :: rest) = offset + c.utf8Size + Text.byteSize rest :=
    (Nat.add_assoc _ _ _).symm
  have ends : finish ⟨c :: rest, base, offset⟩ = finish ⟨rest, base, offset + c.utf8Size⟩ := by
    unfold finish place
    rw [Nat.add_assoc, size, ← Nat.add_assoc]
  unfold read
  rw [next, ends]
  dsimp only
  rw [size]

end Cursor

namespace Session

variable [Scalar α]

def store (session : Session α) (binding : String × List Char) : Session α :=
  match session.argument binding.2 0 none with
  | (after, .ok (v, _)) => after.setVariable binding.1 v
  | (after, .error _) => after

def lookingAt (session : Session α) (position : Nat) : Session α := { session with position }

def storeAll (session : Session α) (bindings : List (String × List Char)) : Session α :=
  bindings.foldl store session

/-- Each text is a whole expression in the state that those before it leave. -/
def Evaluates (session : Session α) : List (String × List Char) → Prop
  | [] => True
  | binding :: rest => (session.evaluate binding.2).2.isOk = true ∧ (session.store binding).Evaluates rest

/-- How assignments fail at the start of a statement in the state that those before it leave: no name
stands there, or no sign behind it, or no expression can be evaluated behind the sign, or something
else than a semicolon follows the expression. In the last case the statement is carried out. -/
inductive Breaks (session : Session α) (start : Cursor) :
    List (String × List Char) → EvalError α → Prop where
  | unnamed {token : Token} {after : Cursor} :
      start.next? = some (token, after) → token.kind ≠ .word →
      Breaks session start [] (token.wanted ["identifier"])
  | unassigned {name : Token} {after : Cursor} :
      start.next? = some (name, after) → name.kind = .word → after.current.kind ≠ .assign →
      Breaks session start [] (after.current.wanted ["'='"])
  | unevaluated {name : Token} {after : Cursor} {error : EvalError α} {state : State} :
      start.next? = some (name, after) → name.kind = .word → after.current.kind = .assign →
      Run.expression session.environment (session.stateAt after.advance) = .error error state →
      Breaks session start [] error
  | unseparated {binding : String × List Char} {behind after : Cursor} {token : Token} :
      start.States binding behind → (session.evaluate binding.2).2.isOk = true →
      behind.next? = some (token, after) → token.kind ≠ .semicolon →
      Breaks session start [binding] (token.wanted ["';'"])

variable {session : Session α} {name : String} {expression tail : List Char} {v : Value α} {after : State}

theorem store_registry (session : Session α) (binding : String × List Char) :
    (session.store binding).registry = session.registry := by
  unfold store
  rw [argument_eq]
  cases Run.argumentAt session.environment _ binding.2 0 none _ <;> rfl

section Library

variable (library : ∀ name plugin, session.registry.get? name = some plugin → plugin.IsLibrary)

include library

theorem Values.stored (values : session.Values expression v after) (name : String) :
    ∃ position, session.store (name, expression) =
      { session with
        bindings := session.bindings.insert name v
        generator := after.generator
        trace := after.trace
        position } := by
  obtain ⟨position, argued⟩ := values.argument library
  refine ⟨position, ?_⟩
  unfold store
  rw [argued]
  rfl

theorem Values.resumed (values : session.Values expression v after) (name : String) {after' : State}
    (levels : Levels { after with origins := session.origins } after') (position : Nat) :
    ((session.lookingAt position).resume after').setVariable name v =
      (session.store (name, expression)).lookingAt after'.cursor.current.offset := by
  obtain ⟨_, stored⟩ := values.stored library name
  unfold lookingAt resume setVariable
  rw [levels.origins, levels.generator, levels.trace, stored]

omit [Scalar α] in
omit library in
theorem stops_separator {last : Cursor} (finish : last.current.kind = .finish) (more : List Char) :
    Stops last ('\n' :: ';' :: more) := by
  obtain ⟨token, offset, next, kind⟩ := Cursor.next?_separator finish more
  refine .inr ⟨_, _, rfl, by decide, ?_⟩
  rw [(Cursor.current_of_next? next).1, kind]
  rfl

omit [Scalar α] in
omit library in
theorem stops_closing {closing : List Char} (known : closing ∈ closings) {last : Cursor}
    (finish : last.current.kind = .finish) :
    Stops last closing ∧ ((last.andMore closing).next? = none ∨
      ∃ token offset, (last.andMore closing).next? = some (token, ⟨[], last.base, offset⟩) ∧
        token.kind = .semicolon) := by
  simp only [closings, List.mem_cons, List.not_mem_nil, or_false] at known
  rcases known with rfl | rfl | rfl
  · refine ⟨.inl rfl, .inl ?_⟩
    change Cursor.next? ⟨last.rest ++ [], last.base, last.offset⟩ = none
    rw [List.append_nil]
    exact last.next?_eq_none_iff.mpr finish
  · have next := Cursor.next?_semicolon finish
    refine ⟨.inr ⟨_, _, rfl, by decide, ?_⟩, next⟩
    rcases next with none | ⟨token, offset, found, kind⟩
    · rw [(Cursor.next?_eq_none_iff _).mp none]
      rfl
    · rw [(Cursor.current_of_next? found).1, kind]
      rfl
  · exact ⟨stops_separator finish [], .inr (Cursor.next?_separator finish [])⟩

theorem Values.assigned (values : session.Values expression v after) (isName : IsName name)
    (stops : Stops after.cursor tail) (position offset rounds : Nat) :
    ∃ distance position',
      (session.lookingAt position).assignFrom ⟨assignment name expression ++ tail, 0, offset⟩ (rounds + 1) =
        ((session.store (name, expression)).lookingAt position').separated rounds
          ((after.cursor.move 0 distance).andMore tail).next? := by
  have text : assignment name expression ++ tail = assignment name [] ++ (expression ++ tail) := by
    unfold assignment
    rw [List.append_nil, List.append_assoc]
  obtain ⟨place, assigns⟩ := assignFrom_assignment (session.lookingAt position) isName
    (expression ++ tail) offset rounds
  obtain ⟨after', done, behind, levels⟩ := values.within library stops 0 (place + 1)
  have spaced : Run.expression (session.lookingAt position).environment
      ((session.lookingAt position).stateAt ⟨' ' :: (expression ++ tail), 0, place⟩) = .ok v after' :=
    Run.Starts.expression _ (Cursor.read_blank (by decide) _ 0 place) done
  refine ⟨place + 1, after'.cursor.current.offset, ?_⟩
  rw [text, assigns, spaced, Session.assigned, values.resumed library name levels position, behind]

end Library

theorem assignFrom_assignments {bindings : List (String × List Char)} {closing : List Char}
    (library : ∀ name plugin, session.registry.get? name = some plugin → plugin.IsLibrary)
    (names : ∀ binding ∈ bindings, IsName binding.1) (evaluates : session.Evaluates bindings)
    (known : closing ∈ closings) (open' : bindings = [] → closing = [])
    (position offset : Nat) {rounds : Nat} (enough : (assignments bindings ++ closing).length < rounds) :
    ∃ position', (session.lookingAt position).assignFrom ⟨assignments bindings ++ closing, 0, offset⟩ rounds =
      ((session.storeAll bindings).lookingAt position', .ok ()) := by
  have finish (distance : Nat) {last : Cursor} (finish : last.current.kind = .finish) :
      (last.move 0 distance).current.kind = .finish := by
    rwa [Cursor.current_move]
  induction bindings generalizing session position offset rounds with
  | nil =>
    obtain ⟨more, rfl⟩ : ∃ more, rounds = more + 1 := ⟨rounds - 1, by omega⟩
    rw [open' rfl]
    exact ⟨position, rfl⟩
  | cons binding bindings ih =>
    obtain ⟨name, expression⟩ := binding
    obtain ⟨more, rfl⟩ : ∃ more, rounds = more + 1 := ⟨rounds - 1, by omega⟩
    obtain ⟨isExpression, further⟩ := evaluates
    obtain ⟨v, after, values⟩ := values_of_evaluate library isExpression
    have isName : IsName name := names _ List.mem_cons_self
    -- Only the last assignment may go without a semicolon, and nothing has to follow it.
    cases bindings with
    | nil =>
      obtain ⟨distance, position', assigns⟩ := values.assigned library isName
        (stops_closing known values.finish).1 position offset more
      refine ⟨position', assigns.trans ?_⟩
      rcases (stops_closing known (finish distance values.finish)).2 with none | ⟨token, place, found, kind⟩
      · rw [none]
        rfl
      · obtain ⟨fewer, rfl⟩ : ∃ fewer, more = fewer + 1 := ⟨more - 1, by
          simp only [assignments, assignment, List.length_append] at enough
          have spaces : " = ".toList.length = 3 := rfl
          omega⟩
        rw [found, separated, if_pos kind]
        rfl
    | cons next rest =>
      have text : assignments ((name, expression) :: next :: rest) ++ closing =
          assignment name expression ++ '\n' :: ';' :: (assignments (next :: rest) ++ closing) :=
        List.append_assoc _ _ _
      rw [text] at enough ⊢
      obtain ⟨distance, position', assigns⟩ := values.assigned library isName
        (stops_separator values.finish (assignments (next :: rest) ++ closing)) position offset more
      obtain ⟨token, place, found, kind⟩ := Cursor.next?_separator (finish distance values.finish)
        (assignments (next :: rest) ++ closing)
      have own : (after.cursor.move 0 distance).base = 0 :=
        (Nat.zero_add _).trans ((Motion.expression_onwards _ _).proceeds v after values.done).base
      rw [assigns, found, separated, if_pos kind, own]
      refine ih (by rwa [store_registry]) (fun binding member => names binding (List.mem_cons_of_mem _ member))
        further (fun empty => absurd empty (List.cons_ne_nil _ _)) position' place ?_
      simp only [List.length_append, List.length_cons] at enough ⊢
      omega

theorem Values.isOk (values : session.Values expression v after)
    (library : ∀ name plugin, session.registry.get? name = some plugin → plugin.IsLibrary) :
    (session.evaluate expression).2.isOk = true := by
  rw [values.evaluated library]
  rfl

/-- Assignments that fail are carried out up to the statement that fails. -/
theorem assignFrom_broken {cursor : Cursor} {rounds : Nat} {error : EvalError α}
    (library : ∀ name plugin, session.registry.get? name = some plugin → plugin.IsLibrary)
    (position : Nat) (enough : cursor.rest.length < rounds)
    (failed : ((session.lookingAt position).assignFrom cursor rounds).2 = .error error) :
    ∃ bindings last broken, cursor.Leads bindings last ∧
      (session.storeAll bindings).Breaks last broken error ∧ session.Evaluates (bindings ++ broken) ∧
      ((session.lookingAt position).assignFrom cursor rounds).1.bindings =
        (session.storeAll (bindings ++ broken)).bindings := by
  induction rounds generalizing session position cursor with
  | zero => omega
  | succ rounds ih =>
    cases named : cursor.next? with
    | none =>
      rw [assignFrom, named] at failed
      cases failed
    | some found =>
      obtain ⟨name, afterName⟩ := found
      have shorter := Cursor.next?_shorter named
      by_cases word : name.kind = .word
      · by_cases sign : afterName.current.kind = .assign
        · rw [assignFrom_named _ named word sign] at failed ⊢
          cases done : Run.expression session.environment (session.stateAt afterName.advance) with
          | error error state =>
            have done' : Run.expression (session.lookingAt position).environment
                ((session.lookingAt position).stateAt afterName.advance) = .error error state := done
            rw [done'] at failed ⊢
            cases failed
            exact ⟨[], cursor, [], .none, .unevaluated named word sign done, trivial, rfl⟩
          | ok v state =>
            have done' : Run.expression (session.lookingAt position).environment
                ((session.lookingAt position).stateAt afterName.advance) = .ok v state := done
            -- What the evaluation has taken from the text is an expression by itself.
            obtain ⟨taken, alone, split, own, place, values, levels⟩ := Values.of_within library done
            have states : cursor.States (name.word, taken) state.cursor :=
              .intro named word sign split own place
            have isExpression := values.isOk library
            rw [done', assigned, values.resumed library name.word levels position] at failed ⊢
            cases next : state.cursor.next? with
            | none =>
              rw [next] at failed
              cases failed
            | some found =>
              obtain ⟨separator, rest⟩ := found
              rw [next, separated] at failed
              rw [separated]
              by_cases semicolon : separator.kind = .semicolon
              · rw [if_pos semicolon] at failed ⊢
                have further := Cursor.next?_shorter next
                have onward : afterName.advance.rest.length ≤ afterName.rest.length :=
                  Cursor.advance_precedes.length_le
                have size : afterName.advance.rest.length = _ := congrArg List.length split
                rw [List.length_append] at size
                obtain ⟨bindings, last, broken, leads, breaks, evaluates, same⟩ :=
                  ih (by rwa [store_registry]) _ (by omega) failed
                exact ⟨(name.word, taken) :: bindings, last, broken, .more states next semicolon leads,
                  breaks, ⟨isExpression, evaluates⟩, same⟩
              · rw [if_neg semicolon] at failed ⊢
                cases failed
                exact ⟨[], cursor, [(name.word, taken)], .none,
                  .unseparated states isExpression next semicolon, ⟨isExpression, trivial⟩, rfl⟩
        · rw [assignFrom_unsigned _ named word sign] at failed ⊢
          cases failed
          exact ⟨[], cursor, [], .none, .unassigned named word sign, trivial, rfl⟩
      · rw [assignFrom_unnamed _ named word] at failed ⊢
        cases failed
        exact ⟨[], cursor, [], .none, .unnamed named word, trivial, rfl⟩

/-- Rounds enough for the characters ahead do not run out. -/
theorem assignFrom_rounds (session : Session α) {cursor : Cursor} {rounds rounds' : Nat}
    (enough : cursor.rest.length < rounds) (enough' : cursor.rest.length < rounds') :
    session.assignFrom cursor rounds = session.assignFrom cursor rounds' := by
  induction rounds generalizing session cursor rounds' with
  | zero => omega
  | succ rounds ih =>
    obtain ⟨more, rfl⟩ : ∃ more, rounds' = more + 1 := ⟨rounds' - 1, by omega⟩
    rcases assignFrom_cases α cursor with ⟨answer, -, ends⟩ | ⟨word, -, evaluates⟩
    · rw [ends, ends]
    · have shorter : cursor.advance.rest.length < cursor.rest.length :=
        Cursor.advance_length (by rw [word]; decide)
      have onward : cursor.advance.advance.rest.length ≤ cursor.advance.rest.length :=
        Cursor.advance_precedes.length_le
      rw [evaluates, evaluates]
      cases done : Run.expression session.environment (session.stateAt cursor.advance.advance) with
      | error error state => rfl
      | ok v state =>
        have behind : state.cursor.rest.length ≤ cursor.advance.advance.rest.length :=
          ((Motion.expression_onwards _ _).proceeds v state done).precedes.length_le
        rw [assigned, assigned]
        rcases separated_cases α state.cursor with ⟨answer, -, ends⟩ | ⟨semicolon, further⟩
        · rw [ends, ends]
        · have less : state.cursor.advance.rest.length < state.cursor.rest.length :=
            Cursor.advance_length (by rw [semicolon]; decide)
          rw [further, further]
          exact ih _ (by omega) (by omega)

/-- In texts whose offsets are numbers of 32 bits, assignments are a fold over statements. `stores`:
a statement keeps the value of its expression, not expanded. `keeps`: a new name comes last, and a
name that is assigned again keeps its place. `carried`: a text of assignments stores one expression
after the other, each evaluated by itself in the state that those before it leave, and nothing else
changes but which token was looked at last. `broken`: if a text fails, the variables are those that
its first statements have assigned. `bounded`, `settles`: the loop over the statements comes to an
end. -/
structure AssignsInOrder (session : Session α) : Prop where
  stores : ∀ name expression, Text.Addressable expression →
    (session.evaluate expression).2.isOk = true → ∃ v stop,
    (session.argument expression 0 none).2 = .ok (v, stop) ∧
      (session.evaluate expression).2 = .ok (v.broadcastTo session.options.defaultLocation
        (session.repository.mesh.size session.options.defaultLocation)) ∧
      (session.store (name, expression)).bindings = session.bindings.insert name v
  keeps : ∀ name v, (session.bindings.insert name v).keys =
    if name ∈ session.bindings.keys then session.bindings.keys else session.bindings.keys ++ [name]
  carried : ∀ bindings closing, Text.Addressable (assignments bindings ++ closing) →
    (∀ binding ∈ bindings, IsName binding.1) → session.Evaluates bindings → closing ∈ closings →
      (bindings = [] → closing = []) →
      ∃ position, session.assign (assignments bindings ++ closing) =
        ((session.storeAll bindings).lookingAt position, .ok ())
  broken : ∀ text error, Text.Addressable text → (session.assign text).2 = .error error →
    ∃ bindings last broken, Cursor.Leads (.ofText text) bindings last ∧
      (session.storeAll bindings).Breaks last broken error ∧ session.Evaluates (bindings ++ broken) ∧
      (session.assign text).1.bindings = (session.storeAll (bindings ++ broken)).bindings
  bounded : ∀ text rounds, Text.Addressable text → text.length < rounds →
    session.assignFrom (.ofText text) rounds = session.assign text
  settles : ∀ text, Text.Addressable text → Settles (session.assign text).2

theorem assigns_in_order
    (library : ∀ name plugin, session.registry.get? name = some plugin → plugin.IsLibrary) :
    session.AssignsInOrder where
  stores name expression _ isExpression := by
    obtain ⟨v, after, values⟩ := values_of_evaluate library isExpression
    obtain ⟨position, argued⟩ := values.argument library
    obtain ⟨_, stored⟩ := values.stored library name
    exact ⟨v, after.cursor.offset, by rw [argued], values.evaluated library, by rw [stored]⟩
  keeps := session.bindings.keys_insert
  carried _ _ _ names evaluates known nonempty :=
    assignFrom_assignments library names evaluates known nonempty session.position 0 (Nat.lt_succ_self _)
  broken _ _ _ failed := assignFrom_broken library session.position (Nat.lt_succ_self _) failed
  bounded text _ _ enough := session.assignFrom_rounds enough (Nat.lt_succ_self text.length)
  settles := (session.terminates library).assignments

/-- The second expression ends with a call of a plugin, and the last one with a comment. -/
theorem assigns_in_order_tetrahedron :
    let whole := "b = 2\n;a = clamp(b, 0, 1)\n;b = a + 3 // sum\n;".toList
    let broken := "b = 2;a = clamp(b, 0, 1) c = 4".toList
    overTetrahedron.registry = Plugin.library ∧ (overTetrahedron.assign whole).2.isOk = true ∧
      (overTetrahedron.assign whole).1.bindings.keys = ["b", "a"] ∧
      (overTetrahedron.assign broken).2.isOk = false ∧
      (overTetrahedron.assign broken).1.bindings.keys = ["b", "a"] ∧
      Text.Addressable whole ∧ Text.Addressable broken ∧ overTetrahedron.AssignsInOrder := by
  refine ⟨rfl, by decide +kernel, by decide +kernel, by decide +kernel, by decide +kernel, by decide +kernel,
    by decide +kernel, ?_⟩
  exact assigns_in_order fun _ _ found => Plugin.library_isLibrary found

/-- Without assignments there is nothing that a semicolon may close. -/
theorem not_assigned_semicolon :
    [';'] ∈ closings ∧ overTetrahedron.Evaluates [] ∧ Text.Addressable (assignments [] ++ [';']) ∧
      ¬ ∃ position, overTetrahedron.assign (assignments [] ++ [';']) =
        ((overTetrahedron.storeAll []).lookingAt position, .ok ()) := by
  refine ⟨by decide, trivial, by decide +kernel, ?_⟩
  rintro ⟨position, done⟩
  have refused : (overTetrahedron.assign (assignments [] ++ [';'])).2.isOk = false := by decide +kernel
  rw [done] at refused
  cases refused

end Session

end MeshLang
