import MeshLang.Proofs.Evaluation.FramedSessions
import MeshLang.Proofs.Parallel.Sessions

namespace MeshLang.Session

variable {α : Type}

inductive Form where
  | whole
  | typed (type : ValueType)
  | logical (location : Location)
  | start

inductive Request where
  | parse (form : Form) (text : List Char)
  | argument (text : List Char) (start : Nat) (expected : Option ValueType)
  | assign (text : List Char)

inductive Answer (α : Type) where
  | value (answer : Except (EvalError α) (Value α))
  | argument (answer : Except (EvalError α) (Value α × Nat))
  | assigned (answer : Except (EvalError α) Unit)

/-- All that can be done to a session. -/
inductive Call (α : Type) where
  | serve (request : Request)
  | setVariable (name : String) (v : Value α)
  | clearVariables
  | takeResult
  | withOptions (options : Options)
  | withRegistry (registry : Registry α)
  | register (plugin : Plugin α)
  | clearTrace

namespace Form

def expected : Form → Option ValueType
  | .typed type => some type
  | .logical location => some ⟨.logical, location⟩
  | _ => none

def isWhole : Form → Bool
  | .start => false
  | _ => true

end Form

section Calls

variable [Scalar α]

def parse (session : Session α) : Form → List Char → Session α × Except (EvalError α) (Value α)
  | .whole, text => session.evaluate text
  | .typed type, text => session.evaluateAs text type
  | .logical location, text => session.evaluateLogical text location
  | .start, text => session.evaluateStart text

theorem parse_eq (session : Session α) (form : Form) (text : List Char) :
    session.parse form text = session.accept text form.expected form.isWhole := by
  cases form <;> rfl

def serve (session : Session α) : Request → Session α × Answer α
  | .parse form text => (session.parse form text).map id .value
  | .argument text start expected => (session.argument text start expected).map id .argument
  | .assign text => (session.assign text).map id .assigned

def perform (session : Session α) : Call α → Session α
  | .serve request => (session.serve request).1
  | .setVariable name v => session.setVariable name v
  | .clearVariables => session.clearVariables
  | .takeResult => session.takeResult.2
  | .withOptions options => session.withOptions options
  | .withRegistry registry => session.withRegistry registry
  | .register plugin => session.register plugin
  | .clearTrace => session.clearTrace

def performAll (session : Session α) (calls : List (Call α)) : Session α :=
  calls.foldl perform session

def answers (session : Session α) : List (Call α) → List (Answer α)
  | [] => []
  | .serve request :: calls =>
    (session.serve request).2 :: (session.serve request).1.answers calls
  | call :: calls => (session.perform call).answers calls

def serveWith (draw : Draw α) (session : Session α) : Request → Session α × Answer α
  | .parse form text => (session.acceptWith draw text form.expected form.isWhole).map id .value
  | .argument text start expected =>
    (session.argumentWith draw text start expected).map id .argument
  | .assign text => (session.assignFromWith draw (.ofText text) (text.length + 1)).map id .assigned

theorem serveWith_unseeded (session : Session α) (request : Request) :
    session.serveWith (Run.unseeded session.environment) request = session.serve request := by
  cases request with
  | parse form text => rw [serveWith, serve, acceptWith_unseeded, parse_eq]
  | argument text start expected => rw [serveWith, serve, argumentWith_unseeded]
  | assign text =>
    rw [serveWith, serve, assignFromWith_unseeded]
    rfl

/-- The request makes a random field for which no seed is given: it shows how that is done. -/
def Draws (session : Session α) (request : Request) : Prop :=
  ∃ draw, session.serveWith draw request ≠ session.serve request

end Calls

/-- Two sessions that serve requests in the same way. Their results, positions and notes may differ. -/
structure Interchangeable (session session' : Session α) : Prop where
  environment : session'.environment = session.environment
  stop : session'.stop = session.stop
  idle : session.origins = [] ∧ session'.origins = []
  generator : session'.generator = session.generator

/-- What requests do to a session, and what they leave as it is. -/
structure Orderly [Scalar α] (session : Session α) : Prop where
  idle : session.origins = []
  parse : ∀ form text after answer, session.parse form text = (after, answer) →
    after.result = answer.toOption ∧ (answer.isOk = false → after.stop = session.stop) ∧
      after.environment = session.environment
  argument : ∀ text start expected after answer,
    session.argument text start expected = (after, answer) →
      after.result = session.result ∧ after.stop = session.stop ∧
        after.environment = session.environment
  assign : ∀ text after answer, session.assign text = (after, answer) →
    after.result = session.result ∧ after.stop = session.stop ∧
      after.environment = { session.environment with bindings := after.bindings }
  draws : ∀ request, (session.serve request).1.generator ≠ session.generator → session.Draws request
  forgets : ∀ form text after error, session.parse form text = (after, .error error) →
    ¬session.Draws (.parse form text) → ∀ calls, after.answers calls = session.answers calls ∧
      (session.performAll calls).Interchangeable (after.performAll calls)

section Requests

variable [Scalar α] {session session' : Session α} {frame : Frame} {slots : Prop}
  {draw draw' : Draw α}

omit [Scalar α] in
theorem Concludes.strict {β : Type} {extend : Registry α → Registry α} {origins : List Nat}
    {result other : Session α × Except (EvalError α) β}
    (concludes : Concludes frame False extend slots origins result other) :
    other.2 = result.2 ∧ Related frame extend slots origins result.1 other.1 := by
  cases concludes with
  | same related => exact ⟨rfl, related⟩
  | excused never => exact never.elim

theorem serveWith_related (related : Related frame id slots [] session session')
    (admits : frame.Admits False session.environment session.registry draw draw')
    (request : Request) :
    (session'.serveWith draw' request).2 = (session.serveWith draw request).2 ∧
      Related frame id slots [] (session.serveWith draw request).1
        (session'.serveWith draw' request).1 := by
  cases request with
  | parse form text =>
    have both := (acceptWith_related related admits text form.expected form.isWhole).strict
    exact ⟨congrArg Answer.value both.1, both.2⟩
  | argument text start expected =>
    have both := (argumentWith_related related admits text start expected).strict
    exact ⟨congrArg Answer.argument both.1, both.2⟩
  | assign text =>
    have both := (assignFromWith_related related admits (.ofText text) (text.length + 1)).strict
    exact ⟨congrArg Answer.assigned both.1, both.2⟩

omit [Scalar α] in
theorem related_self {P : Generator → Prop} (idle : session.origins = [])
    (generator : P session.generator) :
    Related (Frame.sameWhere P) id True [] session session :=
  ⟨rfl, rfl, rfl, rfl, rfl, fun _ => ⟨rfl, idle, generator⟩, fun _ => ⟨rfl, rfl⟩⟩

theorem serve_idle (idle : session.origins = []) (request : Request) :
    (session.serve request).1.origins = [] := by
  have related : Related Frame.same id True [] session session := related_self idle trivial
  have served := serveWith_related related
    (.of_draws (Frame.Follows.unseeded session.environment)) request
  rw [serveWith_unseeded] at served
  exact (served.2.states (.ofText [])).2.1

/-- Without a draw the generator stays as it is: the request goes as if every draw failed. -/
theorem serve_generator (idle : session.origins = []) {request : Request}
    (undrawn : ¬session.Draws request) : (session.serve request).1.generator = session.generator := by
  have related := related_self (P := (· = session.generator)) idle rfl
  have refused : session.serveWith (fun _ => throw .exhausted) request = session.serve request :=
    not_not.mp (not_exists.mp undrawn _)
  have served := serveWith_related related (.of_draws fun _ => .throw .exhausted) request
  rw [refused] at served
  exact (served.2.states (.ofText [])).2.2

omit [Scalar α] in
theorem Interchangeable.related (same : session.Interchangeable session') :
    Related Frame.besidesTrace id False [] session session' where
  repository := congrArg Environment.repository same.environment
  registry := congrArg Environment.registry same.environment
  options := congrArg Environment.options same.environment
  bindings := congrArg Environment.bindings same.environment
  stop := same.stop
  states cursor := by
    refine ⟨same.idle.1, ?_⟩
    unfold stateAt
    rw [same.idle.1, same.idle.2, same.generator]
  slots := False.elim

omit [Scalar α] in
theorem Related.interchangeable (related : Related Frame.besidesTrace id False [] session session') :
    session.Interchangeable session' where
  environment := related.environment
  stop := related.stop
  idle := Frame.besidesTrace.origins (related.states (.ofText []))
  generator := congrArg State.generator (related.states (.ofText [])).2

namespace Interchangeable

variable (same : session.Interchangeable session')

include same

theorem serve (request : Request) :
    (session'.serve request).2 = (session.serve request).2 ∧
      (session.serve request).1.Interchangeable (session'.serve request).1 := by
  have served := serveWith_related same.related
    (.of_draws (Frame.Follows.unseeded_besidesTrace session.environment)) request
  rw [serveWith_unseeded, ← same.environment, serveWith_unseeded] at served
  exact ⟨served.1, served.2.interchangeable⟩

theorem perform (call : Call α) : (session.perform call).Interchangeable (session'.perform call) := by
  have served := same.serve
  obtain ⟨environment, stop, idle, generator⟩ := same
  have changed (change : Environment α → Environment α) := congrArg change environment
  cases call with
  | serve request => exact (served request).2
  | setVariable name v =>
    exact ⟨changed fun env => { env with bindings := env.bindings.insert name v }, stop, idle,
      generator⟩
  | clearVariables =>
    exact ⟨changed fun env => { env with bindings := .empty }, stop, idle, generator⟩
  | takeResult => exact ⟨environment, stop, idle, generator⟩
  | withOptions options => exact ⟨changed fun env => { env with options }, stop, idle, rfl⟩
  | withRegistry registry =>
    exact ⟨changed fun env => { env with registry }, stop, idle, generator⟩
  | register plugin =>
    exact ⟨changed fun env => { env with registry := env.registry.register plugin }, stop, idle,
      generator⟩
  | clearTrace => exact ⟨environment, stop, idle, generator⟩

theorem performAll (calls : List (Call α)) :
    (session.performAll calls).Interchangeable (session'.performAll calls) := by
  induction calls generalizing session session' with
  | nil => exact same
  | cons call calls ih => exact ih (same.perform call)

theorem answers (calls : List (Call α)) : session'.answers calls = session.answers calls := by
  induction calls generalizing session session' with
  | nil => rfl
  | cons call calls ih =>
    have further := ih (same.perform call)
    cases call with
    | serve request =>
      show (session'.serve request).2 :: _ = (session.serve request).2 :: _
      rw [(same.serve request).1]
      exact congrArg _ further
    -- A result that is taken is no answer: it is what an interchangeable session may lack.
    | _ => exact further

end Interchangeable

omit [Scalar α] in
theorem conclude_slots (expected : Option ValueType)
    (result : EStateM.Result (EvalError α) State (Value α)) {after : Session α}
    {answer : Except (EvalError α) (Value α)}
    (concluded : session.cleared.conclude expected result = (after, answer)) :
    after.result = answer.toOption ∧ (answer.isOk = false → after.stop = session.stop) ∧
      after.environment = session.environment := by
  cases result with
  | error error state =>
    cases concluded
    exact ⟨rfl, fun _ => rfl, rfl⟩
  | ok v state =>
    unfold conclude at concluded
    dsimp only at concluded
    split at concluded
    · cases concluded
      exact ⟨rfl, fun _ => rfl, rfl⟩
    · cases concluded
      exact ⟨rfl, fun failed => (nomatch failed), rfl⟩

theorem parse_slots {form : Form} {text : List Char} {after : Session α}
    {answer : Except (EvalError α) (Value α)} (parsed : session.parse form text = (after, answer)) :
    after.result = answer.toOption ∧ (answer.isOk = false → after.stop = session.stop) ∧
      after.environment = session.environment := by
  rw [parse_eq, accept_eq] at parsed
  exact conclude_slots _ _ parsed

theorem argument_slots {text : List Char} {start : Nat} {expected : Option ValueType}
    {after : Session α} {answer : Except (EvalError α) (Value α × Nat)}
    (asked : session.argument text start expected = (after, answer)) :
    after.result = session.result ∧ after.stop = session.stop ∧
      after.environment = session.environment := by
  rw [argument_eq] at asked
  unfold finished at asked
  split at asked
  · cases asked
    exact ⟨rfl, rfl, rfl⟩
  · cases asked
    exact ⟨rfl, rfl, rfl⟩

theorem assignFrom_slots (session : Session α) (cursor : Cursor) (rounds : Nat) :
    let after := (session.assignFrom cursor rounds).1
    after.result = session.result ∧ after.stop = session.stop ∧
      after.environment = { session.environment with bindings := after.bindings } := by
  induction rounds generalizing session cursor with
  | zero => exact ⟨rfl, rfl, rfl⟩
  | succ rounds ih =>
    rcases assignFrom_cases α cursor with ⟨answer, -, ends⟩ | ⟨-, -, evaluates⟩
    · rw [ends]
      exact ⟨rfl, rfl, rfl⟩
    · rw [evaluates]
      cases Run.expression session.environment (session.stateAt cursor.advance.advance) with
      | error error state => exact ⟨rfl, rfl, rfl⟩
      | ok v state =>
        rw [assigned]
        rcases separated_cases α state.cursor with ⟨answer, -, ends⟩ | ⟨-, further⟩
        · rw [ends]
          exact ⟨rfl, rfl, rfl⟩
        · rw [further]
          exact ih ((session.resume state).setVariable cursor.current.word v) _

theorem orderly_of_idle (idle : session.origins = []) : session.Orderly where
  idle := idle
  parse form text after answer := parse_slots
  argument text start expected after answer := argument_slots
  assign text after answer assigned := by
    have slots := assignFrom_slots session (.ofText text) (text.length + 1)
    unfold assign at assigned
    rw [assigned] at slots
    exact slots
  draws request := not_imp_comm.mp (serve_generator idle)
  forgets form text after error failed undrawn calls := by
    obtain ⟨-, stop, environment⟩ := parse_slots failed
    have served : session.serve (.parse form text) = (after, .value (.error error)) := by
      rw [serve, failed]
      rfl
    have left := serve_idle idle (.parse form text)
    have kept := serve_generator idle undrawn
    rw [served] at left kept
    have same : session.Interchangeable after := ⟨environment, stop rfl, ⟨idle, left⟩, kept⟩
    exact ⟨same.answers calls, same.performAll calls⟩

theorem perform_idle (idle : session.origins = []) (call : Call α) :
    (session.perform call).origins = [] := by
  cases call with
  | serve request => exact serve_idle idle request
  | _ => exact idle

theorem performAll_idle (idle : session.origins = []) (calls : List (Call α)) :
    (session.performAll calls).origins = [] := by
  induction calls generalizing session with
  | nil => exact idle
  | cons call calls ih => exact ih (perform_idle idle call)

/-- Whatever has been done to a session, it goes on in an orderly way. -/
theorem reached_orderly (repository : Repository α) (calls : List (Call α)) :
    ((ofRepository repository).performAll calls).Orderly :=
  orderly_of_idle (performAll_idle rfl calls)

/-- A text that has a value of some type although no draw succeeds draws nothing, if the plugins are
those of the library. -/
theorem not_draws_of_accepted
    (library : ∀ name plugin, session.registry.get? name = some plugin → plugin.IsLibrary)
    {form : Form} {text : List Char}
    (accepted :
      (session.acceptWith (fun _ => throw .exhausted) text none form.isWhole).2.isOk = true) :
    ¬session.Draws (.parse form text) := by
  obtain ⟨v, state, reads⟩ : ∃ v state,
      readingWith session.environment (fun _ => throw .exhausted) form.isWhole
        (session.cleared.stateAt (.ofText text)) = .ok v state := by
    unfold acceptWith at accepted
    generalize readingWith session.environment _ _ _ = result at accepted ⊢
    cases result with
    | ok v state => exact ⟨v, state, rfl⟩
    | error error state => cases accepted
  have same (draw : Draw α) : readingWith session.environment draw form.isWhole
      (session.cleared.stateAt (.ofText text)) = .ok v state := by
    have admits : Frame.same.Admits True session.environment session.registry
        (fun _ => throw .exhausted) draw :=
      ⟨fun _ => ⟨fun _ => .excused trivial⟩,
        fun _ name plugin found => library name plugin (Environment.get?_of_plugin? found),
        fun _ => .inl rfl⟩
    have started : Frame.same.holds [] (session.cleared.stateAt (.ofText text))
        (session.cleared.stateAt (.ofText text)) := ⟨rfl, rfl, trivial⟩
    have ends := (readingWith_follows admits form.isWhole).ends started
    rw [reads] at ends
    change Frame.Ends _ _ _ _ (readingWith session.environment draw _ _) at ends
    generalize readingWith session.environment draw _ _ = result at ends ⊢
    cases ends with
    | ok holds => rw [holds.1]
  rintro ⟨draw, differs⟩
  apply differs
  rw [← serveWith_unseeded]
  simp only [serveWith, acceptWith, same]

end Requests

/-- A text with a seeded random field that is read, but has another type than is asked for. -/
theorem reached_orderly_refused :
    let calls : List (Call Exact) := [.setVariable "x" (.constantScalar (Scalar.ofNat 2))]
    let session := (ofRepository (.ofMesh Mesh.tetrahedron)).performAll calls
    let text := "clamp(rand(7) + x, 0, 1)".toList
    (session.evaluateLogical text .volume).2.isOk = false ∧
      ¬session.Draws (.parse (.logical .volume) text) ∧
      session.Draws (.parse .whole "rand()".toList) ∧ session.Orderly := by
  intro calls session text
  have orderly : session.Orderly := reached_orderly _ calls
  refine ⟨by decide +kernel, ?_, orderly.draws _ (by decide +kernel), orderly⟩
  exact not_draws_of_accepted (fun _ _ => Plugin.library_isLibrary) (by decide +kernel)

end MeshLang.Session
