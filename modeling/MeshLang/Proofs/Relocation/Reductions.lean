import MeshLang.Proofs.Parallel.Steps
import MeshLang.Proofs.Plugin.Bounded
import MeshLang.Proofs.Plugin.Library
import MeshLang.Proofs.Relocation.Motion

namespace MeshLang

variable {α : Type}

def Cursor.Draws (cursor : Cursor) : Prop :=
  (cursor.Calls "rand" ∨ cursor.Calls "randNormal") ∧ cursor.advance.advance.current.kind = .closeParen

namespace Script

/-- Two scripts ask alike and, told the same further on, answer the same further on. -/
inductive Shifts {β : Type} (distance : Nat) : Script α (Except (PluginError α) β) →
    Script α (Except (PluginError α) β) → Prop where
  | done {answer : Except (PluginError α) β} :
      Shifts distance (.done answer) (.done (answer.mapError (PluginError.shift distance)))
  | argument {start : Nat} {expected : Option ValueType}
      {next next' : Except (EvalError α) (Value α × Nat) → Script α (Except (PluginError α) β)} :
      (∀ told, Shifts distance (next told) (next' (shiftFailure distance told))) →
      Shifts distance (.argument start expected next) (.argument start expected next')

theorem shifts_zero {β : Type} (script : Script α (Except (PluginError α) β)) : script.Shifts 0 script := by
  induction script with
  | done answer =>
    have same : answer.mapError (PluginError.shift 0) = answer := by
      cases answer with
      | ok answer => rfl
      | error error => exact congrArg Except.error error.shift_zero
    have shifts : Shifts 0 (.done answer) (.done (answer.mapError (PluginError.shift 0))) := .done
    rwa [same] at shifts
  | argument start expected next ih =>
    refine .argument fun told => ?_
    rw [shiftFailure_zero]
    exact ih told

end Script

/-- The plugin does not look into the failures that it is told. -/
def Plugin.Shifts (plugin : Plugin α) (distance : Nat) : Prop :=
  ∀ text, (plugin.call text).Shifts distance (plugin.call text)

theorem Plugin.shifts_zero (plugin : Plugin α) : plugin.Shifts 0 := fun _ => Script.shifts_zero _

theorem PluginError.IsPlain.shift {error : PluginError α} (plain : error.IsPlain) (distance : Nat) :
    error.shift distance = error := by
  cases error with
  | argument offset error => exact plain.elim
  | _ => simp only [PluginError.shift]

theorem PluginError.IsPlain.outcome {β : Type} {answer : Except (PluginError α) β} (distance : Nat)
    (plain : Meets (fun _ => True) PluginError.IsPlain answer) :
    answer.mapError (PluginError.shift distance) = answer := by
  cases answer with
  | ok answer => rfl
  | error error => exact congrArg Except.error (IsPlain.shift plain distance)

namespace Plugin

variable [Scalar α]

theorem bounds_plain (args : Arguments) :
    Meets (fun _ => True) PluginError.IsPlain (bounds args : Except (PluginError α) _) := by
  refine .bind (args.sign_plain _) fun first _ => .bind first.2.scalar_plain fun low _ => ?_
  refine .bind (low.2.sign_plain _) fun second _ => .bind second.2.scalar_plain fun high _ => ?_
  refine .bind (high.2.sign_plain _) fun last _ => ?_
  dsimp only
  split <;> trivial

theorem answerBounded_plain (make : Bounded α → Value α) (v : Value α) (args : Arguments) :
    Meets (fun _ => True) PluginError.IsPlain (answerBounded make v args) := by
  unfold answerBounded
  split
  · trivial
  · exact .map ((bounds_plain args).weaken fun _ _ => trivial)

theorem IsLibrary.shifts {plugin : Plugin α} (isLibrary : plugin.IsLibrary) (distance : Nat) :
    plugin.Shifts distance := by
  intro text
  obtain ⟨make, call⟩ := isLibrary.bounded
  rw [call, Plugin.ofBounded_run]
  have opens := (Arguments.ofText text).sign_plain (α := α) .openParen
  change Meets _ _ (Arguments.ofText text).openList at opens
  generalize (Arguments.ofText text).openList = opened at opens ⊢
  rcases opened with error | ⟨_, args⟩
  · have same : (Except.error error : Except (PluginError α) (Value α × Nat)).mapError
        (PluginError.shift distance) = .error error := PluginError.IsPlain.outcome distance opens
    have answers : Script.Shifts distance (.done (.error error : Except (PluginError α) (Value α × Nat)))
        (.done (Except.mapError (PluginError.shift distance) (.error error))) := .done
    rwa [same] at answers
  · refine .argument fun told => ?_
    let goesOn : Except (PluginError α) (Value α × Nat) :=
      args.afterExpression told >>= fun answer => answerBounded make answer.1 answer.2
    have answers : Script.Shifts distance (.done goesOn)
        (.done (goesOn.mapError (PluginError.shift distance))) := .done
    cases told with
    | ok answer =>
      have same := PluginError.IsPlain.outcome distance (answerBounded_plain make answer.1
        ⟨(Text.dropBytes? (answer.2 - args.offset) args.rest).getD [], args.base, answer.2⟩)
      change Script.Shifts distance (.done (answerBounded make answer.1 _))
        (.done (answerBounded make answer.1 _))
      change Script.Shifts distance _
        (.done (Except.mapError _ (answerBounded make answer.1 _))) at answers
      rwa [same] at answers
    | error error =>
      have same : (PluginError.argument args.offset error).shift distance =
          .argument args.offset (error.shift distance) := by simp only [PluginError.shift]
      change Script.Shifts distance _ (.done (.error (PluginError.shift distance _))) at answers
      rwa [same] at answers

end Plugin

/-- What an environment offers does not depend on where it is used, and not on the random numbers
ahead where these differ. -/
structure Environment.Relocates (env : Environment α) (motion : Motion) (start : Cursor) : Prop where
  plugins : ∀ name plugin, env.registry.get? name = some plugin → plugin.Shifts motion.distance
  quiet : motion.reseed = id ∨ ∀ cursor, env.registry.Reaches start cursor → ¬ cursor.Draws

namespace Motion

variable {motion : Motion} {registry : Registry α} {start : Cursor} {n n' : Nat}

structure Recurses (motion : Motion) (registry : Registry α) (start : Cursor) (n n' : Nat)
    (recurse recurse' : Recursion α) : Prop where
  fresh : ∀ bound state, Stands registry start n n' state →
    motion.Carries registry state.cursor (Correspondence.behind state) id state (recurse none bound)
      (recurse' none bound)
  further : ∀ v bound, motion.Tracks registry start n n' id (recurse (some v) bound)
    (recurse' (some v) bound)

theorem Recurses.tracks {recurse recurse' : Recursion α}
    (recurses : motion.Recurses registry start n n' recurse recurse') (bound : Nat) :
    motion.Tracks registry start n n' id (recurse none bound) (recurse' none bound) :=
  fun state stands => (recurses.fresh bound state stands).fromBehind

namespace Tracks

variable {recurse recurse' : Recursion α}

theorem argumentsFrom (recurses : motion.Recurses registry start n n' recurse recurse')
    (opening : Token) (rounds : Nat) :
    motion.Tracks registry start n n' (List.map (Argument.shift motion.distance))
      (Run.argumentsFrom recurse opening rounds)
      (Run.argumentsFrom recurse' (opening.shift motion.distance) rounds) := by
  induction rounds with
  | zero => exact fun _ _ => .exhausted
  | succ rounds ih =>
    refine .bind .current fun first => .bind (recurses.tracks 0) fun v => .bind .current fun token => ?_
    rw [Token.shift_kind, Token.shift_invalid, Token.shift_unclosed, Token.shift_unexpected]
    split
    · exact .discarded .advance (.bind ih fun args => .pure ((⟨v, first⟩ : Argument α) :: args))
    · exact .discarded .advance (.pure [(⟨v, first⟩ : Argument α)])
    · exact .throw _
    · exact .throw _
    · exact .throw _

theorem arguments (recurses : motion.Recurses registry start n n' recurse recurse') :
    motion.Tracks registry start n n' (List.map (Argument.shift motion.distance))
      (Run.arguments recurse) (Run.arguments recurse') := by
  refine .bind (.expect _) fun opening => .bind .current fun token => ?_
  rw [Token.shift_kind]
  split
  · exact .discarded .advance (.pure [])
  · intro state stands
    have carries := argumentsFrom recurses opening (state.cursor.rest.length + 1) state stands
    exact ⟨carries.moved, carries.goes, carries.arrives⟩

end Tracks

namespace Tracks

variable [Scalar α] (env : Environment α)

theorem number (token : Token) :
    motion.Tracks registry start n n' id (Run.number token : Run α (Value α))
      (Run.number (token.shift motion.distance)) := by
  unfold Run.number
  rw [Token.shift_text]
  split
  · exact .pure _
  · rw [Token.shift_diagnostic]
    exact .throw _

omit [Scalar α] in
theorem relabelled (kind : Kind) (result : Except (FieldError α) (Value α)) :
    motion.Tracks registry start n n' id (do return (← Run.liftField result).relabel kind)
      (do return (← Run.liftField result).relabel kind) :=
  .bind (.liftField result) fun v => .pure (v.relabel kind)

theorem unary (options : Options) (op : UnaryOp) (v : Value α) (place : Token) :
    motion.Tracks registry start n n' id (Run.unary options op v place)
      (Run.unary options op v (place.shift motion.distance)) := by
  unfold Run.unary
  split
  · dsimp only
    rw [Token.shift_mismatch]
    exact .throw _
  · exact .bind (.note _ _) fun _ => .relabelled _ _

theorem binary (options : Options) (op : BinaryOp) (v w : Value α) (place : Token) :
    motion.Tracks registry start n n' id (Run.binary options op v w place)
      (Run.binary options op v w (place.shift motion.distance)) := by
  unfold Run.binary
  split
  · rw [Token.shift_mismatch]
    exact .throw _
  · rw [checkLocations_shift]
    exact .bind (.lift _) fun _ => .bind (.note _ _) fun _ => .relabelled _ _

theorem choice (options : Options) (condition v w : Value α) (question colon : Token) :
    motion.Tracks registry start n n' id (Run.choice options condition v w question colon)
      (Run.choice options condition v w (question.shift motion.distance)
        (colon.shift motion.distance)) := by
  unfold Run.choice
  split
  · rw [Token.shift_mismatch]
    exact .throw _
  · rw [checkLocations_shift, checkLocations_shift, checkLocations_shift]
    exact .bind (.lift _) fun _ => .bind (.lift _) fun _ => .bind (.lift _) fun _ =>
      .bind (.note _ _) fun _ => .relabelled _ _

omit [Scalar α] in
theorem part (options : Options) (v : Value α) (name : Token) :
    motion.Tracks registry start n n' id (Run.part options v name)
      (Run.part options v (name.shift motion.distance)) := by
  unfold Run.part
  rw [Token.shift_word]
  split
  · exact .bind (.note _ _) fun _ => .pure _
  · dsimp only
    rw [Token.shift_mismatch_withHint]
    · exact .throw _
    · refine noPlace_of_head ?_
      generalize v.kind = kind
      cases kind <;> decide

theorem tensorPart (v : Value α) (name : Token) (function : TensorFunction) :
    motion.Tracks registry start n n' id (Run.tensorPart env v name function)
      (Run.tensorPart env v (name.shift motion.distance) function) := by
  refine .discarded (.expect _) (.discarded (.expect _) ?_)
  rw [Token.shift_word, Token.shift_mismatch]
  have applied : motion.Tracks registry start n n' id
      (do
        Run.note env.options s!"{v.describe}.{name.word}() -> {(function.resultKind v.kind).text}"
        Run.liftField (v.applyTensor function))
      (do
        Run.note env.options s!"{v.describe}.{name.word}() -> {(function.resultKind v.kind).text}"
        Run.liftField (v.applyTensor function)) :=
    .bind (.note _ _) fun _ => .liftField _
  split
  · exact .thrown _ _ _
  · exact applied

theorem namedPart (v : Value α) :
    motion.Tracks registry start n n' id (Run.namedPart env v) (Run.namedPart env v) := by
  refine .bind .current fun token => ?_
  rw [Token.shift_kind, Token.shift_unexpected]
  split
  · exact .thrown _ _ _
  · refine .bind .advance fun name => .bind .current fun following => ?_
    rw [Token.shift_word, Token.shift_kind]
    split
    · split
      · exact tensorPart env v name _
      · exact part _ v name
    · exact part _ v name

theorem applied (name : Token) (builtin : Builtin) (least most : Nat) (args : List (Argument α)) :
    motion.Tracks registry start n n' id (Run.applied env name builtin least most args)
      (Run.applied env (name.shift motion.distance) builtin least most
        (args.map (Argument.shift motion.distance))) := by
  unfold Run.applied
  rw [List.length_map, wrongCount_shift, env.apply_shift]
  split
  · exact .thrown _ _ _
  · exact .lift _

theorem tabulated (name : Token) (table : LookupTable α) (args : List (Argument α)) :
    motion.Tracks registry start n n' id (Run.tabulated env name table args)
      (Run.tabulated env (name.shift motion.distance) table
        (args.map (Argument.shift motion.distance))) := by
  unfold Run.tabulated
  rw [env.applyTable_shift]
  refine .bind (.lift _) fun v => ?_
  obtain _ | ⟨a, _ | ⟨b, rest⟩⟩ := args
  · exact .pure _
  · exact .bind (.note _ _) fun _ => .pure _
  · exact .pure _

theorem random (isNormal : Bool) (seed : Option UInt64) (same : seed = none → motion.reseed = id) :
    motion.Tracks registry start n n' id (Run.random env isNormal seed)
      (Run.random env isNormal seed) := by
  cases seed with
  | some seed => exact .pure _
  | none =>
    intro state _
    refine ⟨fun footing => ?_, ⟨.refl, rfl⟩, fun _ _ answered => ?_⟩
    · have unmoved (generator : Generator) : motion.reseed generator = generator :=
        congrFun (same rfl) generator
      have draws (state : State) : Run.random env isNormal none state =
          .ok (.scalar .volume (Generator.sample isNormal env.mesh.cells.length state.generator).1)
            { state with
              generator := (Generator.sample isNormal env.mesh.cells.length state.generator).2 } := rfl
      have kept : (state.moved footing).generator = state.generator := unmoved _
      have ends : motion.Ends footing id (Run.random env isNormal none state)
          (.ok (.scalar .volume (Generator.sample isNormal env.mesh.cells.length state.generator).1)
            (State.moved footing { state with
              generator := (Generator.sample isNormal env.mesh.cells.length state.generator).2 })) := .ok
      simp only [State.moved, unmoved] at ends
      rw [draws (state.moved footing), kept]
      exact ends
    · cases answered
      exact ⟨⟨⟨.refl, rfl⟩, rfl⟩, .refl⟩

end Tracks

end Motion

end MeshLang
