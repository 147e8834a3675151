import MeshLang.Plugin.Library
import MeshLang.Proofs.Parallel.Outcome

namespace MeshLang

variable {α β γ β' γ' : Type}

namespace Cursor

def move (base offset : Nat) (cursor : Cursor) : Cursor :=
  ⟨cursor.rest, base + cursor.base, cursor.offset + offset⟩

abbrev shift (distance : Nat) (cursor : Cursor) : Cursor := cursor.move distance 0

end Cursor

def Token.shift (distance : Nat) (token : Token) : Token :=
  ⟨token.kind, token.text, token.offset + distance⟩

namespace Cursor

theorem nextFrom_move (further past base offset skip : Nat) (text : List Char) :
    nextFrom (further + base) (offset + past) skip text =
      (nextFrom base offset skip text).map fun found =>
        (found.1.shift (further + past), found.2.move further past) := by
  induction text generalizing offset skip with
  | nil => cases skip <;> rfl
  | cons c rest ih =>
    have later (skip : Nat) := ih (offset + c.utf8Size) skip
    simp only [Nat.add_right_comm offset c.utf8Size past] at later
    cases skip with
    | succ skip => exact later skip
    | zero =>
      simp only [nextFrom]
      split
      · exact later _
      · simp only [Option.map_some, Token.shift, move, Option.some.injEq, Prod.mk.injEq, Token.mk.injEq,
          Cursor.mk.injEq, true_and]
        omega

theorem next?_move (base offset : Nat) (cursor : Cursor) :
    (cursor.move base offset).next? =
      cursor.next?.map fun found => (found.1.shift (base + offset), found.2.move base offset) :=
  nextFrom_move base offset cursor.base cursor.offset 0 cursor.rest

theorem place_move (base offset : Nat) (cursor : Cursor) :
    (cursor.move base offset).place = cursor.place + (base + offset) := by
  unfold place move
  dsimp only
  omega

theorem read_move (base offset : Nat) (cursor : Cursor) :
    (cursor.move base offset).read =
      (cursor.read.1.shift (base + offset), cursor.read.2.move base offset) := by
  have finish : (cursor.move base offset).finish = cursor.finish + (base + offset) := by
    rw [Cursor.finish, place_move, Nat.add_right_comm]
    rfl
  unfold read
  rw [next?_move, finish]
  cases cursor.next? with
  | none =>
    simp only [Option.map_none, Option.getD_none, move, Nat.add_right_comm]
    rfl
  | some found => rfl

@[simp]
theorem current_move (base offset : Nat) (cursor : Cursor) :
    (cursor.move base offset).current = cursor.current.shift (base + offset) :=
  congrArg Prod.fst (cursor.read_move base offset)

@[simp]
theorem advance_move (base offset : Nat) (cursor : Cursor) :
    (cursor.move base offset).advance = cursor.advance.move base offset :=
  congrArg Prod.snd (cursor.read_move base offset)

theorem place_shift (distance : Nat) (cursor : Cursor) :
    (cursor.shift distance).place = cursor.place + distance := cursor.place_move distance 0

theorem current_shift (distance : Nat) (cursor : Cursor) :
    (cursor.shift distance).current = cursor.current.shift distance := cursor.current_move distance 0

theorem advance_shift (distance : Nat) (cursor : Cursor) :
    (cursor.shift distance).advance = cursor.advance.shift distance := cursor.advance_move distance 0

end Cursor

theorem Token.number?_bars [Scalar α] {token : Token} {size : α}
    (found : (token.number? : Option α) = some size) :
    token.kind.barsOperand = true := by
  unfold Token.number? at found
  cases kind : token.kind <;> simp_all [TokenKind.barsOperand, TokenKind.isNumber]

namespace Arguments

variable [Scalar α]

def unsigned? (args : Arguments) : Option (α × Arguments) :=
  args.next?.bind fun found => found.1.number?.map fun size => (size, found.2)

def numbered (args : Arguments) (negative : Bool) (start : Arguments) :
    Except (PluginError α) (α × Arguments) :=
  match (start.unsigned? : Option (α × Arguments)) with
  | some (size, rest) => .ok (if negative then -size else size, rest)
  | none => .error (args.missing "number")

def ofSigned (args : Arguments) : Option (Bool × Token × Arguments) →
    Except (PluginError α) (α × Arguments)
  | none => .error (args.missing "number")
  | some (negative, token, rest) =>
    match (token.number? : Option α) with
    | some size => .ok (if negative then -size else size, rest)
    | none => .error (args.missing "number")

theorem scalar_eq (args : Arguments) :
    (args.scalar : Except (PluginError α) (α × Arguments)) =
      if args.current.kind = .minus then args.numbered true args.advance else args.numbered false args := by
  have reads (negative : Bool) (start : Arguments) :
      (args.ofSigned (start.next?.map fun found => (negative, found.1, found.2)) :
        Except (PluginError α) (α × Arguments)) = args.numbered negative start := by
    unfold numbered unsigned?
    cases start.next? with
    | none => rfl
    | some found =>
      dsimp only [Option.map_some, Option.bind_some, ofSigned]
      cases (found.1.number? : Option α) <;> rfl
  have signed : args.signed? =
      if args.current.kind = .minus then args.advance.next?.map fun found => (true, found.1, found.2)
      else args.next?.map fun found => (false, found.1, found.2) := by
    unfold signed?
    rcases args.read_cases with ⟨none, current, -⟩ | ⟨found, -⟩
    · rw [none, current]
      rfl
    · rw [found]
      rfl
  show args.ofSigned args.signed? = _
  rw [signed]
  by_cases minus : args.current.kind = .minus
  · rw [if_pos minus, if_pos minus]
    exact reads true args.advance
  · rw [if_neg minus, if_neg minus]
    exact reads false args

end Arguments

namespace Correspondence

/-- How many bytes two plugins have used of the texts behind two places: up to places that
correspond, or none of them falls on a place in its text. -/
inductive Stops (L : Correspondence α) (b b' : Cursor) : Nat → Nat → Prop where
  | fits {used used' : Nat} {rest rest' : List Char} :
      Text.dropBytes? used b.rest = some rest → Text.dropBytes? used' b'.rest = some rest' →
      L.places ⟨rest, b.base, b.offset + used⟩ ⟨rest', b'.base, b'.offset + used'⟩ → Stops L b b' used used'
  | beyond {used used' : Nat} : Text.dropBytes? used b.rest = none →
      Text.dropBytes? used' b'.rest = none → (L.exact → used = used') → Stops L b b' used used'

/-- Two scripts over the texts behind two places ask where operands can start and, told alike, answer
alike. -/
inductive Scripts (L : Correspondence α) (b b' : Cursor) (Q : β → γ → Prop) :
    Script α (Except (PluginError α) β) → Script α (Except (PluginError α) γ) → Prop where
  | ok {v : β} {w : γ} : Q v w → Scripts L b b' Q (.done (.ok v)) (.done (.ok w))
  | error {error error' : PluginError α} : (∀ name, L.Fails (.plugin name error) (.plugin name error')) →
      Scripts L b b' Q (.done (.error error)) (.done (.error error'))
  | ask {start start' : Nat} {expected : Option ValueType}
      {next : Except (EvalError α) (Value α × Nat) → Script α (Except (PluginError α) β)}
      {next' : Except (EvalError α) (Value α × Nat) → Script α (Except (PluginError α) γ)} :
      L.opens (.within b.place b.rest start) (.within b'.place b'.rest start') →
      (L.exact → start = start') →
      (∀ v c c', (Cursor.within b.place b.rest start).Precedes c →
        (Cursor.within b'.place b'.rest start').Precedes c' → L.places c c' →
        Scripts L b b' Q (next (.ok (v, c.place - b.place))) (next' (.ok (v, c'.place - b'.place)))) →
      (∀ error error', L.Fails error error' →
        Scripts L b b' Q (next (.error error)) (next' (.error error'))) →
      Scripts L b b' Q (.argument start expected next) (.argument start' expected next')

def Calls (L : Correspondence α) (b b' : Cursor) (plugin plugin' : Plugin α) : Prop :=
  L.Scripts b b' (fun answer other => answer.1 = other.1 ∧ L.Stops b b' answer.2 other.2)
    (plugin.call b.rest) (plugin'.call b'.rest)

variable {L : Correspondence α} {b b' : Cursor} {Q : β → γ → Prop} {S : β' → γ' → Prop}

theorem Scripts.andThen {script : Script α (Except (PluginError α) β)}
    {script' : Script α (Except (PluginError α) γ)}
    {next : Except (PluginError α) β → Script α (Except (PluginError α) β')}
    {next' : Except (PluginError α) γ → Script α (Except (PluginError α) γ')}
    (scripts : L.Scripts b b' Q script script')
    (rest : ∀ v w, Q v w → L.Scripts b b' S (next (.ok v)) (next' (.ok w)))
    (fails : ∀ error, next (.error error) = .done (.error error))
    (fails' : ∀ error, next' (.error error) = .done (.error error)) :
    L.Scripts b b' S (script.andThen next) (script'.andThen next') := by
  induction scripts with
  | ok related => exact rest _ _ related
  | error shared =>
    simp only [Script.andThen, fails, fails']
    exact .error shared
  | ask places same _ _ toldOk toldError => exact .ask places same toldOk toldError

structure Ahead (L : Correspondence α) (b b' : Cursor) (P : Cursor → Cursor → Prop)
    (args args' : Arguments) : Prop where
  places : P (args.shift b.place) (args'.shift b'.place)
  precedes : b.Precedes (args.shift b.place)
  precedes' : b'.Precedes (args'.shift b'.place)
  base : args.base = 0
  base' : args'.base = 0
  exactly : L.exact → args = args'

namespace Ahead

variable {P : Cursor → Cursor → Prop} {args args' : Arguments}

theorem start (enters : L.Enters P) (places : P b b') (exactly : L.exact → b.Meets b') :
    L.Ahead b b' P (.ofText b.rest) (.ofText b'.rest) := by
  have unmoved (cursor : Cursor) : cursor.Meets ((Arguments.ofText cursor.rest).shift cursor.place) :=
    ⟨rfl, rfl⟩
  exact ⟨enters.recount places (unmoved b) (unmoved b'), (unmoved b).precedes, (unmoved b').precedes, rfl,
    rfl, fun exact => by rw [(exactly exact).rest]⟩

theorem samePlace (ahead : L.Ahead b b' L.opens args args') (exactly : L.exact) :
    b'.place = b.place := by
  have places := ahead.places.resolve_right (L.sameHole exactly)
  have same := (L.samePlace exactly places).place
  rw [← ahead.exactly exactly, Cursor.place_shift, Cursor.place_shift] at same
  exact Nat.add_left_cancel same

theorem next (enters : L.Enters P) (ahead : L.Ahead b b' P args args') :
    (args.next? = none ∧ args'.next? = none) ∨
      (args.current.kind ≠ .finish ∧ args.next? = some (args.current, args.advance) ∧
        args'.next? = some (args'.current, args'.advance) ∧ args'.current.kind = args.current.kind ∧
        args'.current.text = args.current.text ∧
        ∀ {P' : Cursor → Cursor → Prop},
          P' (args.shift b.place).advance (args'.shift b'.place).advance →
          L.Ahead b b' P' args.advance args'.advance) := by
  have related := enters.token ahead.places
  have kind := L.kind related
  have text := L.text related
  rw [Cursor.current_shift, Cursor.current_shift] at kind text
  change args'.current.kind = args.current.kind at kind
  by_cases finish : args.current.kind = .finish
  · exact .inl ⟨args.next?_eq_none_iff.mpr finish, args'.next?_eq_none_iff.mpr (kind.trans finish)⟩
  · have more : args'.current.kind ≠ .finish := by rwa [kind]
    refine .inr ⟨finish, Cursor.next?_of_more finish, Cursor.next?_of_more more, kind, text, ?_⟩
    intro P' behind
    have onward (cursor : Cursor) : cursor.Precedes cursor.advance := Cursor.advance_precedes
    have precedes := ahead.precedes.trans (onward _)
    have precedes' := ahead.precedes'.trans (onward _)
    rw [Cursor.advance_shift] at precedes precedes' behind
    rw [Cursor.advance_shift] at behind
    exact ⟨behind, precedes, precedes', args.advance_base.trans ahead.base,
      args'.advance_base.trans ahead.base', fun exactly => by rw [ahead.exactly exactly]⟩

end Ahead

def Readings (L : Correspondence α) (b b' : Cursor) (P : Cursor → Cursor → Prop) (Q : β → γ → Prop)
    (P' : Cursor → Cursor → Prop) (reading : Reading α β) (reading' : Reading α γ) : Prop :=
  ∀ args args', L.Ahead b b' P args args' →
    L.Scripts b b' (fun answer other => Q answer.1 other.1 ∧ L.Ahead b b' P' answer.2 other.2)
      (reading args) (reading' args')

namespace Readings

variable {P P' P'' : Cursor → Cursor → Prop}

theorem pure {v : β} {w : γ} (related : Q v w) :
    L.Readings b b' P Q P (Pure.pure v : Reading α β) (Pure.pure w) :=
  fun _ _ ahead => .ok ⟨related, ahead⟩

theorem fail {error : PluginError α} (placeless : error.IsPlaceless) :
    L.Readings b b' P Q P' (Reading.fail error) (Reading.fail error) :=
  fun _ _ _ => .error fun _ => .refused placeless

theorem bind {first : Reading α β} {first' : Reading α γ} {next : β → Reading α β'}
    {next' : γ → Reading α γ'} (readings : L.Readings b b' P Q P' first first')
    (rest : ∀ v w, Q v w → L.Readings b b' P' S P'' (next v) (next' w)) :
    L.Readings b b' P S P'' (first >>= next) (first' >>= next') := by
  intro args args' ahead
  refine Scripts.andThen (readings args args' ahead) ?_ (fun _ => rfl) fun _ => rfl
  exact fun answer other both => rest _ _ both.1 _ _ both.2

theorem missing {args args' : Arguments} (ahead : L.Ahead b b' P args args') (what : String) :
    L.Scripts b b' Q (.done (.error (args.missing what))) (.done (.error (args'.missing what))) := by
  refine .error fun name => ?_
  unfold Arguments.missing
  exact .expected fun exactly => by rw [ahead.exactly exactly]

theorem sign (enters : L.Enters P) {kind : TokenKind}
    (behind : ∀ {c c'}, P c c' → c.current.kind ≠ .finish → c.current.kind = kind →
      P' c.advance c'.advance) :
    L.Readings b b' P Eq P' (.step fun args => args.sign kind : Reading α Unit)
      (.step fun args => args.sign kind) := by
  intro args args' ahead
  change L.Scripts b b' _ (.done (args.sign kind)) (.done (args'.sign kind))
  unfold Arguments.sign
  rcases ahead.next enters with ⟨none, none'⟩ | ⟨more, found, found', same, -, further⟩
  · rw [none, none']
    exact missing ahead _
  · rw [found, found']
    dsimp only
    rw [same]
    split
    · rename_i isKind
      have there : (args.shift b.place).current.kind = args.current.kind := by
        rw [Cursor.current_shift]
        rfl
      exact .ok ⟨rfl, further (behind ahead.places (there ▸ more) (there.trans isKind))⟩
    · exact missing ahead _

theorem unsigned [Scalar α] {args args' : Arguments} (ahead : L.Ahead b b' L.opens args args') :
    ((args.unsigned? : Option (α × Arguments)) = none ∧ (args'.unsigned? : Option (α × Arguments)) = none) ∨
      ∃ size : α, args.unsigned? = some (size, args.advance) ∧
        args'.unsigned? = some (size, args'.advance) ∧ L.Ahead b b' L.places args.advance args'.advance := by
  have none_of {args : Arguments} (more : args.current.kind ≠ .finish)
      (none : (args.current.number? : Option α) = none) :
      (args.unsigned? : Option (α × Arguments)) = Option.none := by
    unfold Arguments.unsigned?
    rw [Cursor.next?_of_more more]
    simp [none]
  obtain ⟨places | hole, precedes, precedes', base, base', exactly⟩ := ahead
  · have ahead : L.Ahead b b' L.places args args' := ⟨places, precedes, precedes', base, base', exactly⟩
    have there : (args.shift b.place).current.kind = args.current.kind := by
      rw [Cursor.current_shift]
      rfl
    rcases ahead.next enters_places with ⟨none, none'⟩ | ⟨more, found, found', kind, text, further⟩
    · exact .inl (by simp [Arguments.unsigned?, none, none'])
    · have same : (args'.current.number? : Option α) = args.current.number? := by
        unfold Token.number?
        rw [kind, text]
      cases number : (args.current.number? : Option α) with
      | none => exact .inl ⟨none_of more number, none_of (kind ▸ more) (same.trans number)⟩
      | some size =>
        refine .inr ⟨size, ?_, ?_, further (L.advance places (there ▸ Token.number?_bars number))⟩
        · simp [Arguments.unsigned?, found, number]
        · simp [Arguments.unsigned?, found', same, number]
  · obtain ⟨word, opens, -⟩ := L.hole hole
    rw [Cursor.current_shift] at word opens
    change args.current.kind = .word at word
    change args'.current.kind = .openParen at opens
    refine .inl ⟨none_of (by rw [word]; decide) ?_, none_of (by rw [opens]; decide) ?_⟩
    · simp [Token.number?, word, TokenKind.isNumber]
    · simp [Token.number?, opens, TokenKind.isNumber]

theorem scalar [Scalar α] :
    L.Readings b b' L.opens Eq L.places (.step Arguments.scalar : Reading α α)
      (.step Arguments.scalar) := by
  intro args args' ahead
  change L.Scripts b b' _ (.done args.scalar) (.done args'.scalar)
  have ends {negative : Bool} {start start' : Arguments} (ahead' : L.Ahead b b' L.opens start start') :
      L.Scripts b b' (fun answer other => answer.1 = other.1 ∧ L.Ahead b b' L.places answer.2 other.2)
        (.done (args.numbered negative start)) (.done (args'.numbered negative start')) := by
    unfold Arguments.numbered
    rcases unsigned ahead' with ⟨none, none'⟩ | ⟨size, found, found', behind⟩
    · rw [none, none']
      exact missing ahead _
    · rw [found, found']
      exact .ok ⟨rfl, behind⟩
  rw [args.scalar_eq, args'.scalar_eq]
  rcases ahead.places with places | hole
  · have there : (args.shift b.place).current.kind = args.current.kind := by
      rw [Cursor.current_shift]
      rfl
    have kind := L.kind (L.current places)
    rw [Cursor.current_shift, Cursor.current_shift] at kind
    change args'.current.kind = args.current.kind at kind
    rw [kind]
    split
    · rename_i minus
      have more : args.current.kind ≠ .finish := by rw [minus]; decide
      have signed : L.Ahead b b' L.places args args' := { ahead with places }
      rcases signed.next enters_places with ⟨none, -⟩ | ⟨-, -, -, -, -, further⟩
      · rw [Cursor.next?_of_more more] at none
        cases none
      · exact ends (further (L.opened places (there ▸ more)))
    · exact ends ahead
  · obtain ⟨word, opens, -⟩ := L.hole hole
    rw [Cursor.current_shift] at word opens
    change args.current.kind = .word at word
    change args'.current.kind = .openParen at opens
    rw [word, opens]
    exact ends ahead

theorem within_shift {b : Cursor} {args : Arguments} (base : args.base = 0)
    (precedes : b.Precedes (args.shift b.place)) :
    Cursor.within b.place b.rest args.offset = args.shift b.place := by
  obtain ⟨rest, _, offset⟩ := args
  subst base
  exact (show Cursor.Precedes ⟨b.rest, b.place, 0⟩ _ from precedes).within_of_base rfl

theorem meets_behind {b c : Cursor} {args : Arguments} (base : args.base = 0)
    (precedes : b.Precedes (args.shift b.place)) (onward : (args.shift b.place).Precedes c) :
    c.Meets (Cursor.shift b.place ⟨(Text.dropBytes? (c.place - b.place - args.offset) args.rest).getD [],
      args.base, c.place - b.place⟩) := by
  have later := (precedes.trans onward).place_le
  have rest := onward.dropBytes?
  have place : args.place = args.offset := by rw [Cursor.place, base, Nat.zero_add]
  rw [Cursor.place_shift, place, Nat.add_comm, ← Nat.sub_sub] at rest
  refine ⟨congrArg (Option.getD · []) rest, ?_⟩
  rw [Cursor.place_shift, Cursor.place, base, Nat.zero_add, Nat.sub_add_cancel later]

theorem expression (expected : Option ValueType) :
    L.Readings b b' L.opens Eq L.places (Reading.expression expected : Reading α (Value α))
      (Reading.expression expected) := by
  intro args args' ahead
  refine .ask ?_ (fun exactly => by rw [ahead.exactly exactly]) ?_ ?_
  · rw [within_shift ahead.base ahead.precedes, within_shift ahead.base' ahead.precedes']
    exact ahead.places
  · intro v c c' onward onward' places
    rw [within_shift ahead.base ahead.precedes] at onward
    rw [within_shift ahead.base' ahead.precedes'] at onward'
    have behind := meets_behind ahead.base ahead.precedes onward
    have behind' := meets_behind ahead.base' ahead.precedes' onward'
    refine .ok ⟨rfl, L.recount places behind behind', (ahead.precedes.trans onward).trans behind.precedes,
      (ahead.precedes'.trans onward').trans behind'.precedes, ahead.base, ahead.base', fun exactly => ?_⟩
    obtain rfl := ahead.exactly exactly
    rw [(L.samePlace exactly places).place, ahead.samePlace exactly]
  · intro error error' fails
    exact .error fun name => .argument (fun exactly => by rw [ahead.exactly exactly]) fails

theorem used_shift {b : Cursor} {args : Arguments} (base : args.base = 0)
    (precedes : b.Precedes (args.shift b.place)) :
    Text.dropBytes? args.offset b.rest = some args.rest ∧
      (args.shift b.place).Meets ⟨args.rest, b.base, b.offset + args.offset⟩ := by
  have place : (args.shift b.place).place = b.place + args.offset := by
    rw [Cursor.place_shift, Cursor.place, base, Nat.zero_add, Nat.add_comm]
  have rest := precedes.dropBytes?
  rw [place, Nat.add_sub_cancel_left] at rest
  exact ⟨rest, rfl, by rw [place, Cursor.place, Cursor.place, Nat.add_assoc]⟩

theorem consumed :
    L.Readings b b' L.places (L.Stops b b') L.places (Reading.consumed : Reading α Nat)
      Reading.consumed := by
  intro args args' ahead
  refine .ok ⟨?_, ahead⟩
  obtain ⟨rest, meets⟩ := used_shift ahead.base ahead.precedes
  obtain ⟨rest', meets'⟩ := used_shift ahead.base' ahead.precedes'
  exact .fits rest rest' (L.recount ahead.places meets meets')

theorem run {reading : Reading α β} {reading' : Reading α γ}
    (readings : L.Readings b b' P Q P' reading reading') (enters : L.Enters P) (places : P b b')
    (exactly : L.exact → b.Meets b') : L.Scripts b b' Q (reading.run b.rest) (reading'.run b'.rest) := by
  refine Scripts.andThen (readings _ _ (.start enters places exactly)) ?_ (fun _ => rfl) fun _ => rfl
  exact fun _ _ both => .ok both.1

end Readings

end Correspondence

namespace Plugin

open Correspondence

variable [Scalar α] {L : Correspondence α} {b b' : Cursor}

theorem bounded_readings {P : Cursor → Cursor → Prop} (enters : L.Enters P) :
    L.Readings b b' P Eq L.places (bounded : Reading α (Bounded α)) bounded := by
  refine .bind (.sign enters fun places more _ => enters.opens places more) fun _ _ _ => ?_
  refine .bind (.expression none) fun value _ same => ?_
  subst same
  split
  · exact .fail trivial
  · have comma : L.Readings b b' L.places Eq L.opens
        (.step fun args => args.sign .comma : Reading α Unit) (.step fun args => args.sign .comma) :=
      .sign enters_places fun places more _ => L.opened places more
    refine .bind comma fun _ _ _ => ?_
    refine .bind .scalar fun low _ same => ?_
    subst same
    refine .bind comma fun _ _ _ => ?_
    refine .bind .scalar fun high _ same => ?_
    subst same
    refine .bind (.sign enters_places fun places _ closes => L.advance places (by rw [closes]; rfl))
      fun _ _ _ => ?_
    split
    · exact .fail trivial
    · exact .pure rfl

theorem ofBounded_scripts {P : Cursor → Cursor → Prop} (enters : L.Enters P) (places : P b b')
    (exactly : L.exact → b.Meets b') (make : Bounded α → Value α) :
    L.Scripts b b' (fun answer other => answer.1 = other.1 ∧ L.Stops b b' answer.2 other.2)
      ((ofBounded make).run b.rest) ((ofBounded make).run b'.rest) := by
  have readings : L.Readings b b' P
      (fun answer other => answer.1 = other.1 ∧ L.Stops b b' answer.2 other.2) L.places
      (ofBounded make) (ofBounded make) := by
    refine .bind (bounded_readings enters) fun range _ same => ?_
    subst same
    exact .bind .consumed fun used used' stops => .pure ⟨rfl, stops⟩
  exact readings.run enters places exactly

def IsLibrary (plugin : Plugin α) : Prop := plugin = clamp ∨ plugin = inRange

theorem IsLibrary.calls {plugin : Plugin α} (isLibrary : plugin.IsLibrary)
    {P : Cursor → Cursor → Prop} (enters : L.Enters P) (places : P b b')
    (exactly : L.exact → b.Meets b') : L.Calls b b' plugin plugin := by
  rcases isLibrary with rfl | rfl
  · exact ofBounded_scripts enters places exactly _
  · exact ofBounded_scripts enters places exactly _

theorem library_isLibrary {name : String} {plugin : Plugin α}
    (found : library.get? name = some plugin) : plugin.IsLibrary := by
  unfold library Registry.register Registry.get? at found
  rw [OrderedMap.get?_insert] at found
  split at found
  · exact .inr (Option.some.inj found).symm
  · rw [OrderedMap.get?_insert] at found
    split at found
    · exact .inl (Option.some.inj found).symm
    · cases found

end Plugin

end MeshLang
