import MeshLang.Proofs.Diagnostics
import MeshLang.Proofs.Grammar.Halting
import MeshLang.Proofs.Local.Cut
import MeshLang.Proofs.SignificantTokens
import MeshLang.Proofs.VariableTransparency

namespace MeshLang

variable {α : Type} [Scalar α]

def Environment.takesExpressions (env : Environment α) (name : String) : Bool :=
  !env.takesName name && (Builtin.ofName? name).all fun builtin => builtin.shape ≠ .seed

/-- Behind `count` tokens and the part `before` of the text stands the name of the plugin, where an
operand can start, and it is called. -/
structure Environment.CallsPlugin (env : Environment α) (plugin : Plugin α) (text before : List Char)
    (name : String) (behind : List Char) (count : Nat) : Prop where
  split : text = before ++ (name.toList ++ behind)
  token : ((Cursor.ofText text).skip count).current = ⟨.word, name.toList, Text.byteSize before⟩
  opens : ((Cursor.ofText text).skip (count + 1)).current.kind = .openParen
  called : env.plugin? name = some plugin
  starts : ∀ j, j + 1 = count → ((Cursor.ofText text).skip j).current.kind.barsOperand = false
  inside : ∀ j, j + 2 = count → ((Cursor.ofText text).skip j).current.kind = .word →
    ((Cursor.ofText text).skip (j + 1)).current.kind = .openParen →
    env.takesExpressions ((Cursor.ofText text).skip j).current.word = true
  parted : ∀ j, j + 3 = count → ((Cursor.ofText text).skip j).current.kind = .point →
    ((Cursor.ofText text).skip (j + 1)).current.kind = .word →
    ((Cursor.ofText text).skip (j + 2)).current.kind ≠ .openParen

/-- The next token is not the name, and it calls no plugin but those of the library. -/
structure Environment.Ordinary (env : Environment α) (name : String) (cursor : Cursor) : Prop where
  other : cursor.current.word ≠ name
  library : cursor.current.kind = .word → cursor.advance.current.kind = .openParen →
    ∀ plugin, env.plugin? cursor.current.word = some plugin → plugin.IsLibrary

/-- The tokens before a place of one text, and all tokens of another text. -/
structure Environment.Surrounds (env : Environment α) (name : String) (text : List Char) (count : Nat)
    (tail : List Char) : Prop where
  ahead : ∀ j < count, env.Ordinary name ((Cursor.ofText text).skip j)
  behind : ∀ j, env.Ordinary name ((Cursor.ofText tail).skip j)

theorem Environment.Ordinary.recount {env : Environment α} {name : String} {cursor other : Cursor}
    (ordinary : env.Ordinary name cursor) (meets : cursor.Meets other) : env.Ordinary name other := by
  obtain ⟨unnamed, library⟩ := ordinary
  rw [← meets.current] at unnamed library
  rw [← meets.advance.current] at library
  exact ⟨unnamed, library⟩

theorem Environment.Ordinary.of_none {env : Environment α} {name : String} {cursor : Cursor}
    (other : cursor.current.word ≠ name) (none : (env.plugin? cursor.current.word).isNone = true) :
    env.Ordinary name cursor := by
  refine ⟨other, fun _ _ plugin found => ?_⟩
  rw [found] at none
  cases none

theorem Environment.Surrounds.of_none {env : Environment α} {name : String} {text tail : List Char}
    {count : Nat} (isName : IsName name)
    (ahead : ∀ j < count, ((Cursor.ofText text).skip j).current.word ≠ name ∧
      (env.plugin? ((Cursor.ofText text).skip j).current.word).isNone = true)
    (n : Nat) (ends : ((Cursor.ofText tail).skip n).current.kind = .finish)
    (behind : ∀ j < n, ((Cursor.ofText tail).skip j).current.word ≠ name ∧
      (env.plugin? ((Cursor.ofText tail).skip j).current.word).isNone = true) :
    env.Surrounds name text count tail := by
  refine ⟨fun j below => .of_none (ahead j below).1 (ahead j below).2, Cursor.forall_skip ?_ (.ofText tail) n ends
    fun j below => .of_none (behind j below).1 (behind j below).2⟩
  intro cursor finish
  refine ⟨?_, fun word => by rw [finish] at word; cases word⟩
  rw [Token.word, (Cursor.ended_of_finish finish).1]
  rintro rfl
  cases isName

/-- The name stands at a place with another one behind it, where a parenthesis opens. -/
structure CallSite (name : String) (c behind : Cursor) : Prop where
  word : c.current.kind = .word
  name : c.current.word = name
  past : behind.Meets c.advance
  opens : c.advance.current.kind = .openParen

namespace Environment.CallsPlugin

variable {env : Environment α} {plugin : Plugin α} {text before behind : List Char} {name : String}
  {count : Nat}

omit [Scalar α] in
theorem of_two (split : text = before ++ (name.toList ++ behind))
    (token : ((Cursor.ofText text).skip 2).current = ⟨.word, name.toList, Text.byteSize before⟩)
    (opens : ((Cursor.ofText text).skip 3).current.kind = .openParen)
    (called : env.plugin? name = some plugin)
    (starts : ((Cursor.ofText text).skip 1).current.kind.barsOperand = false)
    (inside : env.takesExpressions (Cursor.ofText text).current.word = true) :
    env.CallsPlugin plugin text before name behind 2 := by
  refine ⟨split, token, opens, called, fun j here => ?_, fun j here _ _ => ?_, fun j here => by omega⟩
  · obtain rfl : j = 1 := by omega
    exact starts
  · obtain rfl : j = 0 := by omega
    exact inside

omit [Scalar α] in
theorem more (call : env.CallsPlugin plugin text before name behind count) :
    ((Cursor.ofText text).skip count).current.kind ≠ .finish := by
  rw [call.token]
  simp

omit [Scalar α] in
theorem rest (call : env.CallsPlugin plugin text before name behind count) :
    (Cursor.ofText text).skip (count + 1) = ⟨behind, 0, Text.byteSize before + Text.byteSize name.toList⟩ ∧
      ∀ j ≤ count, ∃ taken, ((Cursor.ofText text).skip j).rest = taken ++ (name.toList ++ behind) ∧
        ((Cursor.ofText text).skip j).place + Text.byteSize taken = Text.byteSize before := by
  obtain ⟨⟨gap, split, place⟩, stop, -⟩ := Cursor.finds_of_more call.more
  rw [call.token] at split place stop
  dsimp only at split place
  rw [Cursor.advance_skip] at split stop
  have reach (j : Nat) (le : j ≤ count) : ∃ taken, ((Cursor.ofText text).skip j).rest =
      taken ++ (name.toList ++ ((Cursor.ofText text).skip (count + 1)).rest) ∧
        ((Cursor.ofText text).skip j).place + Text.byteSize taken = Text.byteSize before := by
    obtain ⟨between, further, offset⟩ := ((Cursor.ofText text).skip j).precedes_skip (count - j)
    rw [← Cursor.skip_add, Nat.add_sub_cancel' le] at further offset
    refine ⟨between ++ gap, ?_, ?_⟩
    · rw [further, split, List.append_assoc]
    · rw [Text.byteSize_append]
      omega
  have behindName : ((Cursor.ofText text).skip (count + 1)).rest = behind := by
    obtain ⟨taken, whole, size⟩ := reach 0 (Nat.zero_le _)
    change text = _ at whole
    change 0 + _ = _ at size
    rw [Nat.zero_add] at size
    have here := Text.dropBytes?_byteSize_append before (name.toList ++ behind)
    have there := Text.dropBytes?_byteSize_append taken
      (name.toList ++ ((Cursor.ofText text).skip (count + 1)).rest)
    rw [← call.split] at here
    rw [← whole, size, here, Option.some.injEq] at there
    exact (List.append_cancel_left there).symm
  rw [behindName] at reach
  refine ⟨?_, reach⟩
  have named : Cursor.Meets ⟨behind, 0, Text.byteSize before + Text.byteSize name.toList⟩
      ((Cursor.ofText text).skip (count + 1)) := ⟨behindName, stop.trans (Nat.zero_add _).symm⟩
  exact named.eq_of_base (Cursor.skip_base (.ofText text) (count + 1))

omit [Scalar α] in
theorem site (call : env.CallsPlugin plugin text before name behind count) {c : Cursor}
    (here : ((Cursor.ofText text).skip count).Meets c) : CallSite name c
      ⟨behind, 0, Text.byteSize before + Text.byteSize name.toList⟩ := by
  have past := here.advance
  rw [Cursor.advance_skip] at past
  refine ⟨by rw [here.current, call.token], ?_, ?_, ?_⟩
  · rw [here.current, call.token]
    exact String.ofList_toList
  · rw [← call.rest.1]
    exact past
  · rw [past.current]
    exact call.opens

end Environment.CallsPlugin

structure Exchanged (text rest other : List Char) (j : Nat) (c c' : Cursor) : Prop where
  meets : ((Cursor.ofText text).skip j).Meets c
  split : ∃ taken, c.rest = taken ++ rest ∧ c'.rest = taken ++ '(' :: other
  place : c'.place = c.place

theorem Exchanged.recount {text rest other : List Char} {j : Nat} {c c' d d' : Cursor}
    (exchanged : Exchanged text rest other j c c') (meets : c.Meets d) (meets' : c'.Meets d') :
    Exchanged text rest other j d d' := by
  obtain ⟨here, ⟨taken, split, split'⟩, place⟩ := exchanged
  refine ⟨here.trans meets, ⟨taken, meets.rest.trans split, meets'.rest.trans split'⟩, ?_⟩
  rw [meets'.place, place, meets.place]

/-- Places in texts with the same tokens ahead as at a place of a third one. -/
structure Continued (tail : List Char) (j : Nat) (c c' : Cursor) : Prop where
  left : significant c.rest = significant ((Cursor.ofText tail).skip j).rest
  right : significant c'.rest = significant ((Cursor.ofText tail).skip j).rest

namespace Continued

variable {tail : List Char} {j : Nat} {c c' : Cursor}

theorem advance (continued : Continued tail j c c') : Continued tail (j + 1) c.advance c'.advance := by
  constructor
  · rw [← Cursor.advance_skip]
    exact Cursor.advance_of_significant continued.left
  · rw [← Cursor.advance_skip]
    exact Cursor.advance_of_significant continued.right

theorem recount {d d' : Cursor} (continued : Continued tail j c c') (meets : c.Meets d)
    (meets' : c'.Meets d') : Continued tail j d d' :=
  ⟨by rw [meets.rest, continued.left], by rw [meets'.rest, continued.right]⟩

theorem current (continued : Continued tail j c c') :
    c'.current.kind = c.current.kind ∧ c'.current.text = c.current.text :=
  Cursor.current_of_significant (continued.left.trans continued.right.symm)

theorem ordinary {env : Environment α} {name : String} (continued : Continued tail j c c')
    (ordinary : env.Ordinary name ((Cursor.ofText tail).skip j)) : env.Ordinary name c := by
  have here := Cursor.current_of_significant continued.left
  have there := Cursor.current_of_significant continued.advance.left
  rw [← Cursor.advance_skip] at there
  have same : c.current.word = ((Cursor.ofText tail).skip j).current.word := by
    rw [Token.word, Token.word, here.2]
  constructor
  · rw [same]
    exact ordinary.other
  · rw [same, ← here.1, ← there.1]
    exact ordinary.library

end Continued

namespace Environment.CallsPlugin

variable {env : Environment α} {plugin : Plugin α} {text before behind other : List Char} {name : String}
  {count j : Nat} {c c' : Cursor}

omit [Scalar α] in
theorem exchanged_read (call : env.CallsPlugin plugin text before name behind count)
    (exchanged : Exchanged text (name.toList ++ behind) other j c c') (below : j < count) :
    c'.current = c.current ∧ Exchanged text (name.toList ++ behind) other (j + 1) c.advance c'.advance := by
  obtain ⟨meets, ⟨taken, here, there⟩, place⟩ := exchanged
  rw [meets.rest] at here
  obtain ⟨further, behindToken, -⟩ := call.rest.2 (j + 1) below
  have onward : ((Cursor.ofText text).skip j).advance = (Cursor.ofText text).skip (j + 1) :=
    Cursor.advance_skip _ j
  have more : ((Cursor.ofText text).skip j).current.kind ≠ .finish := by
    intro finish
    have none := (Cursor.ended_of_finish finish).2
    have filled := (Cursor.finds_of_more call.more).filled
    rw [onward, behindToken] at none
    rw [call.token] at filled
    simp only [List.append_eq_nil_iff] at none
    exact filled none.2.1
  have found := Cursor.next?_of_more more
  have cut : Cursor.nextFrom ((Cursor.ofText text).skip j).base ((Cursor.ofText text).skip j).offset 0 taken =
      some (((Cursor.ofText text).skip j).current,
        { ((Cursor.ofText text).skip j).advance with rest := further }) := by
    unfold Cursor.next? at found
    rw [here] at found
    exact Cursor.nextFrom_cut found (by rw [onward, behindToken])
  -- The second place, counted as the first one is.
  let second : Cursor := { (Cursor.ofText text).skip j with rest := taken ++ '(' :: other }
  have same : second.Meets c' := ⟨there, place.trans meets.place⟩
  have read : second.next? = some (((Cursor.ofText text).skip j).current,
      { ((Cursor.ofText text).skip j).advance with rest := further ++ '(' :: other }) :=
    Cursor.nextFrom_append_break (by decide) other cut
  have current : second.current = ((Cursor.ofText text).skip j).current := by
    simp [Cursor.current, Cursor.read, read]
  have advance : second.advance =
      { ((Cursor.ofText text).skip j).advance with rest := further ++ '(' :: other } := by
    simp [Cursor.advance, Cursor.read, read]
  refine ⟨by rw [same.current, current, meets.current], onward ▸ meets.advance, ⟨further, ?_, ?_⟩, ?_⟩
  · rw [meets.advance.rest, onward, behindToken]
  · rw [same.advance.rest, advance]
  · rw [same.advance.place, meets.advance.place, advance]
    rfl

omit [Scalar α] in
theorem exchanged_open (call : env.CallsPlugin plugin text before name behind count)
    (exchanged : Exchanged text (name.toList ++ behind) other count c c') :
    c'.current.kind = .openParen ∧ c'.current.word = "(" ∧ c'.advance.rest = other := by
  obtain ⟨meets, ⟨taken, here, there⟩, place⟩ := exchanged
  rw [meets.rest] at here
  obtain ⟨taken', here', size⟩ := call.rest.2 count (Nat.le_refl _)
  rw [here, List.append_cancel_right_eq] at here'
  subst here'
  have finds := Cursor.finds_of_more call.more
  have behindName : ((Cursor.ofText text).skip count).advance.rest = behind := (call.site .refl).past.rest
  have starts : TokenKind.StartsSolid (name.toList ++ behind) := by
    have lexed := finds.lexed
    rw [call.token, behindName] at lexed
    exact .of_first (fun empty => finds.filled (by rw [call.token]; exact (List.append_eq_nil_iff.mp empty).1))
      (by rw [lexed]; rfl)
  have found := Cursor.next?_of_more call.more
  unfold Cursor.next? at found
  rw [here] at found
  let second : Cursor := { (Cursor.ofText text).skip count with rest := taken ++ '(' :: other }
  have same : second.Meets c' := ⟨there, place.trans meets.place⟩
  have tokenPlace : ((Cursor.ofText text).skip count).current.offset =
      ((Cursor.ofText text).skip count).base +
        (((Cursor.ofText text).skip count).offset + Text.byteSize taken) := by
    rw [call.token, ← Nat.add_assoc]
    exact size.symm
  have read : second.next? = some (⟨.openParen, ['('], second.base + (second.offset + Text.byteSize taken)⟩,
      ⟨other, second.base, second.offset + Text.byteSize taken + 1⟩) := by
    unfold Cursor.next?
    rw [Cursor.nextFrom_at found starts tokenPlace,
      Cursor.nextFrom_solid ⟨'(', other, rfl, by decide, by simp⟩, TokenKind.first_open]
    rfl
  have current : second.current =
      ⟨.openParen, ['('], second.base + (second.offset + Text.byteSize taken)⟩ := by
    simp [Cursor.current, Cursor.read, read]
  have advance : second.advance = ⟨other, second.base, second.offset + Text.byteSize taken + 1⟩ := by
    simp [Cursor.advance, Cursor.read, read]
  rw [same.current, same.advance.rest, current, advance]
  exact ⟨rfl, rfl, rfl⟩

omit [Scalar α] in
theorem exchanged_inside (call : env.CallsPlugin plugin text before name behind count)
    (exchanged : Exchanged text (name.toList ++ behind) other j c c') (below : j < count)
    (word : c.current.kind = .word) (opens : c.advance.current.kind = .openParen)
    (bars : env.takesExpressions c.current.word = false) :
    ∃ k < count, Exchanged text (name.toList ++ behind) other k c.advance.advance c'.advance.advance := by
  obtain ⟨-, first⟩ := call.exchanged_read exchanged below
  have notYet : j + 1 ≠ count := by
    intro here
    have name := (call.site (here ▸ first.meets)).word
    rw [opens] at name
    cases name
  obtain ⟨-, second⟩ := call.exchanged_read first (by omega)
  refine ⟨j + 2, ?_, second⟩
  have outside : j + 2 ≠ count := by
    intro here
    have expressions := call.inside j here (exchanged.meets.current ▸ word) (first.meets.current ▸ opens)
    rw [← exchanged.meets.current, bars] at expressions
    cases expressions
  omega

end Environment.CallsPlugin

-- What two texts share at matching places. They agree exactly nowhere, so exactness is void here.
section Tokens

variable {instead : String}

theorem Token.kind_of_alike {t t' : Token} (alike : t'.kind = t.kind ∧ t'.text = t.text ∧ t.word ≠ instead) :
    t'.kind = t.kind := alike.1

theorem Token.text_of_alike {t t' : Token} (alike : t'.kind = t.kind ∧ t'.text = t.text ∧ t.word ≠ instead) :
    t'.text = t.text := alike.2.1

theorem Token.eq_of_never (never : False) {t t' : Token}
    (_ : t'.kind = t.kind ∧ t'.text = t.text ∧ t.word ≠ instead) : t = t' := never.elim

omit [Scalar α] in
theorem EvalError.eq_of_never (never : False) {error error' : EvalError α} (_ : False) :
    error = error' := never.elim

end Tokens

/-- The places of a text with the call of a plugin, and of the text that has something else in parentheses
in place of what the plugin has used. An argument may start with the one or with the other. -/
def Correspondence.exchange {env : Environment α} {plugin : Plugin α} {text before behind tail : List Char}
    {name instead : String} {count : Nat} (call : env.CallsPlugin plugin text before name behind count)
    (other : List Char) (around : env.Surrounds instead text count tail) : Correspondence α where
  places c c' := (∃ j < count, Exchanged text (name.toList ++ behind) other j c c') ∨ ∃ j, Continued tail j c c'
  holes c c' := Exchanged text (name.toList ++ behind) other count c c'
  tokens t t' := t'.kind = t.kind ∧ t'.text = t.text ∧ t.word ≠ instead
  starts t t' := t.word = t'.word ∨ t.word = name ∧ t'.word = "("
  exact := False
  faults _ _ := False
  current := by
    rintro c c' (⟨j, below, exchanged⟩ | ⟨j, continued⟩)
    · have ordinary := (around.ahead j below).recount exchanged.meets
      rw [(call.exchanged_read exchanged below).1]
      exact ⟨rfl, rfl, ordinary.other⟩
    · have ordinary := continued.ordinary (around.behind j)
      exact ⟨continued.current.1, continued.current.2, ordinary.other⟩
  advance := by
    rintro c c' (⟨j, below, exchanged⟩ | ⟨j, continued⟩) bars
    · have onward := (call.exchanged_read exchanged below).2
      have notYet : j + 1 ≠ count := by
        intro here
        have starts := call.starts j here
        rw [← exchanged.meets.current, bars] at starts
        cases starts
      exact .inl ⟨j + 1, by omega, onward⟩
    · exact .inr ⟨j + 1, continued.advance⟩
  opened := by
    rintro c c' (⟨j, below, exchanged⟩ | ⟨j, continued⟩) -
    · have onward := (call.exchanged_read exchanged below).2
      by_cases here : j + 1 = count
      · exact .inr (here ▸ onward)
      · exact .inl (.inl ⟨j + 1, by omega, onward⟩)
    · exact .inl (.inr ⟨j + 1, continued.advance⟩)
  parted := by
    rintro c c' (⟨j, below, exchanged⟩ | ⟨j, continued⟩) point word opens
    · have first := (call.exchanged_read exchanged below).2
      have notYet : j + 1 ≠ count := by
        intro here
        have starts := call.starts j here
        rw [← exchanged.meets.current, point] at starts
        cases starts
      have second := (call.exchanged_read first (by omega)).2
      have notHere : j + 2 ≠ count := by
        intro here
        have name := (call.site (here ▸ second.meets)).word
        rw [opens] at name
        cases name
      have third := (call.exchanged_read second (by omega)).2
      have outside : j + 3 ≠ count := by
        intro here
        exact call.parted j here (exchanged.meets.current ▸ point) (first.meets.current ▸ word)
          (second.meets.current ▸ opens)
      exact .inl (.inl ⟨j + 3, by omega, third⟩)
    · exact .inl (.inr ⟨j + 3, continued.advance.advance.advance⟩)
  recount := by
    rintro c c' d d' (⟨j, below, exchanged⟩ | ⟨j, continued⟩) meets meets'
    · exact .inl ⟨j, below, exchanged.recount meets meets'⟩
    · exact .inr ⟨j, continued.recount meets meets'⟩
  recountHole := Exchanged.recount
  hole := by
    intro c c' exchanged
    obtain ⟨opens, paren, -⟩ := call.exchanged_open exchanged
    have site := call.site exchanged.meets
    exact ⟨site.word, opens, .inr ⟨site.name, paren⟩⟩
  kind := @Token.kind_of_alike instead
  text := @Token.text_of_alike instead
  start related := .inl (by rw [Token.word, Token.word, related.2.1])
  samePlace never := never.elim
  sameHole never := never.elim
  sameToken := @Token.eq_of_never instead
  sameStart never := never.elim
  sameFault := @EvalError.eq_of_never α

namespace Run

variable {env : Environment α} {recurse : Recursion α} {plugin : Plugin α} {state after : State}

theorem call_plugin {function : Token} (called : env.plugin? function.word = some plugin) :
    call env recurse function state = callPlugin env recurse function plugin state := by
  unfold Environment.plugin? at called
  split at called
  · rename_i unknown
    simp only [Bool.and_eq_true, Option.isNone_iff_eq_none] at unknown
    unfold call
    rw [unknown.1.1, unknown.1.2, unknown.2, called]
  · cases called

end Run

/-- The plugin answers a call at the place with a value and the number of bytes that it has used. It does
so whatever random numbers are ahead, and it takes none of them. -/
def Environment.Answers (env : Environment α) (plugin : Plugin α) (start : Cursor) (v : Value α) (used : Nat) :
    Prop :=
  ∀ depth state, start.Meets state.cursor → state.origins.head? = some start.place → start.rest.length < depth →
    ∃ after, Run.play env (Run.evaluate env depth) start.rest (plugin.call start.rest) state =
        .ok (.ok (v, used)) after ∧
      after.generator = state.generator ∧ after.origins = state.origins

namespace Environment

variable {env : Environment α} {plugin : Plugin α} {name instead : String} {v : Value α} {used depth : Nat}
  {state : State}

theorem Answers.recount {start other : Cursor} (answers : env.Answers plugin start v used)
    (meets : start.Meets other) : env.Answers plugin other v used := by
  intro depth state here origins enough
  rw [meets.place] at origins
  rw [meets.rest] at enough ⊢
  exact answers depth state (meets.trans here) origins enough

theorem Answers.handed (answers : env.Answers plugin state.cursor.advance v used)
    (word : state.cursor.current.kind = .word) (opens : state.cursor.advance.current.kind = .openParen)
    (called : env.plugin? state.cursor.current.word = some plugin) (enough : state.cursor.rest.length < depth + 1) :
    ∃ after, Run.operand env (Run.evaluate env depth) state =
        Environment.Corresponds.handBack env state.cursor.current state.cursor.advance (.ok (v, used)) after ∧
      after.generator = state.generator ∧ after.origins = state.cursor.advance.place :: state.origins := by
  have shorter : state.cursor.advance.rest.length < state.cursor.rest.length :=
    Cursor.advance_length (by rw [word]; decide)
  obtain ⟨after, done, generator, origins⟩ := answers depth
    { state with cursor := state.cursor.advance, origins := state.cursor.advance.place :: state.origins }
    .refl rfl (by omega)
  refine ⟨after, ?_, generator, origins⟩
  rw [Run.operand_word word, if_pos opens, Run.call_plugin called, Environment.Corresponds.callPlugin_eq]
  exact Run.bind_ok done

theorem operand_parenthesized (env : Environment α) (v : Value α) (isName : IsName instead) (notUnit : instead ≠ "unitTensor") {line : List Char}
    (opens : state.cursor.current.kind = .openParen)
    (rest : state.cursor.advance.rest = instead.toList ++ ')' :: line)
    (enough : state.cursor.rest.length < depth + 1) :
    ∃ after, Run.operand (env.withVariable instead v) (Run.evaluate (env.withVariable instead v) depth) state =
        .ok (env.options.adopt v) after ∧
      state.Proceeds after ∧ after.cursor.rest = line ∧ after.generator = state.generator := by
  obtain ⟨depth, rfl⟩ : ∃ less, depth = less + 1 := by
    have shorter : state.cursor.advance.rest.length < state.cursor.rest.length :=
      Cursor.advance_length (by rw [opens]; decide)
    exact ⟨depth - 1, by omega⟩
  let inner : State := { state with cursor := state.cursor.advance }
  have next := Cursor.read_lexeme ⟨.word, instead.toList, isName, rfl⟩
    (show ')' ∈ TokenKind.breaks by decide) rest
  have current : inner.cursor.current = ⟨.word, instead.toList, inner.cursor.place⟩ :=
    congrArg Prod.fst next
  have advance : inner.cursor.advance =
      ⟨')' :: line, inner.cursor.base, inner.cursor.offset + Text.byteSize instead.toList⟩ :=
    congrArg Prod.snd next
  obtain ⟨closes, behind⟩ := Cursor.read_closing line inner.cursor.base
    (inner.cursor.offset + Text.byteSize instead.toList)
  rw [← advance] at closes behind
  have read : Run.operand (env.withVariable instead v) (Run.evaluate (env.withVariable instead v) depth) inner =
      .ok (env.options.adopt v) { inner with cursor := inner.cursor.advance } :=
    operand_withVariable notUnit (by rw [current])
      (by rw [current, Token.word]; exact String.ofList_toList) (by rw [closes]; decide)
  have done : Run.evaluate (env.withVariable instead v) (depth + 1) none 0 inner =
      .ok (env.options.adopt v) { inner with cursor := inner.cursor.advance } := by
    refine (Run.bind_ok read).trans (TokenKind.Stops.continueFrom ?_)
    exact (TokenKind.Halts.ofClosing (.inl closes) 0 _).self
  exact ⟨_, Run.operand_grouped opens done closes, .trans .advance (.trans .advance .advance), behind, rfl⟩

section Bridge

variable {text before behind tail : List Char} {count : Nat}

/-- Where the call stands, one side reads the answer of the plugin, and the other one reads the variable. -/
theorem CallsPlugin.bridges (call : env.CallsPlugin plugin text before name behind count)
    (answers : env.Answers plugin ⟨behind, 0, Text.byteSize before + Text.byteSize name.toList⟩ v used)
    (fits : Text.dropBytes? used behind = some tail) (isName : IsName instead)
    (notUnit : instead ≠ "unitTensor") (around : env.Surrounds instead text count tail) (n n' : Nat) :
    (Correspondence.exchange call (instead.toList ++ ')' :: ' ' :: tail) around).Bridges env
      (env.withVariable instead v) (n + 1) (n' + 1) (Run.evaluate env n)
      (Run.evaluate (env.withVariable instead v) n') := by
  intro state state' ⟨exchanged, generator⟩ below below'
  obtain ⟨opens', -, rest'⟩ := call.exchanged_open exchanged
  have site := call.site exchanged.meets
  obtain ⟨middle, done, kept, origins⟩ :=
    (answers.recount site.past).handed site.word site.opens (site.name ▸ call.called) below
  have cut : Text.dropBytes? used state.cursor.advance.rest = some tail := by
    rw [site.past.rest]
    exact fits
  obtain ⟨trace, handed⟩ :=
    Environment.Corresponds.handBack_fits env state.cursor.current v cut middle
  obtain ⟨after', done', proceeds', onward', kept'⟩ :=
    operand_parenthesized env v isName notUnit opens' rest' below'
  rw [done, handed, done']
  refine .ok rfl ⟨⟨?_, ?_⟩, ?_⟩ proceeds' ⟨.inr ⟨0, rfl, ?_⟩, ?_⟩
  · exact .trans Cursor.advance_precedes (.of_dropBytes? cut)
  · exact congrArg (List.drop 1) origins
  · exact Cursor.advance_base _
  · rw [onward']
    exact Cursor.significant_blank (by decide) tail
  · exact kept'.trans (generator.trans kept.symm)

/-- An environment goes along with the one that has the value of the call as a variable. -/
theorem CallsPlugin.corresponds (call : env.CallsPlugin plugin text before name behind count)
    (answers : env.Answers plugin ⟨behind, 0, Text.byteSize before + Text.byteSize name.toList⟩ v used)
    (fits : Text.dropBytes? used behind = some tail) (isName : IsName instead)
    (notUnit : instead ≠ "unitTensor") (around : env.Surrounds instead text count tail) :
    env.Corresponds (env.withVariable instead v)
      (.exchange call (instead.toList ++ ')' :: ' ' :: tail) around) where
  repository := rfl
  options := rfl
  bindings := by
    rintro t t' ⟨-, -, other⟩
    unfold withVariable
    rw [OrderedMap.get?_insert, if_neg (Ne.symm other)]
  plugins := by
    intro c c' places word opens
    refine Correspondence.library_plugins ?_ places word
    rcases places with ⟨j, below, exchanged⟩ | ⟨j, continued⟩
    · exact ((around.ahead j below).recount exchanged.meets).library word opens
    · exact (continued.ordinary (around.behind j)).library word opens
  names := by
    rintro c c' (⟨j, below, exchanged⟩ | ⟨j, continued⟩) word opens takes
    · exact .inl (call.exchanged_inside exchanged below word opens (by simp [takesExpressions, takes]))
    · exact .inr ⟨j + 2, continued.advance.advance⟩
  seeds := by
    rintro c c' builtin (⟨j, below, exchanged⟩ | ⟨j, continued⟩) word opens known seed
    · exact .inl (.inl (call.exchanged_inside exchanged below word opens
        (by simp [takesExpressions, known, seed])))
    · exact .inl (.inr ⟨j + 2, continued.advance.advance⟩)
  bridges := call.bridges answers fits isName notUnit around

end Bridge

end Environment

/-- The same is shown, or the name of the plugin and the parenthesis in its place. -/
def ShownAlike (name : String) (shown shown' : String) : Prop := shown = shown' ∨ shown = name ∧ shown' = "("

theorem Correspondence.exchange_alike {env : Environment α} {plugin : Plugin α}
    {text before behind other tail : List Char} {name instead : String} {count : Nat}
    {call : env.CallsPlugin plugin text before name behind count}
    {around : env.Surrounds instead text count tail} {error error' : EvalError α}
    (fails : (Correspondence.exchange call other around).Fails error error') :
    error.Alike (ShownAlike name) error' :=
  fails.alike (fun _ => .inl rfl) (fun starts => starts) fun _ _ => not_false

namespace Session

/-- Two texts have the same outcome in two sessions but for places, and for what was found there as `F`
allows. -/
structure AnswersAlike (F : String → String → Prop) (session session' : Session α) (text text' : List Char) :
    Prop where
  whole : Outcome.Alike F (session.evaluate text).2 (session'.evaluate text').2
  typed : ∀ type, Outcome.Alike F (session.evaluateAs text type).2 (session'.evaluateAs text' type).2
  logical : ∀ location,
    Outcome.Alike F (session.evaluateLogical text location).2 (session'.evaluateLogical text' location).2
  start : Outcome.Alike F (session.evaluateStart text).2 (session'.evaluateStart text').2

/-- The call of a plugin that answers is as good as a variable in parentheses, if the text goes on behind
the part that the plugin has used; else the call fails. -/
structure OpaqueCall (F : String → String → Prop) (session : Session α) (text before : List Char)
    (name : String) (behind : List Char) (count : Nat) (v : Value α) (used : Nat) : Prop where
  fits : ∀ tail instead, Text.dropBytes? used behind = some tail → IsName instead → instead ≠ "unitTensor" →
    session.environment.Surrounds instead text count tail →
    Text.Addressable (before ++ '(' :: (instead.toList ++ ')' :: ' ' :: tail)) →
    AnswersAlike F session (session.setVariable instead v) text
      (before ++ '(' :: (instead.toList ++ ')' :: ' ' :: tail))
  beyond : Text.dropBytes? used behind = none → ∀ depth state, state.cursor = (Cursor.ofText text).skip count →
    state.cursor.rest.length ≤ depth →
    ∃ after, Run.operand session.environment (Run.evaluate session.environment depth) state =
      .error (.plugin name (.overrun used (Text.byteSize behind))) after

variable {session : Session α} {plugin : Plugin α} {text before behind tail : List Char}
  {name instead : String} {count used : Nat} {v : Value α}

theorem accept_exchanged (call : session.environment.CallsPlugin plugin text before name behind count)
    (answers : session.environment.Answers plugin
      ⟨behind, 0, Text.byteSize before + Text.byteSize name.toList⟩ v used)
    (fits : Text.dropBytes? used behind = some tail) (isName : IsName instead)
    (notUnit : instead ≠ "unitTensor") (around : session.environment.Surrounds instead text count tail)
    (expected : Option ValueType) (whole : Bool) :
    Outcome.Alike (ShownAlike name) (session.accept text expected whole).2
      ((session.setVariable instead v).accept (before ++ '(' :: (instead.toList ++ ')' :: ' ' :: tail))
        expected whole).2 := by
  have corresponds := call.corresponds answers fits isName notUnit around
  have start : Exchanged text (name.toList ++ behind) (instead.toList ++ ')' :: ' ' :: tail) 0 (.ofText text)
      (.ofText (before ++ '(' :: (instead.toList ++ ')' :: ' ' :: tail))) :=
    ⟨.refl, ⟨before, call.split, rfl⟩, rfl⟩
  have places : (Correspondence.exchange call (instead.toList ++ ')' :: ' ' :: tail) around).opens
      (.ofText text) (.ofText (before ++ '(' :: (instead.toList ++ ')' :: ' ' :: tail))) := by
    by_cases first : count = 0
    · subst first
      exact .inr start
    · exact .inl (.inl ⟨0, Nat.pos_of_ne_zero first, start⟩)
  have concludes := @accept_parallel _ _ session (session.setVariable instead v) _ corresponds rfl _ _
    places expected whole
  have alike := Outcome.of_concludes Correspondence.exchange_alike id concludes fun _ _ equal => equal
  rwa [Except.map_id, id, id] at alike

/-- Calls of plugins are opaque in texts whose offsets are numbers of 32 bits. -/
theorem plugin_call_opaque (session : Session α) (_ : Text.Addressable text)
    (call : session.environment.CallsPlugin plugin text before name behind count)
    (answers : session.environment.Answers plugin
      ⟨behind, 0, Text.byteSize before + Text.byteSize name.toList⟩ v used) :
    session.OpaqueCall (ShownAlike name) text before name behind count v used := by
  constructor
  · intro tail instead cut isName notUnit around _
    have accepted := accept_exchanged call answers cut isName notUnit around
    exact ⟨accepted none true, fun type => accepted (some type) true,
      fun location => accepted (some ⟨.logical, location⟩) true, accepted none false⟩
  · intro beyond depth state here enough
    have site := call.site (by rw [here]; exact .refl : ((Cursor.ofText text).skip count).Meets state.cursor)
    obtain ⟨middle, done, -, -⟩ :=
      (answers.recount site.past).handed site.word site.opens (site.name ▸ call.called) (Nat.lt_succ_of_le enough)
    have cut : Text.dropBytes? used state.cursor.advance.rest = none := by
      rw [site.past.rest]
      exact beyond
    rw [done, Environment.Corresponds.handBack_beyond session.environment _ v cut middle, site.name,
      site.past.rest]
    exact ⟨_, rfl⟩

def answering (v : Value α) : Plugin α where
  name := "answer"
  description := "a constant"
  call := (do
    .step Arguments.openList
    .step Arguments.closeList
    return (v, ← .consumed) : Reading α (Value α × Nat)).run

theorem answering_answers {env : Environment α} {start : Cursor} {v : Value α} {used : Nat}
    (answer : (answering v).call start.rest = .done (.ok (v, used))) :
    env.Answers (answering v) start v used := by
  intro depth state _ _ _
  rw [answer]
  exact ⟨state, rfl, rfl, rfl⟩

def fortyTwo : Value Exact := .constantScalar (Scalar.ofNat 42)

def withAnswer : Session Exact := overTetrahedron.register (answering fortyTwo)

/-- The plugin uses three bytes, and the text goes on with an operator. -/
theorem plugin_call_opaque_answer :
    let text := "2*answer( ) - 1".toList
    withAnswer.environment.CallsPlugin (answering fortyTwo) text "2*".toList "answer" "( ) - 1".toList 2 ∧
      Text.dropBytes? 3 "( ) - 1".toList = some " - 1".toList ∧ (withAnswer.evaluate text).2.isOk = true ∧
      withAnswer.OpaqueCall (ShownAlike "answer") text "2*".toList "answer" "( ) - 1".toList 2 fortyTwo 3 ∧
      AnswersAlike (ShownAlike "answer") withAnswer (withAnswer.setVariable "tmp" fortyTwo) text
        "2*(tmp)  - 1".toList := by
  have call : withAnswer.environment.CallsPlugin (answering fortyTwo) "2*answer( ) - 1".toList
      "2*".toList "answer" "( ) - 1".toList 2 :=
    .of_two (by decide +kernel) (by decide +kernel) (by decide +kernel) rfl (by decide +kernel)
      (by decide +kernel)
  have isName : IsName "tmp" := by
    unfold IsName
    decide +kernel
  have answers : withAnswer.environment.Answers (answering fortyTwo)
      ⟨"( ) - 1".toList, 0, Text.byteSize "2*".toList + Text.byteSize "answer".toList⟩ fortyTwo 3 :=
    answering_answers rfl
  have opaqueCall := plugin_call_opaque withAnswer (by decide +kernel) call answers
  have around : withAnswer.environment.Surrounds "tmp" "2*answer( ) - 1".toList 2 " - 1".toList :=
    .of_none isName (by decide +kernel) 2 (by decide +kernel) (by decide +kernel)
  exact ⟨call, by decide +kernel, by decide +kernel, opaqueCall,
    opaqueCall.fits " - 1".toList "tmp" (by decide +kernel) isName (by decide) around (by decide +kernel)⟩

def found? (outcome : Except (EvalError α) (Value α)) : Option String :=
  match outcome with
  | .ok _ => none
  | .error error => error.innermost?.map (·.found)

omit [Scalar α] in
theorem found?_of_alike {outcome outcome' : Except (EvalError α) (Value α)}
    (alike : Outcome.Alike Eq outcome outcome') : found? outcome = found? outcome' := by
  cases alike with
  | ok => rfl
  | @error error error' alike =>
    change error.innermost?.map (·.found) = error'.innermost?.map (·.found)
    induction alike with
    | plain | refused | expected | overrun => rfl
    | lexical same | grammar same => exact congrArg some same.found
    | argument _ ih => exact ih

/-- A message about an argument that starts with the call shows the name, which the other text has not.
And the identity matrix is no variable. -/
theorem plugin_call_not_opaque :
    let text := "grad(answer())".toList
    withAnswer.environment.CallsPlugin (answering fortyTwo) text "grad(".toList "answer" "())".toList 2 ∧
      withAnswer.environment.Answers (answering fortyTwo) ⟨"())".toList, 0, 11⟩ fortyTwo 2 ∧
      Text.dropBytes? 2 "())".toList = some ")".toList ∧
      withAnswer.environment.Surrounds "tmp" text 2 ")".toList ∧
      ¬ Outcome.Alike Eq (withAnswer.evaluate text).2
        ((withAnswer.setVariable "tmp" fortyTwo).evaluate "grad((tmp) )".toList).2 ∧
      ¬ withAnswer.OpaqueCall Eq text "grad(".toList "answer" "())".toList 2 fortyTwo 2 ∧
      ¬ Outcome.Alike (ShownAlike "answer") (withAnswer.evaluate "answer()".toList).2
        ((withAnswer.setVariable "unitTensor" fortyTwo).evaluate "(unitTensor) ".toList).2 := by
  have call : withAnswer.environment.CallsPlugin (answering fortyTwo) "grad(answer())".toList
      "grad(".toList "answer" "())".toList 2 :=
    .of_two (by decide +kernel) (by decide +kernel) (by decide +kernel) rfl (by decide +kernel)
      (by decide +kernel)
  have isName : IsName "tmp" := by
    unfold IsName
    decide +kernel
  have around : withAnswer.environment.Surrounds "tmp" "grad(answer())".toList 2 ")".toList :=
    .of_none isName (by decide +kernel) 1 (by decide +kernel) (by decide +kernel)
  have differ : ¬ Outcome.Alike Eq (withAnswer.evaluate "grad(answer())".toList).2
      ((withAnswer.setVariable "tmp" fortyTwo).evaluate "grad((tmp) )".toList).2 := by
    intro alike
    exact absurd (found?_of_alike alike) (by decide +kernel)
  refine ⟨call, answering_answers rfl, by decide +kernel, around, differ, fun opaqueCall => differ ?_,
    fun alike => absurd alike.toOption_eq (by decide +kernel)⟩
  exact (opaqueCall.fits ")".toList "tmp" (by decide +kernel) isName (by decide) around (by decide +kernel)).whole

end Session

end MeshLang
