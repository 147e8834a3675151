import MeshLang.Proofs.Local.Alone
import MeshLang.Proofs.Reader.Steps

namespace MeshLang

open TokenKind

theorem Text.byteSize_pos {text : List Char} (filled : text ≠ []) : 0 < Text.byteSize text := by
  obtain ⟨c, rest, rfl⟩ := List.exists_cons_of_ne_nil filled
  exact Nat.add_pos_left c.utf8Size_pos _

/-- Blanks and whole comments, each comment with the line feed that ends it. -/
inductive Trivia : List Char → Prop where
  | nil : Trivia []
  | blank {c : Char} {w : List Char} (blank : c ∈ blanks) (further : Trivia w) : Trivia (c :: w)
  | comment {line w : List Char} (within : '\n' ∉ line) (further : Trivia w) :
      Trivia ('/' :: '/' :: (line ++ '\n' :: w))

namespace Trivia

theorem of_blanks {w : List Char} (blank : ∀ c ∈ w, c ∈ blanks) : Trivia w := by
  induction w with
  | nil => exact .nil
  | cons c w ih =>
    exact .blank (blank c List.mem_cons_self) (ih fun d member => blank d (List.mem_cons_of_mem c member))

theorem append {v w : List Char} (first : Trivia v) (second : Trivia w) : Trivia (v ++ w) := by
  induction first with
  | nil => exact second
  | blank blank _ ih => exact .blank blank ih
  | @comment line v within _ ih =>
    rw [List.cons_append, List.cons_append, List.append_assoc, List.cons_append]
    exact .comment within ih

theorem line_ends {line : List Char} (within : '\n' ∉ line) (text : List Char) :
    (line ++ '\n' :: text).takeWhile (· != '\n') = line ∧
      (line ++ '\n' :: text).dropWhile (· != '\n') = '\n' :: text := by
  have inside : ∀ c ∈ line, (c != '\n') = true := by
    intro c member
    simp only [bne_iff_ne, ne_eq]
    rintro rfl
    exact within member
  rw [List.takeWhile_append_of_pos inside, List.dropWhile_append_of_pos inside]
  simp

theorem nextFrom {w : List Char} (trivia : Trivia w) (base offset : Nat) (rest : List Char) :
    Cursor.nextFrom base offset 0 (w ++ rest) = Cursor.nextFrom base (offset + Text.byteSize w) 0 rest := by
  induction trivia generalizing offset with
  | nil => rfl
  | blank blank _ ih =>
    rw [List.cons_append, Cursor.nextFrom_blank blank, ih, Text.byteSize_cons, Nat.add_assoc]
  | @comment line w within _ ih =>
    obtain ⟨taken, dropped⟩ := line_ends within (w ++ rest)
    have size : Text.byteSize ('/' :: '/' :: (line ++ '\n' :: w)) =
        Text.byteSize ('/' :: '/' :: line) + ('\n'.utf8Size + Text.byteSize w) := by
      simp only [Text.byteSize_cons, Text.byteSize_append]
      omega
    rw [List.cons_append, List.cons_append, List.append_assoc, List.cons_append,
      Cursor.nextFrom_comment, taken, dropped, Cursor.nextFrom_blank (by decide), ih, size]
    simp only [Nat.add_assoc]

theorem next? {w : List Char} (trivia : Trivia w) (base offset : Nat) (rest : List Char) :
    (Cursor.mk (w ++ rest) base offset).next? = (Cursor.mk rest base (offset + Text.byteSize w)).next? :=
  trivia.nextFrom base offset rest

theorem next?_token {w token : List Char} {kind : TokenKind} (trivia : Trivia w) {rest : List Char}
    (solid : kind.isTrivia = false) (lexed : first (token ++ rest) = (kind, token.length))
    (filled : token ++ rest ≠ []) (base offset : Nat) :
    (Cursor.mk (w ++ (token ++ rest)) base offset).next? =
      some (⟨kind, token, base + (offset + Text.byteSize w)⟩,
        ⟨rest, base, offset + Text.byteSize w + Text.byteSize token⟩) := by
  have starts : StartsSolid (token ++ rest) := .of_first filled (by rw [lexed]; exact solid)
  rw [trivia.next?]
  unfold Cursor.next?
  rw [Cursor.nextFrom_solid starts, lexed, List.take_left, List.drop_left]

theorem read {w : List Char} (trivia : Trivia w) (base offset : Nat) (rest : List Char) :
    (Cursor.mk (w ++ rest) base offset).read = (Cursor.mk rest base (offset + Text.byteSize w)).read := by
  unfold Cursor.read Cursor.finish Cursor.place
  rw [trivia.next?]
  simp only [Text.byteSize_append, Nat.add_assoc]

theorem line_split {text : List Char} {base offset : Nat} {found : Token × Cursor}
    (more : Cursor.nextFrom base offset 0 (text.dropWhile (· != '\n')) = some found) :
    '\n' ∉ text.takeWhile (· != '\n') ∧ ∃ further, text.dropWhile (· != '\n') = '\n' :: further := by
  constructor
  · intro member
    have inside := List.mem_takeWhile_imp member
    simp at inside
  · cases ended : text.dropWhile (· != '\n') with
    | nil =>
      rw [ended] at more
      cases more
    | cons c further =>
      have breaks := List.head_dropWhile_not (· != '\n') (l := text) (by simp [ended])
      simp only [ended, List.head_cons, bne_eq_false_iff_eq] at breaks
      exact ⟨further, by rw [breaks]⟩

theorem of_nextFrom {base offset : Nat} {text : List Char} {token : Token} {behind : Cursor}
    (found : Cursor.nextFrom base offset 0 text = some (token, behind)) :
    ∃ w, Trivia w ∧ text = w ++ (token.text ++ behind.rest) ∧
      token.offset = base + (offset + Text.byteSize w) := by
  induction text using text_induction generalizing offset with
  | nil => cases found
  | blank c text blank ih =>
    rw [Cursor.nextFrom_blank blank] at found
    obtain ⟨w, trivia, split, place⟩ := ih found
    refine ⟨c :: w, .blank blank trivia, congrArg (c :: ·) split, ?_⟩
    rw [place, Text.byteSize_cons, Nat.add_assoc]
  | comment text ih =>
    rw [Cursor.nextFrom_comment] at found
    have solid := (Cursor.nextFrom_finds found).solid
    have lexed := (Cursor.nextFrom_finds found).lexed
    have whole : text.takeWhile (· != '\n') ++ text.dropWhile (· != '\n') = text :=
      List.takeWhile_append_dropWhile
    obtain ⟨within, more, ended⟩ := line_split found
    obtain ⟨w, trivia, split, place⟩ := ih found
    -- The line feed is not part of the token, so that it is the first of the blanks before it.
    obtain ⟨v, rfl, further⟩ : ∃ v, w = '\n' :: v ∧ Trivia v := by
      cases trivia with
      | nil =>
        rw [← List.nil_append (token.text ++ behind.rest), ← split, ended,
          first_blank (show '\n' ∈ blanks by decide)] at lexed
        have blank : token.kind = .blank := (congrArg Prod.fst lexed).symm
        rw [blank] at solid
        cases solid
      | blank blank further =>
        rw [ended, List.cons_append, List.cons.injEq] at split
        exact ⟨_, by rw [split.1], further⟩
      | comment =>
        rw [ended, List.cons_append, List.cons.injEq] at split
        exact absurd split.1 (by decide)
    refine ⟨'/' :: '/' :: (text.takeWhile (· != '\n') ++ '\n' :: v), .comment within further, ?_, ?_⟩
    · rw [List.cons_append, List.cons_append, List.append_assoc, ← split, whole]
    · rw [place]
      simp only [Text.byteSize_cons, Text.byteSize_append]
      omega
  | token text starts ih =>
    rw [Cursor.nextFrom_solid starts, Option.some.injEq, Prod.mk.injEq] at found
    obtain ⟨rfl, rfl⟩ := found
    exact ⟨[], .nil, (List.take_append_drop _ _).symm, rfl⟩

end Trivia

def Shows (kind : TokenKind) (token element rest : List Char) : Prop :=
  ∃ w, Trivia w ∧ element = w ++ token ∧ token ≠ [] ∧ first (token ++ rest) = (kind, token.length)

theorem Shows.of_next? {cursor behind : Cursor} {token : Token}
    (found : cursor.next? = some (token, behind)) :
    ∃ element, cursor.rest = element ++ behind.rest ∧
      behind.base = cursor.base ∧ behind.offset = cursor.offset + Text.byteSize element ∧ element ≠ [] ∧
      Shows token.kind token.text element behind.rest := by
  obtain ⟨w, trivia, split, place⟩ := Trivia.of_nextFrom found
  have finds := Cursor.nextFrom_finds found
  refine ⟨w ++ token.text, by rw [split, List.append_assoc], finds.base, ?_, by simp [finds.filled],
    w, trivia, rfl, finds.filled, finds.lexed⟩
  have stop := finds.stop
  have own : behind.base = cursor.base := finds.base
  rw [Cursor.place, own, Token.stop, place] at stop
  rw [Text.byteSize_append]
  omega

inductive Signed : Bool → Token → List Char → List Char → Prop where
  | plain {token : Token} {element rest : List Char} (other : token.kind ≠ .minus)
      (shows : Shows token.kind token.text element rest) : Signed false token element rest
  | negated {token : Token} {sign minus element rest : List Char}
      (before : Shows .minus minus sign (element ++ rest))
      (shows : Shows token.kind token.text element rest) : Signed true token (sign ++ element) rest

theorem Signed.of_signed? {args behind : Arguments} {negative : Bool} {token : Token}
    (found : args.signed? = some (negative, token, behind)) :
    ∃ element, args.rest = element ++ behind.rest ∧
      behind.base = args.base ∧ behind.offset = args.offset + Text.byteSize element ∧ element ≠ [] ∧
      Signed negative token element behind.rest := by
  unfold Arguments.signed? at found
  cases sign : args.next? with
  | none => simp [sign] at found
  | some answer =>
    obtain ⟨minus, next⟩ := answer
    simp only [sign] at found
    obtain ⟨element, split, own, size, filled, shows⟩ := Shows.of_next? sign
    split at found
    · rename_i isMinus
      obtain ⟨⟨number, after⟩, second, same⟩ := Option.map_eq_some_iff.mp found
      cases same
      obtain ⟨further, split', own', size', -, shows'⟩ := Shows.of_next? second
      rw [isMinus, split'] at shows
      refine ⟨element ++ further, by rw [split, split', List.append_assoc], own'.trans own, ?_,
        by simp [filled], .negated shows shows'⟩
      rw [size', size, Text.byteSize_append, Nat.add_assoc]
    · rename_i other
      cases found
      exact ⟨element, split, own, size, filled, .plain other shows⟩

namespace Run

variable {α : Type}

theorem formed_ok {env : Environment α} {expected : Option ValueType} {start stop start' stop' : Nat}
    {v w : Value α} (formed : Run.formed env expected start stop v = .ok w) :
    Run.formed env expected start' stop' v = .ok w := by
  cases expected with
  | none => exact formed
  | some type =>
    change Run.conform env v type start stop = _ at formed
    change Run.conform env v type start' stop' = _
    unfold Run.conform at formed ⊢
    dsimp only at formed ⊢
    split_ifs at formed with fits
    rw [if_pos fits]
    exact formed

end Run

namespace Session

variable {α : Type} [Scalar α] {session : Session α} {taken rest : List Char}
  {expected : Option ValueType}

/-- An argument is the expression at its place, in the form that is asked for. -/
theorem argument_expression (session : Session α) (taken rest : List Char)
    (expected : Option ValueType) :
    session.argument (taken ++ rest) (Text.byteSize taken) expected =
      session.finished (EStateM.bind (Run.expression session.environment)
        (Correspondence.told session.environment (session.origins.headD 0) (Text.byteSize taken) expected)
        (session.stateAt ⟨rest, session.origins.headD 0, Text.byteSize taken⟩)) := by
  have place : Cursor.within (session.origins.headD 0) (taken ++ rest) (Text.byteSize taken) =
      ⟨rest, session.origins.headD 0, Text.byteSize taken⟩ := by
    unfold Cursor.within
    rw [Text.dropBytes?_byteSize_append]
  have deep : Run.evaluate session.environment ((taken ++ rest).length + 1) none 0
      (session.stateAt ⟨rest, session.origins.headD 0, Text.byteSize taken⟩) =
        Run.expression session.environment
          (session.stateAt ⟨rest, session.origins.headD 0, Text.byteSize taken⟩) :=
    Motion.evaluate_unbounded session.environment none 0 (by
      change rest.length < _
      rw [List.length_append]
      omega)
  rw [session.argument_at place]
  unfold EStateM.bind
  rw [deep]

theorem argument_ok_iff {v : Value α} {stop : Nat} :
    (session.argument (taken ++ rest) (Text.byteSize taken) expected).2 = .ok (v, stop) ↔
      ∃ u after, Run.expression session.environment
          (session.stateAt ⟨rest, session.origins.headD 0, Text.byteSize taken⟩) = .ok u after ∧
        Run.formed session.environment expected 0 0 u = .ok v ∧ stop = after.cursor.offset := by
  rw [argument_expression]
  unfold EStateM.bind
  cases Run.expression session.environment
      (session.stateAt ⟨rest, session.origins.headD 0, Text.byteSize taken⟩) with
  | error error after => simp [finished]
  | ok u after =>
    dsimp only
    rw [Motion.told_eq]
    cases formed : Run.formed session.environment expected
        (session.origins.headD 0 + Text.byteSize taken) (session.origins.headD 0 + after.cursor.offset) u with
    | ok w =>
      have anywhere := @Run.formed_ok _ _ _ _ _ 0 0 _ _ formed
      constructor
      · intro done
        cases done
        exact ⟨u, after, rfl, anywhere, rfl⟩
      · rintro ⟨u', after', ran, formed', rfl⟩
        cases ran
        rw [anywhere] at formed'
        cases formed'
        rfl
    | error error =>
      constructor
      · intro done
        cases done
      · rintro ⟨u', after', ran, formed', rfl⟩
        cases ran
        rw [Run.formed_ok formed'] at formed
        cases formed

end Session

end MeshLang
