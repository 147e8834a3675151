import MeshLang.Proofs.Token.Pieces
import Mathlib.Data.List.TakeWhile

namespace MeshLang

def IsName (name : String) : Prop := TokenKind.first name.toList = (.word, name.toList.length)

/-- An expression in parentheses. The one that closes stands on the next line, since the expression may
end with a comment. -/
def parenthesized (expression : List Char) : List Char := '(' :: (expression ++ ['\n', ')'])

/-- The text with an expression in parentheses in place of each token that is the name. -/
def substitute (name : String) (expression text : List Char) : List Char :=
  (tokenize text).flatMap fun token =>
    if token.word = name then parenthesized expression else token.text

open TokenKind

theorem tokensFrom_texts (offset skip other : Nat) (text : List Char) :
    (tokensFrom offset skip text).map Token.text = (tokensFrom other 0 (text.drop skip)).map Token.text := by
  induction text generalizing offset skip other with
  | nil => cases skip <;> rfl
  | cons c rest ih =>
    cases skip with
    | succ skip => exact ih (offset + c.utf8Size) skip other
    | zero =>
      simp only [List.drop_zero, tokensFrom, List.map_cons, List.cons.injEq, true_and]
      rw [ih _ _ 0, ih (other + c.utf8Size) _ 0]

section Pieces

variable {name : String} {expression text rest : List Char}

theorem substitute_first (filled : text ≠ []) :
    substitute name expression text =
      (if String.ofList (text.take (first text).2) = name then parenthesized expression
        else text.take (first text).2) ++ substitute name expression (text.drop (first text).2) := by
  have spread (text : List Char) : substitute name expression text =
      ((tokenize text).map Token.text).flatMap fun piece =>
        if String.ofList piece = name then parenthesized expression else piece := by
    rw [List.flatMap_map]
    rfl
  cases text with
  | nil => exact absurd rfl filled
  | cons c rest =>
    have positive : 0 < (first (c :: rest)).2 := (first_bounds filled rfl).1
    obtain ⟨further, same⟩ : ∃ further, (first (c :: rest)).2 = further + 1 :=
      ⟨(first (c :: rest)).2 - 1, by omega⟩
    have tokens : (tokenize (c :: rest)).map Token.text =
        (c :: rest).take (further + 1) :: (tokenize (rest.drop further)).map Token.text := by
      have behind := tokensFrom_texts (0 + c.utf8Size) further 0 rest
      simp only [tokenize, tokensFrom, same, List.map_cons, Nat.add_sub_cancel, behind]
    rw [spread, spread, tokens, same]
    rfl

theorem IsName.first_word (isName : IsName name)
    (same : String.ofList (text.take (first text).2) = name) : (first text).1 = .word := by
  have part : text.take (first text).2 = name.toList := by rw [← same, String.toList_ofList]
  have lexed : first (text.take (first text).2) = ((first text).1, (first text).2) :=
    first_take_of_le rfl (Nat.le_refl _)
  rw [part, isName] at lexed
  exact (Prod.mk.inj lexed).1.symm

theorem substitute_other (isName : IsName name) (filled : text ≠ []) (other : (first text).1 ≠ .word) :
    substitute name expression text =
      text.take (first text).2 ++ substitute name expression (text.drop (first text).2) := by
  rw [substitute_first filled, if_neg fun same => other (isName.first_word same)]

theorem substitute_blank (isName : IsName name) {c : Char} (blank : c ∈ blanks) :
    substitute name expression (c :: rest) = c :: substitute name expression rest := by
  have step {c : Char} (blank : c ∈ blanks) (rest : List Char) :
      substitute name expression (c :: rest) =
        c :: (rest.takeWhile blanks.contains ++
          substitute name expression (rest.dropWhile blanks.contains)) := by
    obtain ⟨run, after, isRun, isAfter, split⟩ : ∃ run after, rest.takeWhile blanks.contains = run ∧
        rest.dropWhile blanks.contains = after ∧ run ++ after = rest :=
      ⟨_, _, rfl, rfl, List.takeWhile_append_dropWhile⟩
    rw [substitute_other isName (List.cons_ne_nil c rest) (by rw [first_blank blank]; exact nofun),
      first_blank blank, isRun, isAfter, List.take_succ_cons, List.drop_succ_cons, ← split,
      List.take_left, List.drop_left, List.cons_append]
  rw [step blank]
  cases rest with
  | nil => rfl
  | cons d rest =>
    by_cases more : d ∈ blanks
    · rw [step more, List.takeWhile_cons_of_pos (by simpa using more),
        List.dropWhile_cons_of_pos (by simpa using more), List.cons_append]
    · rw [List.takeWhile_cons_of_neg (by simpa using more), List.dropWhile_cons_of_neg (by simpa using more)]
      rfl

theorem substitute_comment (isName : IsName name) :
    substitute name expression ('/' :: '/' :: rest) =
      '/' :: '/' :: (rest.takeWhile (· != '\n') ++
        substitute name expression (rest.dropWhile (· != '\n'))) := by
  obtain ⟨body, after, isBody, isAfter, split⟩ : ∃ body after, rest.takeWhile (· != '\n') = body ∧
      rest.dropWhile (· != '\n') = after ∧ body ++ after = rest :=
    ⟨_, _, rfl, rfl, List.takeWhile_append_dropWhile⟩
  rw [substitute_other isName (List.cons_ne_nil _ _) (by rw [first_comment]; exact nofun), first_comment,
    isBody, isAfter, List.take_succ_cons, List.drop_succ_cons, List.take_succ_cons, List.drop_succ_cons,
    ← split, List.take_left, List.drop_left, List.cons_append, List.cons_append]

theorem substitute_split (name : String) (expression text : List Char) :
    substitute name expression text = text ∨
      ∃ before after after', text = before ++ after ∧ substitute name expression text = before ++ '(' :: after' := by
  induction length : text.length using Nat.strongRecOn generalizing text with
  | ind n ih =>
    subst length
    by_cases empty : text = []
    · subst empty
      exact .inl rfl
    · have positive : 0 < (first text).2 := (first_bounds empty rfl).1
      have bound : 0 < text.length := List.length_pos_iff.mpr empty
      rw [substitute_first empty]
      by_cases same : String.ofList (text.take (first text).2) = name
      · rw [if_pos same]
        exact .inr ⟨[], text, _, rfl, rfl⟩
      · rw [if_neg same]
        have split : text.take (first text).2 ++ text.drop (first text).2 = text :=
          List.take_append_drop _ _
        rcases ih _ (by rw [List.length_drop]; omega) (text.drop (first text).2) rfl with
          stays | ⟨before, after, after', here, there⟩
        · rw [stays, split]
          exact .inl rfl
        · refine .inr ⟨text.take (first text).2 ++ before, after, after', ?_, ?_⟩
          · rw [List.append_assoc, ← here, split]
          · rw [there, List.append_assoc]

theorem substitute_kept {name : String} {expression text : List Char} (starts : StartsSolid text)
    (other : String.ofList (text.take (first text).2) ≠ name) :
    StartsSolid (substitute name expression text) ∧
      first (substitute name expression text) = first text := by
  have bounds : 0 < (first text).2 ∧ (first text).2 ≤ text.length ∧ _ := first_bounds starts.ne_nil rfl
  have whole : text.take (first text).2 ++ text.drop (first text).2 = text := List.take_append_drop _ _
  rw [substitute_first starts.ne_nil, if_neg other]
  rcases substitute_split name expression (text.drop (first text).2) with
    stays | ⟨before, after, after', here, there⟩
  · rw [stays, whole]
    exact ⟨starts, rfl⟩
  · obtain ⟨part, isPart⟩ : ∃ part, text.take (first text).2 ++ before = part := ⟨_, rfl⟩
    have split : text = part ++ after := by rw [← isPart, List.append_assoc, ← here, whole]
    have covered : (first text).2 ≤ part.length := by
      rw [← isPart, List.length_append, List.length_take, Nat.min_eq_left bounds.2.1]
      exact Nat.le_add_right _ _
    have same : first part = first text := by
      have cut : first (text.take part.length) = ((first text).1, (first text).2) :=
        first_take_of_le rfl covered
      rwa [show text.take part.length = part by rw [split, List.take_left]] at cut
    obtain ⟨c, rest, isText, unblank, single⟩ := starts
    obtain ⟨more, isPart'⟩ : ∃ more, part = c :: more := by
      cases part with
      | nil =>
        simp only [List.length_nil] at covered
        omega
      | cons d more =>
        rw [isText, List.cons_append, List.cons.injEq] at split
        exact ⟨more, by rw [split.1]⟩
    have startsPart : StartsSolid part := by
      refine ⟨c, more, isPart', unblank, fun further slashes => single (further ++ after) ?_⟩
      rw [split, slashes]
      rfl
    rw [there, ← List.append_assoc, isPart]
    exact ⟨startsPart.append (by decide) after', (first_append_break startsPart (by decide) after').trans same⟩

end Pieces

/-- What is read with the substitution where a token was read without it: the same token, or a
parenthesis and the expression. -/
inductive Substituted (name : String) (expression : List Char) (token : Token) (after : Cursor)
    (token' : Token) (after' : Cursor) : Prop where
  | kept : token.word ≠ name → token'.kind = token.kind → token'.text = token.text →
      after'.rest = substitute name expression after.rest →
      Substituted name expression token after token' after'
  | replaced : token.word = name → token.kind = .word → token'.kind = .openParen →
      after'.rest = expression ++ '\n' :: ')' :: substitute name expression after.rest →
      Substituted name expression token after token' after'

namespace Cursor

theorem nextFrom_substitute {name : String} (isName : IsName name) (expression text : List Char)
    (base offset base' offset' : Nat) :
    match nextFrom base offset 0 text with
    | none => nextFrom base' offset' 0 (substitute name expression text) = none
    | some (token, after) => ∃ token' after',
      nextFrom base' offset' 0 (substitute name expression text) = some (token', after') ∧
        Substituted name expression token after token' after' := by
  induction text using TokenKind.text_induction generalizing offset offset' with
  | nil => rfl
  | blank c rest blank ih =>
    rw [substitute_blank isName blank, nextFrom_blank blank, nextFrom_blank blank]
    exact ih _ _
  | comment rest ih =>
    -- The line feed that ends a comment is blank, so nothing is put in its place.
    have all : ∀ c ∈ rest.takeWhile (· != '\n'), (c != '\n') = true := fun _ => List.mem_takeWhile_imp
    have same : (substitute name expression (rest.dropWhile (· != '\n'))).dropWhile (· != '\n') =
        substitute name expression (rest.dropWhile (· != '\n')) := by
      cases found : rest.dropWhile (· != '\n') with
      | nil => rfl
      | cons c more =>
        have stops := List.head?_dropWhile_not (· != '\n') rest
        rw [found] at stops
        have line : c = '\n' := by simpa using stops
        rw [line, substitute_blank isName (by decide)]
        rfl
    rw [substitute_comment isName, nextFrom_comment, nextFrom_comment, List.dropWhile_append_of_pos all, same]
    exact ih _ _
  | token text starts ih =>
    rw [nextFrom_solid starts]
    by_cases same : String.ofList (text.take (first text).2) = name
    · have whole : substitute name expression text =
          '(' :: (expression ++ '\n' :: ')' :: substitute name expression (text.drop (first text).2)) := by
        rw [substitute_first starts.ne_nil, if_pos same, parenthesized]
        simp
      have opens : StartsSolid (substitute name expression text) := by
        rw [whole]
        exact ⟨'(', _, rfl, by decide, by simp⟩
      refine ⟨_, _, nextFrom_solid opens base' offset', .replaced same (isName.first_word same) ?_ ?_⟩
      · rw [whole, first_open]
      · rw [whole, first_open]
        rfl
    · have ⟨starts', kept⟩ : StartsSolid (substitute name expression text) ∧ _ := substitute_kept starts same
      have fits : (text.take (first text).2).length = (first text).2 := by
        have bounds : 0 < (first text).2 ∧ (first text).2 ≤ text.length ∧ _ := first_bounds starts.ne_nil rfl
        rw [List.length_take, Nat.min_eq_left bounds.2.1]
      refine ⟨_, _, nextFrom_solid starts' base' offset', .kept same ?_ ?_ ?_⟩
      · rw [kept]
      · rw [kept]
        dsimp only
        rw [substitute_first starts.ne_nil, if_neg same, List.take_append_of_le_length (Nat.le_of_eq fits.symm),
          List.take_of_length_le (Nat.le_of_eq fits)]
      · rw [kept]
        dsimp only
        rw [substitute_first starts.ne_nil, if_neg same, List.drop_append_of_le_length (Nat.le_of_eq fits.symm),
          List.drop_of_length_le (Nat.le_of_eq fits), List.nil_append]

variable {name : String} {expression : List Char} {cursor cursor' : Cursor}

/-- Both texts end, or they go on with a token of the one and what is put in its place in the other. -/
theorem read_substitute (isName : IsName name)
    (rest : cursor'.rest = substitute name expression cursor.rest) :
    (cursor.current.kind = .finish ∧ cursor'.current.kind = .finish) ∨
      Substituted name expression cursor.current cursor.advance cursor'.current cursor'.advance := by
  have reads := nextFrom_substitute isName expression cursor.rest cursor.base cursor.offset cursor'.base
    cursor'.offset
  rw [← rest] at reads
  change match cursor.next? with
    | none => cursor'.next? = none
    | some (token, after) => ∃ token' after', cursor'.next? = some (token', after') ∧
      Substituted name expression token after token' after' at reads
  by_cases finish : cursor.current.kind = .finish
  · rw [cursor.next?_eq_none_iff.mpr finish] at reads
    exact .inl ⟨finish, cursor'.next?_eq_none_iff.mp reads⟩
  · rw [next?_of_more finish] at reads
    obtain ⟨token', after', found, substituted⟩ := reads
    have current : cursor'.current = token' := by simp [current, read, found]
    have advance : cursor'.advance = after' := by simp [advance, read, found]
    exact .inr (by rwa [current, advance])

theorem kept_of_other (isName : IsName name)
    (rest : cursor'.rest = substitute name expression cursor.rest) (other : cursor.current.word ≠ name) :
    cursor'.current.kind = cursor.current.kind ∧ cursor'.current.text = cursor.current.text ∧
      cursor'.advance.rest = substitute name expression cursor.advance.rest := by
  rcases read_substitute isName rest with ⟨finish, finish'⟩ | substituted
  · have ends := ended_of_finish finish
    have ends' := ended_of_finish finish'
    rw [finish, finish', ends.1, ends'.1, ends.2, ends'.2]
    exact ⟨rfl, rfl, rfl⟩
  · cases substituted with
    | kept _ kind text behind => exact ⟨kind, text, behind⟩
    | replaced same => exact absurd same other

theorem replaced_of_name (isName : IsName name)
    (rest : cursor'.rest = substitute name expression cursor.rest) (same : cursor.current.word = name) :
    cursor.current.kind = .word ∧ cursor'.current.kind = .openParen ∧
      cursor'.advance.rest = expression ++ '\n' :: ')' :: substitute name expression cursor.advance.rest := by
  rcases read_substitute isName rest with ⟨finish, -⟩ | substituted
  · rw [Token.word, (ended_of_finish finish).1] at same
    subst same
    cases isName
  · cases substituted with
    | kept other => exact absurd same other
    | replaced _ word opens behind => exact ⟨word, opens, behind⟩

end Cursor

end MeshLang
