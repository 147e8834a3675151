namespace MeshLang.Text

/-- The white-space characters, as inclusive ranges of code points. -/
def blankRanges : List (Nat × Nat) :=
  [(0x09, 0x0D), (0x20, 0x20), (0x85, 0x85), (0xA0, 0xA0), (0x1680, 0x1680), (0x2000, 0x200A),
   (0x2028, 0x2029), (0x202F, 0x202F), (0x205F, 0x205F), (0x3000, 0x3000)]

def inRanges (ranges : List (Nat × Nat)) (c : Char) : Bool :=
  ranges.any fun (first, last) => first ≤ c.toNat && c.toNat ≤ last

def isBlank (c : Char) : Bool := inRanges blankRanges c

def trimStart (text : List Char) : List Char := text.dropWhile isBlank

def trim (text : List Char) : List Char :=
  ((text.dropWhile isBlank).reverse.dropWhile isBlank).reverse

def wordsFrom (current : List Char) : List Char → List (List Char)
  | [] => if current.isEmpty then [] else [current.reverse]
  | c :: rest =>
    if isBlank c then
      if current.isEmpty then wordsFrom [] rest else current.reverse :: wordsFrom [] rest
    else wordsFrom (c :: current) rest

def words (text : List Char) : List (List Char) := wordsFrom [] text

def Blank (text : List Char) : Prop := ∀ c ∈ text, isBlank c = true

theorem Blank.nil : Blank [] := nofun

theorem Blank.reverse {text : List Char} (blank : Blank text) : Blank text.reverse :=
  fun c here => blank c (List.mem_reverse.mp here)

theorem blank_takeWhile (text : List Char) : Blank (text.takeWhile isBlank) :=
  List.all_eq_true.mp List.all_takeWhile

theorem exists_trim (text : List Char) :
    ∃ before after, Blank before ∧ Blank after ∧ text = before ++ trim text ++ after := by
  generalize start : text.dropWhile isBlank = rest
  have first : text = text.takeWhile isBlank ++ rest := by
    rw [← start, List.takeWhile_append_dropWhile]
  have last : rest = trim text ++ (rest.reverse.takeWhile isBlank).reverse := by
    rw [trim, start, ← List.reverse_append, List.takeWhile_append_dropWhile, List.reverse_reverse]
  refine ⟨_, _, blank_takeWhile text, (blank_takeWhile rest.reverse).reverse, ?_⟩
  rw [List.append_assoc, ← last, ← first]

theorem trim_append {before core after : List Char} (blank : Blank before) (blank' : Blank after)
    (first : ∀ c ∈ core.head?, isBlank c = false) (last : ∀ c ∈ core.getLast?, isBlank c = false)
    (filled : core ≠ []) : trim (before ++ core ++ after) = core := by
  have keeps {text : List Char} (stops : ∀ c ∈ text.head?, isBlank c = false) :
      text.dropWhile isBlank = text := by
    cases text with
    | nil => rfl
    | cons c rest => simp [stops c rfl]
  have front : (core ++ after).dropWhile isBlank = core ++ after := by
    apply keeps
    cases core with
    | nil => exact absurd rfl filled
    | cons c core => exact first
  have back : core.reverse.dropWhile isBlank = core.reverse := by
    apply keeps
    rw [List.head?_reverse]
    exact last
  rw [trim, List.append_assoc, List.dropWhile_append_of_pos blank, front, List.reverse_append,
    List.dropWhile_append_of_pos blank'.reverse, back, List.reverse_reverse]

/-- A text is cut at its white space: into nothing if there is nothing else, and otherwise into the
first run of other characters and the parts of what follows it. -/
inductive Parts : List Char → List (List Char) → Prop
  | none {text : List Char} (blank : Blank text) : Parts text []
  | part {before first rest : List Char} {parts : List (List Char)} (blank : Blank before)
      (filled : first ≠ []) (solid : ∀ c ∈ first, isBlank c = false)
      (ends : ∀ c ∈ rest.head?, isBlank c = true) (others : Parts rest parts) :
      Parts (before ++ (first ++ rest)) (first :: parts)

theorem Parts.cons_blank {c : Char} {text : List Char} {parts : List (List Char)}
    (blank : isBlank c = true) (cut : Parts text parts) : Parts (c :: text) parts := by
  cases cut with
  | none all => exact .none (List.forall_mem_cons.mpr ⟨blank, all⟩)
  | @part before first rest parts all filled solid ends others =>
    exact @part (c :: before) first rest parts (List.forall_mem_cons.mpr ⟨blank, all⟩) filled solid ends
      others

theorem Parts.cons_part {first rest : List Char} {parts : List (List Char)} (filled : first ≠ [])
    (solid : ∀ c ∈ first, isBlank c = false) (ends : ∀ c ∈ rest.head?, isBlank c = true)
    (others : Parts rest parts) : Parts (first ++ rest) (first :: parts) :=
  @part [] first rest parts .nil filled solid ends others

theorem parts_wordsFrom {current : List Char} (text : List Char)
    (solid : ∀ c ∈ current, isBlank c = false) :
    Parts (current.reverse ++ text) (wordsFrom current text) := by
  have solid' : ∀ c ∈ current.reverse, isBlank c = false := fun c here =>
    solid c (List.mem_reverse.mp here)
  induction text generalizing current with
  | nil =>
    unfold wordsFrom
    by_cases empty : current = []
    · subst empty
      exact .none .nil
    · rw [if_neg (by simpa using empty)]
      exact .cons_part (by simpa using empty) solid' nofun (.none .nil)
  | cons c rest ih =>
    unfold wordsFrom
    by_cases blank : isBlank c = true
    · have others : Parts (c :: rest) (wordsFrom [] rest) :=
        (@ih [] (by simp) (by simp)).cons_blank blank
      rw [if_pos blank]
      by_cases empty : current = []
      · subst empty
        exact others
      · rw [if_neg (by simpa using empty)]
        refine .cons_part (by simpa using empty) solid' ?_ others
        rintro _ ⟨⟩
        exact blank
    · rw [if_neg blank]
      have next : ∀ d ∈ c :: current, isBlank d = false :=
        List.forall_mem_cons.mpr ⟨Bool.eq_false_iff.mpr blank, solid⟩
      have longer := ih next fun d here => next d (List.mem_reverse.mp here)
      rwa [List.reverse_cons, List.append_assoc] at longer

theorem wordsFrom_nil_append {before : List Char} (blank : Blank before) (rest : List Char) :
    wordsFrom [] (before ++ rest) = wordsFrom [] rest := by
  induction before with
  | nil => rfl
  | cons c before ih =>
    have ⟨here, later⟩ := List.forall_mem_cons.mp blank
    rw [List.cons_append, wordsFrom, if_pos here]
    exact ih later

theorem wordsFrom_append {part : List Char} (solid : ∀ c ∈ part, isBlank c = false)
    (current rest : List Char) :
    wordsFrom current (part ++ rest) = wordsFrom (part.reverse ++ current) rest := by
  induction part generalizing current with
  | nil => rfl
  | cons c part ih =>
    have ⟨here, later⟩ := List.forall_mem_cons.mp solid
    rw [List.cons_append, wordsFrom, if_neg (by simp [here]), ih later, List.reverse_cons,
      List.append_assoc]
    rfl

theorem wordsFrom_of_blank {current rest : List Char} (filled : current ≠ [])
    (ends : ∀ c ∈ rest.head?, isBlank c = true) :
    wordsFrom current rest = current.reverse :: wordsFrom [] rest := by
  cases rest with
  | nil => simp [wordsFrom, filled]
  | cons c rest => simp [wordsFrom, ends c rfl, filled]

theorem words_eq_iff {text : List Char} {parts : List (List Char)} :
    words text = parts ↔ Parts text parts := by
  constructor
  · rintro rfl
    exact @parts_wordsFrom [] text (by simp)
  · intro cut
    induction cut with
    | none blank =>
      have cut := wordsFrom_nil_append blank []
      rwa [List.append_nil] at cut
    | part blank filled solid ends _ ih =>
      rw [words, wordsFrom_nil_append blank, wordsFrom_append solid, List.append_nil,
        wordsFrom_of_blank (by simpa using filled) ends, List.reverse_reverse]
      exact congrArg _ ih

end MeshLang.Text
