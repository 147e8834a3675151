import Mathlib.Algebra.Group.Nat.Defs
import Mathlib.Data.List.DropRight
import MeshLang.Text.Lines

namespace MeshLang.Text

def bytes (text : String) : List UInt8 := text.toByteArray.data.toList

def lineFeed : UInt8 := 10

def startsIn (offset : Nat) : List UInt8 → List Nat
  | [] => []
  | b :: rest =>
    if b = lineFeed then (offset + 1) :: startsIn (offset + 1) rest else startsIn (offset + 1) rest

def lastStart (before : List UInt8) : Nat := (before.rdropWhile (· != lineFeed)).length

/-- The line and the column of the place behind some bytes. -/
def placeBehind (before : List UInt8) : LineColumn :=
  ⟨before.count lineFeed, before.length - lastStart before⟩

def LineColumn.Before (p q : LineColumn) : Prop :=
  p.line < q.line ∨ p.line = q.line ∧ p.column < q.column

theorem bytes_length (text : String) : (bytes text).length = text.utf8ByteSize := rfl

theorem bytes_eq (text : String) : bytes text = text.toList.flatMap String.utf8EncodeChar := by
  rw [bytes, ← String.utf8Encode_toList, List.utf8Encode, List.toList_data_toByteArray]

section Bytes

variable {offset p : Nat} {before between left right : List UInt8}

theorem startsIn_append (offset : Nat) (left right : List UInt8) :
    startsIn offset (left ++ right) = startsIn offset left ++ startsIn (offset + left.length) right := by
  induction left generalizing offset with
  | nil => rfl
  | cons b left ih =>
    have further : offset + 1 + left.length = offset + (b :: left).length := by
      rw [List.length_cons, Nat.add_assoc, Nat.add_comm 1]
    simp only [List.cons_append, startsIn, ih, further]
    split <;> rfl

theorem startsIn_bounds (member : p ∈ startsIn offset before) :
    offset < p ∧ p ≤ offset + before.length := by
  induction before generalizing offset with
  | nil => cases member
  | cons b rest ih =>
    have later (member : p ∈ startsIn (offset + 1) rest) :
        offset < p ∧ p ≤ offset + (b :: rest).length := by
      have bounds := ih member
      rw [List.length_cons]
      omega
    rw [startsIn] at member
    split at member
    · rcases List.mem_cons.mp member with rfl | member
      · rw [List.length_cons]
        omega
      · exact later member
    · exact later member

theorem length_startsIn (offset : Nat) (before : List UInt8) :
    (startsIn offset before).length = before.count lineFeed := by
  induction before generalizing offset with
  | nil => rfl
  | cons b rest ih =>
    rw [startsIn, List.count_cons]
    by_cases feed : b = lineFeed
    · simp [feed, ih]
    · simp [feed, ih]

theorem startsIn_eq_nil (plain : lineFeed ∉ before) : startsIn offset before = [] := by
  rw [← List.length_eq_zero_iff, length_startsIn, List.count_eq_zero]
  exact plain

theorem lineFeed_notMem {c : Char} (other : c ≠ '\n') : lineFeed ∉ String.utf8EncodeChar c := by
  have apart : c.val.toNat ≠ 10 := fun same => other (Char.toNat_inj.mp same)
  have differs {n : Nat} (byte : n < 256) (apart : n ≠ 10) : lineFeed ≠ UInt8.ofNat n := by
    intro same
    have value := congrArg UInt8.toNat same
    rw [UInt8.toNat_ofNat_of_lt' byte] at value
    exact apart value.symm
  unfold String.utf8EncodeChar
  dsimp only
  split
  · simp only [List.mem_cons, List.not_mem_nil, or_false]
    exact differs (by omega) apart
  -- Every byte of a longer encoding is at least 128.
  · split
    · simp only [List.mem_cons, List.not_mem_nil, or_false, not_or]
      exact ⟨differs (by omega) (by omega), differs (by omega) (by omega)⟩
    · split
      · simp only [List.mem_cons, List.not_mem_nil, or_false, not_or]
        exact ⟨differs (by omega) (by omega), differs (by omega) (by omega), differs (by omega) (by omega)⟩
      · simp only [List.mem_cons, List.not_mem_nil, or_false, not_or]
        exact ⟨differs (by omega) (by omega), differs (by omega) (by omega), differs (by omega) (by omega),
          differs (by omega) (by omega)⟩

theorem laterLineStarts_eq (offset : Nat) (text : List Char) :
    laterLineStarts offset text = startsIn offset (text.flatMap String.utf8EncodeChar) := by
  induction text generalizing offset with
  | nil => rfl
  | cons c rest ih =>
    rw [laterLineStarts, List.flatMap_cons, startsIn_append, String.length_utf8EncodeChar, ih, ih]
    by_cases feed : c = '\n'
    · rw [if_pos feed, feed]
      rfl
    · rw [if_neg feed, startsIn_eq_nil (lineFeed_notMem feed), List.nil_append]

theorem starts_eq (text : String) : (LineIndex.ofText text).starts = 0 :: startsIn 0 (bytes text) := by
  rw [LineIndex.ofText, laterLineStarts_eq, bytes_eq]

theorem lastStart_le (before : List UInt8) : lastStart before ≤ before.length :=
  (List.rdropWhile_prefix _ _).length_le

theorem getLast?_startsIn (before : List UInt8) :
    (0 :: startsIn 0 before).getLast? = some (lastStart before) := by
  induction before using List.reverseRecOn with
  | nil => rfl
  | append_singleton before b ih =>
    rw [startsIn_append, lastStart]
    by_cases feed : b = lineFeed
    · rw [List.rdropWhile_concat_neg _ _ _ (by simp [feed]), feed]
      rw [show startsIn (0 + before.length) [lineFeed] = [before.length + 1] by simp [startsIn],
        ← List.cons_append, List.getLast?_concat, List.length_append]
      rfl
    · have plain : lineFeed ∉ [b] := by simp [Ne.symm feed]
      rw [List.rdropWhile_concat_pos _ _ _ (by simp [feed]), startsIn_eq_nil plain, List.append_nil]
      exact ih

theorem placeBehind_before (filled : between ≠ []) :
    (placeBehind before).Before (placeBehind (before ++ between)) := by
  have positive : 0 < between.length := List.length_pos_iff.mpr filled
  by_cases feed : lineFeed ∈ between
  · refine .inl ?_
    have more : 0 < between.count lineFeed := List.count_pos_iff.mpr feed
    simp only [placeBehind, List.count_append]
    omega
  · have same : lastStart (before ++ between) = lastStart before := by
      have plain : ∀ b ∈ between.reverse, (b != lineFeed) = true := by
        intro b member
        rw [List.mem_reverse] at member
        exact bne_iff_ne.mpr fun same => feed (same ▸ member)
      rw [lastStart, List.rdropWhile, List.reverse_append, List.dropWhile_append_of_pos plain]
      rfl
    have started := lastStart_le before
    refine .inr ⟨?_, ?_⟩
    · simp only [placeBehind, List.count_append, List.count_eq_zero.mpr feed, Nat.add_zero]
    · simp only [placeBehind, same, List.length_append]
      omega

theorem placeBehind_take_before {o o' : Nat} (less : o < o') (upTo : o' ≤ before.length) :
    (placeBehind (before.take o)).Before (placeBehind (before.take o')) := by
  have split : before.take o' = before.take o ++ (before.drop o).take (o' - o) := by
    rw [← List.take_add, Nat.add_sub_cancel' (Nat.le_of_lt less)]
  rw [split]
  refine placeBehind_before (List.ne_nil_of_length_pos ?_)
  rw [List.length_take, List.length_drop]
  omega

theorem LineColumn.Before.ne {p q : LineColumn} (earlier : p.Before q) : p ≠ q := by
  rintro rfl
  rcases earlier with less | ⟨-, less⟩
  · exact Nat.lt_irrefl _ less
  · exact Nat.lt_irrefl _ less

end Bytes

section Search

variable {numbers left right : List UInt32} {n : UInt32} {count : Nat}

/-- The first numbers, so many of them, are not beyond `n`, and all others are. -/
structure Splits (numbers : List UInt32) (n : UInt32) (count : Nat) : Prop where
  inside : count ≤ numbers.length
  before : ∀ (i : Nat) (m : UInt32), numbers[i]? = some m → i < count → m ≤ n
  after : ∀ (i : Nat) (m : UInt32), numbers[i]? = some m → count ≤ i → n < m

theorem Splits.append (before : ∀ m ∈ left, m ≤ n) (after : ∀ m ∈ right, n < m) :
    Splits (left ++ right) n left.length where
  inside := by simp
  before i m found below := by
    rw [List.getElem?_append_left below] at found
    exact before m (List.mem_of_getElem? found)
  after i m found above := by
    rw [List.getElem?_append_right above] at found
    exact after m (List.mem_of_getElem? found)

theorem slotFrom?_eq (splits : Splits numbers n count) {base size : Nat} (lower : base < count)
    (upper : count ≤ base + size) (within : base + size ≤ numbers.length) :
    slotFrom? numbers n base size =
      some (if numbers[count - 1]? = some n then .hit (count - 1) else .gap count) := by
  fun_induction slotFrom? numbers n base size with
  | case1 base size single =>
    obtain rfl : count = base + 1 := by omega
    have there : base < numbers.length := by omega
    have found := List.getElem?_eq_getElem there
    have upTo := splits.before base _ found (by omega)
    rw [Nat.add_sub_cancel, found, Option.map_some, Option.some.injEq]
    by_cases same : numbers[base] = n
    · simp [same]
    · have less : numbers[base] < n := by
        rw [UInt32.lt_iff_toNat_lt]
        rw [UInt32.le_iff_toNat_le] at upTo
        exact Nat.lt_of_le_of_ne upTo fun equal => same (UInt32.toNat_inj.mp equal)
      simp [same, less]
  | case2 base size several missing =>
    rw [List.getElem?_eq_getElem (by omega)] at missing
    cases missing
  | case3 base size several middle found beyond ih =>
    refine ih lower ?_ (by omega)
    by_contra above
    have upTo := splits.before _ middle found (by omega)
    rw [UInt32.lt_iff_toNat_lt] at beyond
    rw [UInt32.le_iff_toNat_le] at upTo
    omega
  | case4 base size several middle found upTo ih =>
    refine ih ?_ (by omega) (by omega)
    by_contra below
    exact upTo (splits.after _ middle found (by omega))

theorem slot?_last (splits : Splits numbers n (count + 1)) :
    (slot? numbers n).bind Slot.last? = some count := by
  have inside := splits.inside
  have filled : numbers.isEmpty = false := by
    cases numbers with
    | nil => simp at inside
    | cons => rfl
  rw [slot?, filled, if_neg Bool.false_ne_true,
    slotFrom?_eq splits count.succ_pos (by omega) (by omega), Nat.add_sub_cancel]
  split <;> rfl

end Search

namespace LineIndex

variable {text : String} {offset : UInt32} {o p : Nat}

theorem starts_split (upTo : o ≤ (bytes text).length) :
    (ofText text).starts =
      (0 :: startsIn 0 ((bytes text).take o)) ++ startsIn o ((bytes text).drop o) := by
  have split := startsIn_append 0 ((bytes text).take o) ((bytes text).drop o)
  rw [List.take_append_drop, List.length_take, Nat.min_eq_left upTo, Nat.zero_add] at split
  rw [starts_eq, split, List.cons_append]

theorem le_of_started (member : p ∈ 0 :: startsIn 0 ((bytes text).take o)) : p ≤ o := by
  rcases List.mem_cons.mp member with rfl | member
  · exact Nat.zero_le o
  · have within := (startsIn_bounds member).2
    rw [List.length_take] at within
    omega

theorem lineColumn_eq (upTo : o ≤ (bytes text).length) :
    (ofText text).lineColumn o = placeBehind ((bytes text).take o) := by
  have started : (ofText text).starts.takeWhile (· ≤ o) = 0 :: startsIn 0 ((bytes text).take o) := by
    have beyond : (startsIn o ((bytes text).drop o)).takeWhile (· ≤ o) = [] := by
      rw [List.takeWhile_eq_nil_iff]
      intro filled
      have first := startsIn_bounds (List.getElem_mem filled)
      simpa using first.1
    rw [starts_split upTo, List.takeWhile_append_of_pos fun p member => by simpa using le_of_started member,
      beyond, List.append_nil]
  rw [lineColumn, started, List.getLastD_eq_getLast?, getLast?_startsIn, placeBehind, List.length_cons,
    length_startsIn, List.length_take, Nat.min_eq_left upTo]
  rfl

theorem toNat_word (below : p < 2 ^ 32) : (UInt32.ofNat p).toNat = p := UInt32.toNat_ofNat_of_lt' below

section Words

variable (short : (bytes text).length < 2 ^ 32) (upTo : offset.toNat ≤ (bytes text).length)

include short upTo

theorem words_splits :
    Splits (ofText text).words offset (((bytes text).take offset.toNat).count lineFeed + 1) := by
  have counted : (((0 :: startsIn 0 ((bytes text).take offset.toNat)).map UInt32.ofNat)).length =
      ((bytes text).take offset.toNat).count lineFeed + 1 := by
    rw [List.length_map, List.length_cons, length_startsIn]
  rw [LineIndex.words, starts_split upTo, List.map_append, ← counted]
  refine .append (fun m member => ?_) fun m member => ?_
  · obtain ⟨p, started, rfl⟩ := List.mem_map.mp member
    have within := le_of_started started
    rw [UInt32.le_iff_toNat_le, toNat_word (by omega)]
    exact within
  · obtain ⟨p, started, rfl⟩ := List.mem_map.mp member
    have bounds := startsIn_bounds started
    rw [List.length_drop] at bounds
    rw [UInt32.lt_iff_toNat_lt, toNat_word (by omega)]
    exact bounds.1

omit short in
theorem words_last :
    (ofText text).words[((bytes text).take offset.toNat).count lineFeed]? =
      some (UInt32.ofNat (lastStart ((bytes text).take offset.toNat))) := by
  let before := (bytes text).take offset.toNat
  have last : (0 :: startsIn 0 before)[before.count lineFeed]? = some (lastStart before) := by
    rw [← getLast?_startsIn, List.getLast?_eq_getElem?, List.length_cons, length_startsIn,
      Nat.add_sub_cancel]
  have there : before.count lineFeed < (0 :: startsIn 0 before).length := by
    rw [List.length_cons, length_startsIn]
    exact Nat.lt_succ_self _
  rw [LineIndex.words, List.getElem?_map, starts_split upTo, List.getElem?_append_left there, last]
  rfl

/-- Step by step, no start is read that is not there, and no difference is less than zero. -/
theorem lineColumn?_eq :
    (ofText text).lineColumn? offset = some (placeBehind ((bytes text).take offset.toNat)) := by
  let before := (bytes text).take offset.toNat
  have size : before.length = offset.toNat := by rw [List.length_take, Nat.min_eq_left upTo]
  have started := lastStart_le before
  have word : (UInt32.ofNat (lastStart before)).toNat = lastStart before := toNat_word (by omega)
  have ordered : UInt32.ofNat (lastStart before) ≤ offset := by
    rw [UInt32.le_iff_toNat_le, word]
    omega
  have converted : (ofText text).lineColumn? offset =
      ((slot? (ofText text).words offset).bind Slot.last?).bind fun line =>
        (ofText text).words[line]?.bind fun start =>
          if offset < start then none else some ⟨line, (offset - start).toNat⟩ := by
    rw [Option.bind_assoc]
    rfl
  rw [converted, slot?_last (words_splits short upTo), Option.bind_some, words_last upTo, Option.bind_some,
    if_neg (UInt32.not_lt.mpr ordered), UInt32.toNat_sub_of_le _ _ ordered, word, placeBehind, size]

end Words

/-- How the positions in a text are converted. `place`: the line is the number of line feeds among the
bytes before a position, the column how far it is from the last one of them. `agrees`: going through all
starts gives the same. `injective`, `ordered`: different positions have different places, in the same
order. `count`: every line feed ends a line. -/
structure Converts (index : LineIndex) (text : String) : Prop where
  place : ∀ offset : UInt32, offset.toNat ≤ text.utf8ByteSize →
    let before := (bytes text).take offset.toNat
    index.lineColumn? offset = some ⟨before.count lineFeed, offset.toNat - lastStart before⟩
  agrees : ∀ offset : UInt32, offset.toNat ≤ text.utf8ByteSize →
    index.lineColumn? offset = some (index.lineColumn offset.toNat)
  injective : ∀ offset offset' : UInt32, offset.toNat ≤ text.utf8ByteSize →
    offset'.toNat ≤ text.utf8ByteSize → index.lineColumn? offset = index.lineColumn? offset' →
    offset = offset'
  ordered : ∀ offset offset' : UInt32, offset < offset' → offset'.toNat ≤ text.utf8ByteSize →
    ∃ place place', index.lineColumn? offset = some place ∧ index.lineColumn? offset' = some place' ∧
      place.Before place'
  count : index.lineCount = (bytes text).count lineFeed + 1

/-- Lines and columns are exact for every position, also for one within a character. -/
theorem ofText_converts (text : String) (short : text.utf8ByteSize < 2 ^ 32) :
    (ofText text).Converts text := by
  have converted {offset : UInt32} (upTo : offset.toNat ≤ (bytes text).length) :=
    lineColumn?_eq short upTo
  have apart {offset offset' : UInt32} (upTo : offset'.toNat ≤ (bytes text).length)
      (less : offset.toNat < offset'.toNat) :
      (ofText text).lineColumn? offset ≠ (ofText text).lineColumn? offset' := by
    rw [converted upTo, converted (by omega), Ne, Option.some.injEq]
    exact (placeBehind_take_before less upTo).ne
  refine ⟨fun offset upTo => ?_, fun offset upTo => ?_, fun offset offset' upTo upTo' same => ?_,
    fun offset offset' less upTo => ?_, ?_⟩
  · have size : ((bytes text).take offset.toNat).length = offset.toNat := by
      rw [List.length_take, bytes_length, Nat.min_eq_left upTo]
    rw [converted upTo, placeBehind, size]
  · rw [converted upTo, lineColumn_eq upTo]
  · rcases Nat.lt_trichotomy offset.toNat offset'.toNat with less | equal | greater
    · exact absurd same (apart upTo' less)
    · exact UInt32.toNat_inj.mp equal
    · exact absurd same.symm (apart upTo greater)
  · rw [UInt32.lt_iff_toNat_lt] at less
    exact ⟨_, _, converted (Nat.le_trans (Nat.le_of_lt less) upTo), converted upTo,
      placeBehind_take_before less upTo⟩
  · rw [lineCount, starts_eq, List.length_cons, length_startsIn]

/-- A text with an empty line, a character of three bytes and a line feed at the end: the position within
the character, the one at the start of the empty line, and the one at the end. -/
theorem ofText_converts_multilingual :
    let text := "€ +\n\n  b\n"
    text.utf8ByteSize < 2 ^ 32 ∧ (ofText text).lineColumn? 1 = some ⟨0, 1⟩ ∧
      (ofText text).lineColumn? 6 = some ⟨1, 0⟩ ∧ (ofText text).lineColumn? 11 = some ⟨3, 0⟩ ∧
      (ofText text).Converts text := by
  refine ⟨by decide, by decide +kernel, by decide +kernel, by decide +kernel, ?_⟩
  exact ofText_converts _ (by decide)

end LineIndex

end MeshLang.Text
