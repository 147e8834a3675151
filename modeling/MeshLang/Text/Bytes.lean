namespace MeshLang.Text

def byteSize : List Char → Nat
  | [] => 0
  | c :: rest => c.utf8Size + byteSize rest

/-- The bytes of the text can be counted in 32 bits, which is what places of tokens are kept in. -/
def Addressable (text : List Char) : Prop := byteSize text < UInt32.size

instance (text : List Char) : Decidable (Addressable text) := inferInstanceAs (Decidable (_ < _))

/-- What is left of a text after exactly `n` bytes of its UTF-8 form, in which places are counted;
nothing when `n` falls inside a character or past the end. -/
def dropBytes? : Nat → List Char → Option (List Char)
  | 0, text => some text
  | _ + 1, [] => none
  | n + 1, c :: rest => if c.utf8Size ≤ n + 1 then dropBytes? (n + 1 - c.utf8Size) rest else none

@[simp] theorem byteSize_nil : byteSize [] = 0 := rfl

@[simp] theorem byteSize_cons (c : Char) (rest : List Char) :
    byteSize (c :: rest) = c.utf8Size + byteSize rest := rfl

@[simp] theorem byteSize_append (left right : List Char) :
    byteSize (left ++ right) = byteSize left + byteSize right := by
  induction left with
  | nil => simp
  | cons c rest ih => simp [ih, Nat.add_assoc]

@[simp] theorem dropBytes?_zero (text : List Char) : dropBytes? 0 text = some text := by
  cases text <;> rfl

theorem dropBytes?_byteSize_append (left right : List Char) :
    dropBytes? (byteSize left) (left ++ right) = some right := by
  induction left with
  | nil => simp
  | cons c rest ih =>
    have positive : 0 < c.utf8Size := c.utf8Size_pos
    obtain ⟨n, size⟩ : ∃ n, c.utf8Size + byteSize rest = n + 1 :=
      ⟨c.utf8Size + byteSize rest - 1, by omega⟩
    rw [byteSize_cons, List.cons_append, size, dropBytes?, if_pos (by omega)]
    rw [show n + 1 - c.utf8Size = byteSize rest by omega, ih]

theorem append_of_dropBytes? {n : Nat} {text rest : List Char}
    (cut : dropBytes? n text = some rest) :
    ∃ taken, text = taken ++ rest ∧ byteSize taken = n := by
  induction text generalizing n with
  | nil =>
    cases n with
    | zero => exact ⟨[], by simpa using cut, rfl⟩
    | succ n => simp [dropBytes?] at cut
  | cons c text ih =>
    cases n with
    | zero => exact ⟨[], by simpa using cut, rfl⟩
    | succ n =>
      simp only [dropBytes?] at cut
      split at cut
      · rename_i fits
        obtain ⟨taken, rfl, size⟩ := ih cut
        exact ⟨c :: taken, rfl, by simp only [byteSize_cons]; omega⟩
      · cases cut

end MeshLang.Text
