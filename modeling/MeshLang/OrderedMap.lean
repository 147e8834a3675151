namespace MeshLang

/-- A table that remembers the order in which its keys were first added. A value that is stored
again keeps its place. -/
structure OrderedMap (κ β : Type) where
  entries : List (κ × β)
deriving DecidableEq, Repr

namespace OrderedMap

variable {κ β : Type}

def empty : OrderedMap κ β := ⟨[]⟩

def keys (map : OrderedMap κ β) : List κ := map.entries.map (·.1)

def values (map : OrderedMap κ β) : List β := map.entries.map (·.2)

variable [DecidableEq κ]

def find? (key : κ) : List (κ × β) → Option β
  | [] => none
  | (k, value) :: rest => if k = key then some value else find? key rest

def store (key : κ) (value : β) : List (κ × β) → List (κ × β)
  | [] => [(key, value)]
  | (k, old) :: rest => if k = key then (k, value) :: rest else (k, old) :: store key value rest

def get? (map : OrderedMap κ β) (key : κ) : Option β := find? key map.entries

def insert (map : OrderedMap κ β) (key : κ) (value : β) : OrderedMap κ β :=
  ⟨store key value map.entries⟩

def contains (map : OrderedMap κ β) (key : κ) : Bool := (map.get? key).isSome

theorem find?_store (key other : κ) (value : β) (entries : List (κ × β)) :
    find? other (store key value entries) =
      if key = other then some value else find? other entries := by
  induction entries with
  | nil => simp [store, find?]
  | cons pair rest ih =>
    obtain ⟨k, old⟩ := pair
    by_cases same : k = key
    · subst same
      by_cases hit : k = other <;> simp [store, find?, hit]
    · by_cases hit : k = other
      · subst hit
        have apart : ¬ key = k := fun h => same h.symm
        simp [store, find?, same, apart]
      · simp [store, find?, same, hit, ih]

theorem get?_insert (map : OrderedMap κ β) (key other : κ) (value : β) :
    (map.insert key value).get? other = if key = other then some value else map.get? other :=
  find?_store key other value map.entries

theorem keys_store (key : κ) (value : β) (entries : List (κ × β)) :
    (store key value entries).map (·.1) =
      if key ∈ entries.map (·.1) then entries.map (·.1) else entries.map (·.1) ++ [key] := by
  induction entries with
  | nil => rfl
  | cons pair rest ih =>
    obtain ⟨k, old⟩ := pair
    by_cases same : k = key
    · simp [store, same]
    · simp only [store, if_neg same, List.map_cons, ih, List.mem_cons, Ne.symm same, false_or]
      split <;> rfl

theorem keys_insert (map : OrderedMap κ β) (key : κ) (value : β) :
    (map.insert key value).keys = if key ∈ map.keys then map.keys else map.keys ++ [key] :=
  keys_store key value map.entries

theorem store_store (key : κ) (first second : β) (entries : List (κ × β)) :
    store key second (store key first entries) = store key second entries := by
  induction entries with
  | nil => simp [store]
  | cons pair rest ih =>
    obtain ⟨k, old⟩ := pair
    by_cases same : k = key <;> simp [store, same, ih]

theorem insert_insert (map : OrderedMap κ β) (key : κ) (first second : β) :
    (map.insert key first).insert key second = map.insert key second :=
  congrArg OrderedMap.mk (store_store key first second map.entries)

theorem forall_empty {P : κ → β → Prop} :
    ∀ key value, (empty : OrderedMap κ β).get? key = some value → P key value := by
  intro key value known
  cases known

theorem forall_insert {map : OrderedMap κ β} {P : κ → β → Prop} {key : κ} {value : β}
    (all : ∀ other found, map.get? other = some found → P other found) (holds : P key value) :
    ∀ other found, (map.insert key value).get? other = some found → P other found := by
  intro other found known
  rw [get?_insert] at known
  split at known
  · rename_i same
    subst same
    cases known
    exact holds
  · exact all other found known

end OrderedMap

end MeshLang
