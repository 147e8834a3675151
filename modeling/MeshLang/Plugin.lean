import MeshLang.OrderedMap
import MeshLang.Plugin.Arguments

namespace MeshLang

/-- A function outside the grammar. It gets the text after its name and answers with a value and the
number of bytes of the text that belong to the call. -/
structure Plugin (α : Type) where
  name : String
  description : String
  call : List Char → Script α (Except (PluginError α) (Value α × Nat))

structure Registry (α : Type) where
  plugins : OrderedMap String (Plugin α)

namespace Registry

variable {α : Type}

def empty : Registry α := ⟨.empty⟩

def register (registry : Registry α) (plugin : Plugin α) : Registry α :=
  ⟨registry.plugins.insert plugin.name plugin⟩

def get? (registry : Registry α) (name : String) : Option (Plugin α) := registry.plugins.get? name

def contains (registry : Registry α) (name : String) : Bool := registry.plugins.contains name

def names (registry : Registry α) : List String :=
  registry.plugins.keys.mergeSort fun a b => decide (a ≤ b)

def descriptions (registry : Registry α) : List String :=
  registry.names.filterMap fun name => (registry.get? name).map (·.description)

def size (registry : Registry α) : Nat := registry.plugins.entries.length

def quotedName (name : String) : String :=
  let characters := name.toList.flatMap fun c =>
    if c = '"' || c = '\\' then ['\\', c] else [c]
  "\"" ++ String.ofList characters ++ "\""

def text (registry : Registry α) : String :=
  "PluginRegistry \x7b functions: ["
    ++ ", ".intercalate (registry.names.map quotedName) ++ "] \x7d"

end Registry

end MeshLang
