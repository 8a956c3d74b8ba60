import PipelineEditor.Catalog.Structure
import PipelineEditor.Error

/-!
The node catalog: catalog entries by package.

Registering an entry replaces any entry of its package. A catalog built from a list of entries
keeps the later of two entries for one package, and keeps the parameter list of the generic
custom package (`customNodePackage`) empty. Looking a class up gives the first entry, in package
order, that declares it.
-/

namespace PipelineEditor

/-- Catalog entries by package. -/
structure Catalog where
  structures : Table NodeStructure
  /-- Each entry is stored under its own package. -/
  keyed : ∀ entry ∈ structures.entries, entry.2.package = entry.1

namespace Catalog

/-- The catalog without entries. -/
def empty : Catalog := ⟨Table.empty, fun _ h => nomatch h⟩

instance : Inhabited Catalog := ⟨empty⟩

/-- Adds an entry, replacing the entry of the same package. -/
def register (c : Catalog) (s : NodeStructure) : Catalog :=
  ⟨c.structures.insert s.package s, fun entry h => by
    rcases Table.mem_entries_insert h with rfl | h
    · rfl
    · exact c.keyed entry h⟩

/-- An entry as the catalog keeps it: the generic custom package has no parameters. -/
def keptEntry (s : NodeStructure) : NodeStructure :=
  if s.package = customNodePackage then { s with parameter := [] } else s

theorem keptEntry_package (s : NodeStructure) : (keptEntry s).package = s.package := by
  unfold keptEntry
  split <;> rfl

/-- The catalog of a list of entries; of two entries for one package the later wins. -/
def ofStructures (entries : List NodeStructure) : Catalog :=
  ⟨Table.ofList (entries.map fun s => (s.package, keptEntry s)), fun entry h => by
    obtain ⟨s, -, rfl⟩ := List.mem_map.mp (Table.mem_entries_ofList h)
    exact keptEntry_package s⟩

/-- The entry of a package. -/
def get? (c : Catalog) (package : String) : Option NodeStructure := c.structures.get? package

/-- The entry of a package, or the refusal to use an unknown one. -/
def structure? (c : Catalog) (package : String) : Except EditorError NodeStructure :=
  match c.get? package with
  | some s => .ok s
  | none => .error (.unknownPackage package)

/-- The package of the first entry, by package, that declares a class. -/
def packageOfClazz? (c : Catalog) (clazz : String) : Option String :=
  (c.structures.values.find? fun s => s.clazz == clazz).map (·.package)

/-- Keeps the entries that satisfy a test. -/
def retain (c : Catalog) (keep : NodeStructure → Bool) : Catalog :=
  ⟨c.structures.filter fun _ s => keep s, fun entry h => c.keyed entry (List.mem_filter.mp h).1⟩

/-- The entries, by package. -/
def entries (c : Catalog) : List NodeStructure := c.structures.values

/-- The packages, in order. -/
def packages (c : Catalog) : List String := c.structures.keys

/-- The number of entries. -/
def size (c : Catalog) : Nat := c.structures.size

/-- Whether there are no entries. -/
def isEmpty (c : Catalog) : Bool := c.structures.isEmpty

/-- The catalog without entries. -/
def clear (_ : Catalog) : Catalog := empty

theorem structure?_eq_ok {c : Catalog} {package : String} {s : NodeStructure} :
    c.structure? package = .ok s ↔ c.get? package = some s := by
  unfold structure?
  cases c.get? package <;> simp

theorem structure?_eq_error {c : Catalog} {package : String} {err : EditorError} :
    c.structure? package = .error err → c.get? package = none := by
  unfold structure?
  cases c.get? package <;> simp

end Catalog

end PipelineEditor
