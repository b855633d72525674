import TableFlow.Table.Basic

/-!
# Catalogs

A catalog knows tables, the domains, by name. Registering a name again replaces its table.
-/

namespace TableFlow

/-- Tables by name, each name once. -/
structure Catalog where
  entries : List (String × Table)

namespace Catalog

/-- The catalog without domains. -/
def empty : Catalog := { entries := [] }

def find? (catalog : Catalog) (name : String) : Option Table :=
  catalog.entries.lookup name

/-- The catalog without a name. -/
def remove (catalog : Catalog) (name : String) : Catalog :=
  { entries := catalog.entries.filter fun entry => entry.1 != name }

/-- The catalog with a table under a name. -/
def register (catalog : Catalog) (name : String) (table : Table) : Catalog :=
  { entries := (catalog.remove name).entries ++ [(name, table)] }

/-- Whether a name is known. -/
def contains (catalog : Catalog) (name : String) : Bool :=
  (catalog.find? name).isSome

/-- The table of a name, which has to be known. -/
def retrieve (catalog : Catalog) (name : String) : Except StepError Table :=
  match catalog.find? name with
  | some table => .ok table
  | none => .error (.missingDomain name)

/-- The known names in the order of their characters. -/
def names (catalog : Catalog) : List String :=
  (catalog.entries.map Prod.fst).mergeSort fun left right => decide (left ≤ right)

end Catalog

end TableFlow
