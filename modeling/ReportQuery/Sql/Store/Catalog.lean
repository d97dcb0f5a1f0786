/-
# What statements may refer to

The tables of a store, its views, and tables that are computed.  A view is a query that is settled
where it is referred to; what is wrong with it does no harm before.  It sees the tables of its own
schema only, unless it is temporary, and may not be made of itself.
-/

import ReportQuery.Sql.Document.Table
import ReportQuery.Sql.Settling.Query
import ReportQuery.Sql.Store.Basic

namespace ReportQuery
namespace Sql

/-! ## Views -/

/-- A fault, as it is met in a view of a schema: a table that is not there is named with the
schema. -/
def Fault.inView (schema : String) : Fault → Fault
  | .unknownTable name =>
    if name.contains '.' then .unknownTable name else .unknownTable (schema ++ "." ++ name)
  | fault => fault

/-- A view that cannot be used. -/
def StoredView.faulty (v : StoredView) (schema : String) (fault : Fault) : Table where
  schema
  names := [v.name]
  columns := []
  numberName := none
  fault := some fault
  rows := fun _ => .error fault

/-- The names of the columns of a view. -/
def StoredView.heading (v : StoredView) (c : Context) : Except Fault (List String) := do
  let found ← v.query.heading c.tables
  if v.columns.isEmpty then return uniqueNames [] found
  if v.columns.length ≠ found.length then
    throw (.store (.unevenView v.name v.columns.length found.length))
  return v.columns

/-- The rows of a view as a table. -/
def StoredView.toTable? (v : StoredView) (c : Context) (schema : String) :
    Except Fault Table := do
  let names ← v.heading c
  let relation ← prepare c v.query
  return {
    schema
    names := [v.name]
    columns := (names.zip relation.columns).map fun (name, column) =>
      { name
        affinity := column.affinity
        collation := (column.collating.map Collating.name).getD "BINARY" }
    numberName := none
    rows := fun _ => storedRows (relation.rows []) }

/-- A view as a table that statements may refer to. -/
def StoredView.toTable (v : StoredView) (c : Context) (schema : String) : Table :=
  let seen := if schema = "temp" then c.tables.catalog
    else c.tables.catalog.filter fun t => t.isCalled || t.schema = schema
  match v.toTable? { c with tables := { catalog := seen } } schema with
  | .ok t => t
  | .error fault => v.faulty schema (if schema = "temp" then fault else fault.inView schema)

/-! ## Catalogs -/

namespace Store

/-- What functions know of a store at some instant. -/
def circumstances (s : Store) (now : Int) : Circumstances where
  now
  changes := s.changes
  changesInAll := s.changesInAll
  lastRow := s.lastRow

/-- The tables of a store, given what becomes of its views. -/
def tablesWith (s : Store) (ofView : String → StoredView → Table) : Catalog :=
  s.lookupOrder.flatMap fun schema =>
    (schema.objects.filterMap fun
      | .table t =>
        let indexes := schema.indexesOf t.name
        some { t.toTable schema.name (t.scanned indexes) with
          indexes := indexes.map StoredIndex.name }
      | .view v => some (ofView schema.name v)
      | .index _ => none) ++ [schema.master]

/-- How many views there are. -/
def viewCount (s : Store) : Nat :=
  (s.schemas.flatMap fun schema => schema.objects.filterMap StoredObject.view?).length

/-- The tables and views of a store, where views may stand within so many others. -/
def relations (s : Store) (now : Int) : Nat → Catalog
  | 0 => s.tablesWith fun schema v => v.faulty schema (.store (.circularView v.name))
  | depth + 1 =>
    let inner := s.relations now depth ++ documentTables
    let c : Context :=
      { tables := { catalog := inner }, circumstances := s.circumstances now, parameters := [] }
    s.tablesWith fun schema v => v.toTable c schema

/-- The tables and views of a store. -/
def catalog (s : Store) (now : Int) : Catalog := s.relations now s.viewCount ++ documentTables

end Store

end Sql
end ReportQuery
