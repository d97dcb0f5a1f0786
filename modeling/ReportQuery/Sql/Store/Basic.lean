/-
# Stores

A store holds schemas: that of the database, which is called `main`, that of what is temporary,
and those of databases that are attached.  A schema holds tables, views and indexes, in the order
in which they were made, and describes them in a table of its own.

| what | described by |
| --- | --- |
| kind | `type` |
| name, and that of the table it belongs to | `name`, `tbl_name` |
| page of the file where it begins, 0 for a view | `rootpage` |
| statement that made it, null for the index of a rule | `sql` |

The rows of a table have numbers, and come in the order of these.
-/

import ReportQuery.Sql.Command
import ReportQuery.Sql.Order
import ReportQuery.Sql.Schema

namespace ReportQuery
namespace Sql

/-! ## What a schema holds -/

/-- A row of a table. -/
structure StoredRow where
  number : Int64
  values : List Value

/-- A column of a table. -/
structure StoredColumn extends TableColumn where
  /-- The type as it is written. -/
  type : String := ""
  /-- What is done about a row that has null in it, if there may be none. -/
  required : Option Conflict := none
  /-- The value that it has where none is given, and how that is written. -/
  initial : Option (Expr × String) := none
  /-- Its place in the primary key, from 1 on; 0 if it has none there. -/
  keyPlace : Nat := 0
  /-- The value that is computed for it. -/
  computed : Option Expr := none
  /-- Whether the value that is computed is kept with the row. -/
  isKept : Bool := false

/-- How far a column is hidden as it is reported: 2 and 3 are for values that are computed. -/
def StoredColumn.hiding (c : StoredColumn) : Nat :=
  if c.computed.isNone then 0 else if c.isKept then 3 else 2

/-- What an index is there for. -/
inductive IndexOrigin where
  | created
  | unique
  | primaryKey
deriving DecidableEq, Repr

/-- An index of a table. -/
structure StoredIndex where
  name : String
  table : String
  keys : List Term
  condition : List Expr := []
  isUnique : Bool
  origin : IndexOrigin
  conflict : Option Conflict := none
  /-- The statement that made it; empty if it belongs to a rule. -/
  written : String := ""
  /-- Where it begins, unless that is where its table does. -/
  page : Option Nat

/-- A table. -/
structure StoredTable where
  name : String
  columns : List StoredColumn
  /-- The place of the column that holds the number of a row. -/
  numberPlace : Option Nat := none
  /-- What is done about a number that there is already. -/
  numberConflict : Conflict := .abort
  /-- Whether numbers are never used again. -/
  counts : Bool := false
  /-- Whether its rows have numbers that can be asked for. -/
  isNumbered : Bool := true
  /-- Whether values have to be of the types of their columns. -/
  isStrict : Bool := false
  checks : List (String × Expr) := []
  written : String
  page : Nat
  rows : List StoredRow := []

/-- A view. -/
structure StoredView where
  name : String
  columns : List String
  query : Select
  written : String

/-- What a schema holds. -/
inductive StoredObject where
  | table (t : StoredTable)
  | view (v : StoredView)
  | index (i : StoredIndex)

namespace StoredObject

/-- The name of what a schema holds. -/
def name : StoredObject → String
  | .table t => t.name
  | .view v => v.name
  | .index i => i.name

/-- What it is. -/
def kind : StoredObject → ObjectKind
  | .table _ => .table
  | .view _ => .view
  | .index _ => .index

/-- The table, if it is one. -/
def table? : StoredObject → Option StoredTable
  | .table t => some t
  | _ => none

/-- The view, if it is one. -/
def view? : StoredObject → Option StoredView
  | .view v => some v
  | _ => none

/-- The index, if it is one. -/
def index? : StoredObject → Option StoredIndex
  | .index i => some i
  | _ => none

/-- Whether it is the index of a table. -/
def isIndexOf (table : String) (o : StoredObject) : Bool :=
  o.index?.any fun i => sameName i.table table

/-- The page where it begins. -/
def page? : StoredObject → Option Nat
  | .table t => some t.page
  | .view _ => none
  | .index i => i.page

/-- Its row in the table that describes its schema, if it has one. -/
def record? : StoredObject → Option (List Value)
  | .table t => some (recordOf "table" t.name t.name t.page (.text t.written))
  | .view v => some (recordOf "view" v.name v.name 0 (.text v.written))
  | .index i => i.page.map fun page => recordOf "index" i.name i.table page
      (if i.written.isEmpty then .null else .text i.written)
where
  /-- A row of the table that describes a schema. -/
  recordOf (kind name table : String) (page : Nat) (written : Value) : List Value :=
    [.text kind, .text name, .text table, .integer (Int64.ofNat page), written]

end StoredObject

/-! ## Schemas -/

/-- A schema. -/
structure Schema where
  name : String
  objects : List StoredObject := []
  /-- How many pages its file has. -/
  pages : Nat := 0
  /-- Pages that nothing begins on any more; the first one keeps the list of the others. -/
  freePages : List Nat := []
  /-- Settings that are stored with it. -/
  settings : List (String × Value) := []

namespace Schema

/-- The tables of a schema. -/
def tables (s : Schema) : List StoredTable := s.objects.filterMap StoredObject.table?

/-- The indexes of a table. -/
def indexesOf (s : Schema) (table : String) : List StoredIndex :=
  s.objects.filterMap fun o => o.index?.filter fun i => sameName i.table table

/-- The indexes of a table in the order in which they are looked at: the last one first, but behind
all others those that remove the rows in the way of new ones. -/
def indexesInTurn (s : Schema) (table : String) : List StoredIndex :=
  let (last, first) := (s.indexesOf table).reverse.partition fun i => i.conflict = some .replace
  first ++ last

/-- A table or a view of a schema. -/
def relation? (s : Schema) (name : String) : Option StoredObject :=
  s.objects.find? fun o => o.kind ≠ .index && sameName o.name name

/-- An index of a schema. -/
def index? (s : Schema) (name : String) : Option StoredIndex :=
  (s.objects.filterMap StoredObject.index?).find? fun i => sameName i.name name

/-- Takes a page for something that begins: the first free one, and the one that keeps the list
of the free ones last. -/
def takePage (s : Schema) : Nat × Schema :=
  match s.freePages with
  | [] =>
    let page := max s.pages 1 + 1
    (page, { s with pages := page })
  | [page] => (page, { s with freePages := [] })
  | list :: page :: pages =>
    let page := pages.foldl min page
    (page, { s with freePages := list :: s.freePages.tail.erase page })

/-- Adds what begins on a page. -/
def add (s : Schema) (make : Nat → StoredObject) : Schema :=
  let (page, s) := s.takePage
  { s with objects := s.objects ++ [make page] }

/-- Takes some of what a schema holds out of it.  The last page is free first. -/
def remove (s : Schema) (isMeant : StoredObject → Bool) : Schema :=
  let (gone, kept) := s.objects.partition isMeant
  let pages := (gone.filterMap StoredObject.page?).mergeSort fun a b => b ≤ a
  { s with objects := kept, freePages := s.freePages ++ pages }

/-- Puts a table in the place of the one of its name. -/
def putTable (s : Schema) (t : StoredTable) : Schema :=
  { s with objects := s.objects.map fun
      | .table known => .table (if sameName known.name t.name then t else known)
      | o => o }

/-- The names of the table that describes a schema. -/
def masterNames (s : Schema) : List String :=
  if s.name = "temp" then ["sqlite_temp_master", "sqlite_temp_schema"]
  else ["sqlite_master", "sqlite_schema"]

/-- The columns of the table that describes a schema. -/
def masterColumns : List StoredColumn :=
  [{ name := "type", type := "TEXT", affinity := .text },
    { name := "name", type := "TEXT", affinity := .text },
    { name := "tbl_name", type := "TEXT", affinity := .text },
    { name := "rootpage", type := "INT", affinity := .integer },
    { name := "sql", type := "TEXT", affinity := .text }]

/-- The table that describes a schema. -/
def master (s : Schema) : Table where
  schema := s.name
  names := s.masterNames
  namesInSchema := if s.name = "temp" then ["sqlite_master", "sqlite_schema"] else []
  isFound := s.name = "main" || s.name = "temp"
  columns := masterColumns.map StoredColumn.toTableColumn
  rows := Table.numbered (s.objects.filterMap StoredObject.record?)

end Schema

/-! ## Tables and their rows -/

/-- The place of a column of a table. -/
def StoredTable.place? (t : StoredTable) (column : String) : Option Nat :=
  t.columns.findIdx? fun c => sameName c.name column

/-- The place of a column that a key names. -/
def StoredTable.placeOfKey? (t : StoredTable) : Expr → Option Nat
  | .column ⟨none, none, column, _⟩ => t.place? column
  | _ => none

/-- How a key of an index is ordered. -/
def StoredTable.keyOrder (t : StoredTable) : Term → Option (Nat × KeyOrder)
  | .mk (.apply (.collate name) [key]) descending nullsFirst =>
    (t.placeOfKey? key).map fun place =>
      (place, ⟨(Collation.ofName? name).getD .binary, descending, nullsFirst⟩)
  | .mk key descending nullsFirst =>
    (t.placeOfKey? key).map fun place =>
      let name := (t.columns[place]?.map fun c => c.collation).getD "BINARY"
      (place, ⟨(Collation.ofName? name).getD .binary, descending, nullsFirst⟩)

/-- The rows of a table as they are read: where they have no numbers, in the order of the primary
key. -/
def StoredTable.scanned (t : StoredTable) (indexes : List StoredIndex) : List StoredRow :=
  match t.isNumbered, indexes.find? fun i => i.origin = .primaryKey with
  | false, some i =>
    let places := i.keys.filterMap t.keyOrder
    sortByKeys (places.map (·.2))
      (fun row => places.map fun (place, _) => row.values[place]?.getD .null) t.rows
  | _, _ => t.rows

/-- The number of a row as a column of a table. -/
def StoredTable.numberName (t : StoredTable) : Option String :=
  if !t.isNumbered then none
  else some (((t.numberPlace.bind fun place => t.columns[place]?).map fun c => c.name).getD "rowid")

/-- A stored table as one that statements may refer to, with some rows. -/
def StoredTable.toTable (t : StoredTable) (schema : String) (rows : List StoredRow) : Table where
  schema
  names := [t.name]
  columns := t.columns.map StoredColumn.toTableColumn
  numberName := t.numberName
  rows := fun _ => .ok (rows.map fun row =>
    row.values ++ if t.isNumbered then [.integer row.number] else [])

/-! ## Stores -/

/-- What a transaction goes back to. -/
structure Savepoint where
  name : String
  schemas : List Schema

/-- A store. -/
structure Store where
  schemas : List Schema := [{ name := "main" }, { name := "temp" }]
  /-- Settings that last as long as the connection. -/
  settings : List (String × Value) := []
  /-- What the transaction at hand goes back to. -/
  transaction : Option (List Schema) := none
  /-- Whether the transaction ends with its outermost savepoint. -/
  endsWithSavepoint : Bool := false
  /-- The savepoints of the transaction, the innermost one first. -/
  savepoints : List Savepoint := []
  /-- How many rows the last change was made to, and all of them. -/
  changes : Nat := 0
  changesInAll : Nat := 0
  /-- The number of the row that was put in last. -/
  lastRow : Int64 := 0

namespace Store

/-- A schema. -/
def schema? (s : Store) (name : String) : Option Schema :=
  s.schemas.find? fun schema => sameName schema.name name

/-- Changes a schema. -/
def modify (s : Store) (name : String) (f : Schema → Schema) : Store :=
  { s with schemas := s.schemas.map fun schema =>
      if sameName schema.name name then f schema else schema }

/-- The schemas in the order in which names are looked for in them: what is temporary first. -/
def lookupOrder (s : Store) : List Schema :=
  match s.schemas with
  | main :: temp :: attached => temp :: main :: attached
  | schemas => schemas

/-- The schemas that a name may mean. -/
def schemasFor (s : Store) (schema : Option String) : List Schema :=
  match schema with
  | none => s.lookupOrder
  | some name => (s.schema? name).toList

/-- Finds something in the schemas that a name may mean. -/
def findIn? {α : Type} (s : Store) (n : ObjectName) (find : Schema → String → Option α) :
    Option (Schema × α) :=
  (s.schemasFor n.schema).findSome? fun schema => (find schema n.name).map fun x => (schema, x)

/-- Whether a setting that is on or off is on. -/
def isSet (s : Store) (name : String) : Bool :=
  (s.settings.lookup name).any fun v => v.truth? = some true

/-- The schema in which something is made. -/
def targetSchema (s : Store) (schema : Option String) : Except Fault Schema :=
  let name := schema.getD "main"
  match s.schema? name with
  | some schema => .ok schema
  | none => .error (.store (.unknownSchema name))

end Store

end Sql
end ReportQuery
