/-
# Tables

A table stands in a schema, has one or more names, and holds rows.  A catalog is all
the tables that a statement may refer to.

Some tables compute their rows from arguments, with which they are called like functions.
They have a hidden column for each argument, which shows only where it is named.
-/

import ReportQuery.Sql.Expression
import ReportQuery.Sql.Fault

namespace ReportQuery
namespace Sql

/-- A column of a table. -/
structure TableColumn where
  name : String
  affinity : Affinity := .none
  collation : String := "BINARY"

/-- A table.  Its rows hold the values of its columns, those of its hidden columns, and then
the number of the row if it has one. -/
structure Table where
  schema : String
  /-- The names by which it is found; the first one is its own. -/
  names : List String
  /-- Further names by which it is found where its schema is given. -/
  namesInSchema : List String := []
  columns : List TableColumn
  /-- The columns for its arguments, if it may be called. -/
  hidden : List TableColumn := []
  isCalled : Bool := false
  /-- Whether it is found where no schema is given. -/
  isFound : Bool := true
  /-- What the column with the number of a row is called; none if rows have no numbers. -/
  numberName : Option String := some "rowid"
  /-- The indexes by which it may be read. -/
  indexes : List String := []
  /-- What is wrong with it, if it cannot be used. -/
  fault : Option Fault := none
  rows : List Value → Except Fault (List (List Value))

/-- The tables of a database. -/
abbrev Catalog := List Table

namespace Table

/-- Whether a table is found by a name, with or without a schema.  One that may be called is found
in every schema. -/
def isNamed (t : Table) (schema : Option String) (name : String) : Bool :=
  match schema with
  | none => t.isFound && t.names.any (sameName name)
  | some s =>
    (t.isCalled || sameName s t.schema) && (t.names ++ t.namesInSchema).any (sameName name)

/-- The name of a table for all its columns. -/
def ownName (t : Table) : String := t.names.headD ""

/-- The rows of a table that holds them, with their numbers. -/
def numbered (rows : List (List Value)) : List Value → Except Fault (List (List Value)) :=
  fun _ => .ok (rows.zipIdx.map fun (row, index) => row ++ [.integer (Int64.ofNat (index + 1))])

end Table

namespace Catalog

/-- Finds a table, which may be called like a function only if it takes arguments, and has no
index that it could be read by. -/
def find (c : Catalog) (schema : Option String) (name : String) (called : Bool)
    (index : Option String) : Except Fault Table :=
  match c.find? fun t => t.isNamed schema name with
  | none => .error (.unknownTable (".".intercalate (schema.toList ++ [name])))
  | some t =>
    if called && !t.isCalled then .error (.notAFunction name)
    else if let some fault := t.fault then .error fault
    else match index with
      | some index =>
        if t.indexes.any (sameName index) then .ok t else .error (.unknownIndex index)
      | none => .ok t

end Catalog

end Sql
end ReportQuery
