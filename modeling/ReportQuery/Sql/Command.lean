/-
# Commands

Besides queries there are statements that change what is stored, how it is described, or how the
database behaves.

| statement | changes |
| --- | --- |
| `INSERT`, `UPDATE`, `DELETE` | rows of a table |
| `CREATE`, `DROP`, `ALTER` | tables, views and indexes |
| `BEGIN`, `COMMIT`, `ROLLBACK`, `SAVEPOINT`, `RELEASE` | the transaction |
| `PRAGMA` | a setting |
-/

import ReportQuery.Sql.Expression
import ReportQuery.Sql.Store.Fault

namespace ReportQuery
namespace Sql

/-- The name of what a schema holds, with the schema if it is given. -/
structure ObjectName where
  schema : Option String := none
  name : String
deriving DecidableEq, Repr

/-- The text of a name in messages. -/
def ObjectName.text (n : ObjectName) : String := ".".intercalate (n.schema.toList ++ [n.name])

/-- What is done about a row that breaks a rule: the whole statement or the transaction is
undone, the statement ends, the row is left out, or the rows in its way are removed. -/
inductive Conflict where
  | abort
  | rollback
  | fail
  | ignore
  | replace
deriving DecidableEq, Repr

/-- A rule for a column. -/
inductive ColumnRule where
  | primaryKey (descending : Bool) (conflict : Option Conflict) (counts : Bool)
  | notNull (conflict : Option Conflict)
  | unique (conflict : Option Conflict)
  | check (name : Option String) (condition : Expr) (written : String)
  | default (value : Expr) (written : String)
  | collate (name : String)
  /-- A column whose values are computed; `how` says whether they are kept with the rows. -/
  | computed (value : Expr) (how : Option String)

/-- A column of a table that is made, with its type as it is written. -/
structure ColumnDefinition where
  name : String
  type : String
  rules : List ColumnRule

/-- A rule for the rows of a table. -/
inductive TableRule where
  | primaryKey (columns : List Term) (conflict : Option Conflict) (counts : Bool)
  | unique (columns : List Term) (conflict : Option Conflict)
  | check (name : Option String) (condition : Expr) (written : String)

/-- A table that is made: from columns and rules, or from the rows of a query. -/
inductive TableContent where
  | columns (columns : List ColumnDefinition) (rules : List TableRule) (options : List String)
  | query (query : Select)

/-- The rows that are put into a table. -/
inductive NewRows where
  | query (query : Select)
  | defaults

/-- The columns that a value is given to, and the value. -/
structure Assignment where
  columns : List String
  value : Expr

/-- What an insertion does with a row that is in the way of a new one, if it is in the way of
some columns: nothing, or changes. -/
structure Upsert where
  target : List Term
  /-- The condition of the index that is meant. -/
  among : List Expr
  changes : Option (List Assignment × List Expr)

/-- A statement. -/
inductive Statement where
  | query (query : Select)
  | pragma (name : ObjectName) (value : Option String)
  | drop (kind : ObjectKind) (ifExists : Bool) (name : ObjectName)
  | createTable (isTemporary ifAbsent : Bool) (name : ObjectName) (content : TableContent)
    (written : String)
  | createView (isTemporary ifAbsent : Bool) (name : ObjectName) (columns : List String)
    (query : Select) (written : String)
  | createIndex (isUnique ifAbsent : Bool) (name : ObjectName) (table : String)
    (terms : List Term) (condition : List Expr) (written : String)
  | renameTable (table : ObjectName) (name : String)
  | renameColumn (table : ObjectName) (column name : String)
  | addColumn (table : ObjectName) (column : ColumnDefinition) (written : String)
  | dropColumn (table : ObjectName) (column : String)
  | insert (definitions : List Definition) (conflict : Option Conflict) (table : ObjectName)
    (columns : List String) (rows : NewRows) (upserts : List Upsert) (results : List Column)
  | update (definitions : List Definition) (conflict : Option Conflict) (table : ObjectName)
    (otherName : Option String) (changes : List Assignment) (sources : List Source)
    (condition : List Expr) (results : List Column)
  | delete (definitions : List Definition) (table : ObjectName) (otherName : Option String)
    (condition : List Expr) (results : List Column)
  | beginTransaction
  | commit
  | rollback
  | savepoint (name : String)
  | release (name : String)
  | rollbackTo (name : String)
  | vacuum (schema : Option String)
  | analyze (name : Option ObjectName)
  | reindex (name : Option ObjectName)
  | attach (file name : Expr)
  | detach (name : Expr)

end Sql
end ReportQuery
