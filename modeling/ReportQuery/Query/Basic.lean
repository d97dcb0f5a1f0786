/-
# Building a query

A query is built up clause by clause.  Each operation adds text to one clause,
and the values it binds to the list of that clause; the text holds a `?` for
each value.  Values of the tables clause come before values of the predicates,
as the clauses do in the statement.

Raw texts (fields, tables, predicates without values, conditions of joins) are
added as they are.  Predicates and joins that bind values are built in two
steps: `Query.predicate` and `Query.leftJoin` name what is to be completed, and
only completing it changes the query.

Separators stand before a piece whenever the clause holds text already, so an
empty piece behind other text leaves its separator.
-/

import ReportQuery.BoundValue
import ReportQuery.Database
import ReportQuery.Error
import ReportQuery.Filter.Basic

namespace ReportQuery

/-- A query under construction: the texts of its clauses, and its bound values. -/
structure Query where
  fields : String := ""
  tables : String := ""
  predicates : String := ""
  grouping : String := ""
  ordering : String := ""
  limit : String := ""
  tableBinds : List BoundValue := []
  predicateBinds : List BoundValue := []
deriving DecidableEq

/-- A statement with the placeholders of its database, and its bound values. -/
structure PreparedQuery where
  database : Database
  sql : String
  binds : List BoundValue
deriving DecidableEq

/-- Adds a piece to a clause, behind a separator if the clause is not empty. -/
def appendPiece (separator clause piece : String) : String :=
  if clause.isEmpty then clause ++ piece else clause ++ separator ++ piece

/-- A clause of a statement behind its keyword; an empty clause is left out. -/
def optionalClause (keyword clause : String) : String :=
  if clause.isEmpty then "" else keyword ++ clause

namespace Query

/-- The query without any clause. -/
def empty : Query := {}

/-! ## What a query says -/

/-- The text of the query, with `?` for every bound value. -/
def sql (q : Query) : String :=
  "SELECT " ++ q.fields ++ " FROM " ++ q.tables ++ optionalClause " WHERE " q.predicates ++
    optionalClause " GROUP BY " q.grouping ++ optionalClause " ORDER BY " q.ordering ++
    " " ++ q.limit

/-- The bound values, in the order of their placeholders. -/
def binds (q : Query) : List BoundValue := q.tableBinds ++ q.predicateBinds

/-- The query as a statement for a kind of database. -/
def prepare (q : Query) (database : Database) : PreparedQuery :=
  ⟨database, database.numberPlaceholders q.sql, q.binds⟩

/-! ## Clauses of raw text -/

/-- Adds a field, or several ones with commas between them. -/
def appendField (q : Query) (expr : String) : Query :=
  { q with fields := appendPiece ", " q.fields expr }

/-- The query for some fields. -/
def select (fields : List String) : Query := fields.foldl appendField empty

/-- Adds text to the tables. -/
def addTables (q : Query) (tables : String) : Query := { q with tables := q.tables ++ tables }

/-- Adds an expression to group by. -/
def groupBy (q : Query) (expr : String) : Query :=
  { q with grouping := appendPiece ", " q.grouping expr }

/-- Adds an expression to order by. -/
def orderBy (q : Query) (expr : String) : Query :=
  { q with ordering := appendPiece ", " q.ordering expr }

/-- Sets the text at the end of the query. -/
def setLimit (q : Query) (clause : String) : Query := { q with limit := clause }

/-- Adds a predicate with its values, behind an `AND` if it is not the first one. -/
def addPredicate (q : Query) (text : String) (binds : List BoundValue) : Query :=
  { q with
    predicates := appendPiece " AND " q.predicates text
    predicateBinds := q.predicateBinds ++ binds }

/-- Adds a predicate without values, as it is. -/
def whereTrue (q : Query) (expr : String) : Query := q.addPredicate expr []

/-- Adds a predicate without values, in parentheses. -/
def andRaw (q : Query) (expr : String) : Query := q.addPredicate ("(" ++ expr ++ ") ") []

/-! ## Joins -/

/-- A join that lacks its condition. -/
structure PendingJoin where
  query : Query
  join : String
  binds : List BoundValue

/-- Begins a left join with a table. -/
def leftJoin (q : Query) (table : String) : PendingJoin := ⟨q, " LEFT JOIN " ++ table, []⟩

/-- Begins a left join with the rows of another query. -/
def leftJoinDerived (q : Query) (derived : Query) (name : String) : PendingJoin :=
  ⟨q, " LEFT JOIN (" ++ derived.sql ++ ") AS " ++ name, derived.binds⟩

/-- Completes a join with its condition. -/
def PendingJoin.complete (j : PendingJoin) (condition : String) : Query :=
  { j.query with
    tables := j.query.tables ++ j.join ++ " ON (" ++ condition ++ ") "
    tableBinds := j.query.tableBinds ++ j.binds }

/-! ## Predicates with values -/

/-- A predicate of which only the left side is known. -/
structure PendingPredicate where
  query : Query
  expr : String

/-- Begins a predicate on an expression. -/
def predicate (q : Query) (expr : String) : PendingPredicate := ⟨q, expr⟩

namespace PendingPredicate

/-- Completes a predicate: the expression equals a value. -/
def equalTo (p : PendingPredicate) (value : BoundValue) : Query :=
  p.query.addPredicate (p.expr ++ " = ? ") [value]

/-- The placeholders for some values: an equation for one value, else a list. -/
def membership (count : Nat) : String :=
  if count = 1 then " = ?" else " IN (" ++ ", ".intercalate (List.replicate count "?") ++ ")"

/-- Completes a predicate: the expression is one of some values, of which there
has to be one at least for the text to be well formed. -/
def oneOf (p : PendingPredicate) (values : List BoundValue) : Query :=
  p.query.addPredicate (p.expr ++ membership values.length) values

/-- Completes a predicate: the expression is one of some values.  No value can
match an empty list, which is refused. -/
def isIn (p : PendingPredicate) (values : List BoundValue) : Except Error Query :=
  if values.isEmpty then
    .error (.invalidArgument ("Cannot match '" ++ p.expr ++ "' against empty list."))
  else .ok (p.oneOf values)

/-- Completes a predicate: the expression is among the rows of another query. -/
def inSubquery (p : PendingPredicate) (sub : Query) : Query :=
  p.query.addPredicate (p.expr ++ " IN (" ++ sub.sql ++ ") ") sub.binds

end PendingPredicate

/-! ## Filters -/

/-- The locations that are linked to administrative entities. -/
def linkedLocations (values : List BoundValue) : Query :=
  (((select ["Link.LocationId"]).addTables "LocationAdminLink Link").predicate
    "Link.AdminEntityId").oneOf values

/-- Adds the predicate of one restricted dimension; a dimension that has no place
in a query adds none. -/
def restrictedBy (q : Query) (d : Dimension) (ids : IdSet) : Query :=
  let values := ids.ids.map BoundValue.int32
  match d.target? with
  | some (.column name) => (q.predicate name).oneOf values
  | some .adminEntity => (q.predicate "Site.LocationId").inSubquery (linkedLocations values)
  | none => q

/-- Adds the predicates of all restricted dimensions, in the order of dimensions. -/
def filteredBy (q : Query) (f : Filter) : Query :=
  f.restrictedDimensions.foldl (fun q (d, ids) => q.restrictedBy d ids) q

end Query

end ReportQuery
