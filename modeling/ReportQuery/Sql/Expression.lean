/-
# Expressions and queries

The abstract form of a statement, in which columns, tables and functions are still
referred to by their names.

A query is made of arms, joined by `UNION` and its like, with one order and one limit
for all, and of definitions of tables that it may refer to.  Where a part may be missing, it
is a list of one member at most.
-/

import ReportQuery.Sql.Value.Basic

namespace ReportQuery
namespace Sql

/-- How a column prefers to store and to compare its values. -/
inductive Affinity where
  | none
  /-- Values are left as they are. -/
  | blob
  | text
  | numeric
  | integer
  | real
deriving DecidableEq, Repr

/-- Whether an affinity is one for numbers. -/
def Affinity.isNumeric : Affinity → Bool
  | .none | .blob | .text => false
  | .numeric | .integer | .real => true

/-- The operators. -/
inductive Operator where
  | not
  | negate
  | keep
  | invert
  | isNull
  | notNull
  | or
  | and
  | equal
  | unequal
  | less
  | atMost
  | greater
  | atLeast
  /-- Equality where null equals null, and its opposite. -/
  | same
  | different
  | bitAnd
  | bitOr
  | shiftLeft
  | shiftRight
  | add
  | subtract
  | multiply
  | divide
  | remainder
  | concat
  | between
  /-- The first operand is among the others. -/
  | among
  /-- The operands are a base, if there is one, conditions with results, and a last
  result, if there is one. -/
  | choose (base last : Bool)
  | cast (affinity : Affinity)
  | collate (name : String)
  /-- Several values side by side. -/
  | row
deriving DecidableEq, Repr

/-- What a query within an expression is for. -/
inductive SubqueryUse where
  | value
  | existence
  | membership
deriving DecidableEq, Repr

/-- How the rows of one arm are joined to those of the arms before it. -/
inductive SetOperator where
  | union
  | unionAll
  | intersect
  | except
deriving DecidableEq, Repr

/-- The keywords of an operator. -/
def SetOperator.keywords : SetOperator → String
  | .union => "UNION"
  | .unionAll => "UNION ALL"
  | .intersect => "INTERSECT"
  | .except => "EXCEPT"

/-- How a source is joined to those before it. -/
structure Join where
  natural : Bool := false
  /-- Rows of the sources before it are kept without a partner. -/
  keepsLeft : Bool := false
  /-- Rows of this source are kept without a partner. -/
  keepsRight : Bool := false
deriving DecidableEq, Repr

/-- How a column is referred to: with its schema and table, if they are given.  A name
in quotation marks that names nothing is a text. -/
structure Name where
  schema : Option String
  table : Option String
  column : String
  quotation : Bool
deriving DecidableEq, Repr

/-- The text of a name in messages. -/
def Name.text (n : Name) : String :=
  ".".intercalate (n.schema.toList ++ n.table.toList ++ [n.column])

/-- Whether two names are the same; the case of their letters does not matter. -/
def sameName (a b : String) : Bool :=
  a.toList.map Char.toLower == b.toList.map Char.toLower

/-- What the frame of a window counts. -/
inductive FrameUnit where
  | rows
  | range
  | groups
deriving DecidableEq, Repr

/-- The rows that are left out of a frame.  Where a frame says that none are, its rows are looked
at anew for each row. -/
inductive Exclusion where
  | nothing
  | noOthers
  | currentRow
  | group
  | ties
deriving DecidableEq, Repr

mutual

/-- An expression. -/
inductive Expr where
  | literal (value : Value)
  /-- A truth value: whether something is one of no values. -/
  | truth (value : Bool)
  /-- A number, as it is written. -/
  | number (digits : String)
  | column (name : Name)
  | parameter (number : Nat)
  | apply (operator : Operator) (operands : List Expr)
  /-- A function; an aggregate may take each argument once, in some order, and only
  from the rows that meet a condition; and it may look at a window. -/
  | call (function : String) (distinct : Bool) (arguments : List Expr) (order : List Term)
    (filter : List Expr) (around : List Window)
  /-- A query, and for membership the value that is looked for in it. -/
  | subquery (use : SubqueryUse) (tested : List Expr) (query : Select)
  /-- The end of a trigger. -/
  | raised

/-- A query. -/
inductive Select where
  /-- The limit is the number of rows, and then the number of rows before them. -/
  | mk (definitions : List Definition) (arms : List Arm) (order : List Term) (limit : List Expr)

/-- A table that a query defines, with the names of its columns if they are given. -/
inductive Definition where
  | mk (name : String) (columns : List String) (query : Select)

/-- A term of an order. -/
inductive Term where
  | mk (key : Expr) (descending nullsFirst : Bool)

/-- An arm of a query, with the operator that joins it to the arms before it. -/
inductive Arm where
  | mk (operator : SetOperator) (distinct : Bool) (columns : List Column)
    (sources : List Source) (condition groups having : List Expr) (windows : List NamedWindow)

/-- A result column. -/
inductive Column where
  /-- An expression, with the name that is given to it, and the text that it has in a
  query; in a row that is written out it has none. -/
  | value (expression : Expr) (name written : Option String)
  /-- All columns, or all those of one table. -/
  | all (table : Option String)

/-- A source of rows, with its name, how it is joined to those before it, and the
columns that it has in common with them. -/
inductive Source where
  | mk (origin : Origin) (name : Option String) (join : Join) (condition : List Expr)
    (common : List String)

/-- Where rows come from. -/
inductive Origin where
  /-- A table, which may be called like a function, and an index that it is to be read by. -/
  | table (schema : Option String) (name : String) (called : Bool) (arguments : List Expr)
    (index : Option String)
  | rows (query : Select)

/-- A window: one that has a name, or the rows that agree in some values, in some order, with
a frame around each row.  It may be based on one that has a name. -/
inductive Window where
  | named (name : String)
  | mk (base : Option String) (agreeing : List Expr) (order : List Term) (frame : List WindowFrame)

/-- A window of an arm. -/
inductive NamedWindow where
  | mk (name : String) (window : Window)

/-- The frame around each row of a window. -/
inductive WindowFrame where
  | mk (unit : FrameUnit) (start ending : FrameBound) (exclusion : Exclusion)

/-- Where a frame begins or ends. -/
inductive FrameBound where
  | unbounded
  | preceding (offset : Expr)
  | currentRow
  | following (offset : Expr)

end

/-- Whether an arm is a row that is written out. -/
def Arm.isRow : Arm → Bool
  | .mk _ _ columns _ _ _ _ _ => columns.all fun
    | .value _ _ written => written.isNone
    | .all _ => false

/-- The operator that joins an arm to those before it. -/
def Arm.operator : Arm → SetOperator
  | .mk operator _ _ _ _ _ _ _ => operator

/-- The names that an arm's own sources have as tables of no schema. -/
def Arm.tableNames : Arm → List String
  | .mk _ _ _ sources _ _ _ _ => sources.filterMap fun
    | .mk (.table none name _ _ _) _ _ _ _ => some name
    | _ => none

/-- A query of one arm and nothing else. -/
def Select.ofArm (arm : Arm) : Select := .mk [] [arm] [] []

/-- How many of the last arms refer to a table of a name by a source of their own, if all are
joined by one operator that recursion is allowed for. -/
def recursiveArms (name : String) (arms : List Arm) : Nat :=
  let last := arms.getLast?.map Arm.operator
  if last = some .union ∨ last = some .unionAll then
    ((arms.drop 1).reverse.takeWhile fun arm =>
      some arm.operator == last && arm.tableNames.any (sameName name)).length
  else 0

/-- The name of a column that has no other; `index` is its place. -/
def numberedName (index : Nat) : String := "column" ++ toString (index + 1)

end Sql
end ReportQuery
