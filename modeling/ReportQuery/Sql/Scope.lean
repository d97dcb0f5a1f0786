/-
# Scopes

A query opens a scope, in which its sources and their columns are known by name.  Scopes
lie within each other as queries do, and a name is looked for from the innermost one
outwards.

Where nothing has the name, a name in quotation marks is a text, and `true` and `false`
are truth values.
-/

import ReportQuery.Sql.Heading
import ReportQuery.Sql.Meaning

namespace ReportQuery
namespace Sql

/-- A column of a result. -/
structure ResultColumn where
  name : String
  affinity : Affinity := .none
  classes : ValueClasses := .all
  collating : Option Collating := none
deriving DecidableEq, Repr

/-- A source in a scope. -/
structure ScopeSource where
  schema : Option String
  names : List String
  columns : List ResultColumn
  /-- The columns that it has in common with sources before it. -/
  common : List String
  join : Join
  /-- The place of its first column in the rows of the query. -/
  start : Nat
  /-- What the number of a row is called, which stands behind the columns. -/
  numberName : Option String

/-- A result that can be referred to by the name that is given to it; the flag says that it
has one value, as it should. -/
structure NamedResult where
  name : String
  meaning : Meaning
  isSingle : Bool

/-- A scope: its sources, the names given to results, whether aggregates and windows may be
used, and the windows that have names. -/
structure Scope where
  sources : List ScopeSource
  results : List NamedResult := []
  allowsAggregates : Bool := true
  allowsWindows : Bool := false
  windows : List NamedWindow := []

/-- The meaning of a place in the rows of the innermost query. -/
def Meaning.ofSlot (index : Nat) (column : ResultColumn) : Meaning where
  value frames := (frames.head?.bind fun frame => frame.row[index]?).getD (.ok .null)
  affinity := column.affinity
  classes := .ofAffinity column.affinity
  collating := column.collating
  looks := [(0, index)]
  column := some column.name

namespace ScopeSource

/-- Whether a name may refer to a column of the source. -/
def isMeant (s : ScopeSource) (n : Name) : Bool :=
  (n.table.all fun table => s.names.any (sameName table)) &&
    n.schema.all fun schema => s.schema.any (sameName schema)

/-- The meaning of a column. -/
def slot? (s : ScopeSource) (index : Nat) : Option Meaning :=
  s.columns[index]?.map (Meaning.ofSlot (s.start + index))

/-- The meaning of a column that is referred to by a name. -/
def find? (s : ScopeSource) (n : Name) : Option Meaning :=
  if s.isMeant n then
    (s.columns.findIdx? fun column => sameName column.name n.column).bind s.slot?
  else none

/-- The meaning of the number of a row. -/
def number? (s : ScopeSource) (n : Name) : Option Meaning :=
  if s.isMeant n then
    s.numberName.map fun name =>
      .ofSlot (s.start + s.columns.length) { name, affinity := .integer }
  else none

end ScopeSource

/-- What the number of a row is called. -/
def numberNames : List String := ["rowid", "oid", "_rowid_"]

/-- The first of two values that is not null. -/
def eitherOf (a b : Meaning) : Meaning :=
  { Meaning.map [a, b] fun values => .ok ((values.find? (· ≠ .null)).getD .null) with
    classes := .all }

/-- The meanings that a name has in the sources read so far, and in one more.  A column
in common is the one before it, unless rows of the new source are kept without a partner. -/
def addMeaning (n : Name) (found : List Meaning) (s : ScopeSource) : List Meaning :=
  match s.find? n, found with
  | none, found => found
  | some m, [] => [m]
  | some m, first :: more =>
    if !hasName s.common n.column then first :: more ++ [m]
    else if !s.join.keepsRight then first :: more
    else if !s.join.keepsLeft then [m]
    else [eitherOf first m]

/-- The meanings that a name has in sources. -/
def meaningsIn (sources : List ScopeSource) (n : Name) : List Meaning :=
  match sources.foldl (addMeaning n) [] with
  | [] => if hasName numberNames n.column then sources.filterMap fun s => s.number? n else []
  | found => found

/-- The meaning of a name that nothing has. -/
def unknownName (n : Name) : Except Fault Meaning :=
  if n.table.isSome then .error (.unknownColumn n.text)
  else if n.quotation then .ok (.constant (.text n.column))
  else if sameName n.column "true" then .ok (.ofTruth true)
  else if sameName n.column "false" then .ok (.ofTruth false)
  else .error (.unknownColumn n.text)

/-- The meaning of a name within so many queries more than the scopes that are left. -/
def lookupFrom (n : Name) (level : Nat) : List Scope → Except Fault Meaning
  | [] => unknownName n
  | scope :: scopes =>
    match meaningsIn scope.sources n with
    | [m] => .ok (m.within level)
    | _ :: _ => .error (.ambiguousColumn n.text)
    | [] =>
      match scope.results.find? fun r => n.table.isNone && sameName r.name n.column with
      | none => lookupFrom n (level + 1) scopes
      | some r =>
        if r.meaning.aggregate.isSome && !scope.allowsAggregates then .error (.misusedAlias r.name)
        else if !r.meaning.windows.isEmpty && !(scope.allowsWindows && level == 0) then
          .error (.misusedWindowAlias r.name)
        else if !r.isSingle then .error .misusedRow
        else .ok (r.meaning.within level)

/-- The meaning of a name. -/
def lookup (scopes : List Scope) (n : Name) : Except Fault Meaning := lookupFrom n 0 scopes

end Sql
end ReportQuery
