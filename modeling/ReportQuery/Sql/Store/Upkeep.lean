/-
# Upkeep of a store

Databases are attached and detached, files are put in order, and statistics are gathered.  Of
all that nothing can be seen but which databases there are, and the tables for statistics.
-/

import ReportQuery.Sql.Store.Definition

namespace ReportQuery
namespace Sql

/-! ## Databases -/

/-- The text that names a database or its file: a name stands for itself. -/
def namingText (c : Context) (e : Expr) : Except Fault (Unit → Except Fault String) :=
  match e with
  | .column ⟨none, none, name, _⟩ => .ok fun _ => .ok name
  | e => do
    let meanings ← settleStrictly c [] [e]
    return fun _ => do
      let values ← valuesOf meanings []
      return String.ofList ((values.headD .null).chars)

/-- The most databases that are attached. -/
def mostAttached : Nat := 10

/-- Plans the attaching of a database, which is empty. -/
def planAttach (s : Store) (c : Context) (file name : Expr) : Except Fault Plan := do
  let _ ← namingText c file
  let naming ← namingText c name
  return fun _ => do
    let name ← naming ()
    if mostAttached + 2 ≤ s.schemas.length then throw (.store .tooManyDatabases)
    if (s.schema? name).isSome then throw (.store (.knownDatabase name))
    return { store := { s with schemas := s.schemas ++ [{ name }] } }

/-- Plans the detaching of a database. -/
def planDetach (s : Store) (c : Context) (name : Expr) : Except Fault Plan := do
  let naming ← namingText c name
  return fun _ => do
    let name ← naming ()
    match s.schema? name with
    | none => throw (.store (.unknownDatabase name))
    | some schema =>
      if schema.name = "temp" && schema.objects.isEmpty then
        throw (.store (.unknownDatabase name))
      if schema.name = "main" || schema.name = "temp" then
        throw (.store (.fixedDatabase name))
      return { store := { s with schemas := s.schemas.filter fun other => other.name ≠ schema.name } }

/-! ## Order and statistics -/

/-- Plans that a file is put in order. -/
def planVacuum (s : Store) (schema : Option String) : Except Fault Plan := do
  let _ ← s.targetSchema schema
  return fun _ =>
    if s.transaction.isSome then .error (.store .vacuumInside) else .ok { store := s }

/-- The tables for statistics, with their columns. -/
def statisticsTables : List (String × List String) :=
  [("sqlite_stat1", ["tbl", "idx", "stat"]),
    ("sqlite_stat4", ["tbl", "idx", "neq", "nlt", "ndlt", "sample"])]

/-- A schema with tables for statistics. -/
def Schema.withStatistics (s : Schema) : Schema :=
  statisticsTables.foldl (fun (s : Schema) (name, columns) =>
    if (s.relation? name).isSome then s
    else s.add fun page => .table
      { name
        columns := columns.map fun name => { name, affinity := .blob }
        written := "CREATE TABLE " ++ name ++ "(" ++ ",".intercalate columns ++ ")"
        page }) s

/-- Plans the gathering of statistics. -/
def planAnalyze (s : Store) (c : Context) (name : Option ObjectName) : Except Fault Plan := do
  let gather : String → Plan := fun schema _ =>
    return { store := s.remade schema Schema.withStatistics }
  match name with
  | none => return gather "main"
  | some n =>
    if n.schema.isNone then
      if let some schema := s.schema? n.name then return gather schema.name
    if n.schema.isSome then
      let _ ← s.targetSchema n.schema
    let found := (s.findIn? n Schema.index?).map (·.1) |>.orElse fun _ =>
      (s.findIn? n Schema.relation?).map (·.1)
    match found with
    | some schema => return gather schema.name
    | none =>
      if c.tables.catalog.any fun t => t.isNamed n.schema n.name then
        return fun _ => return { store := s }
      throw (.unknownTable n.text)

/-- Plans that indexes are made again. -/
def planReindex (s : Store) (c : Context) (name : Option ObjectName) : Except Fault Plan := do
  match name with
  | none => return fun _ => return { store := s }
  | some n =>
    let isCollation := n.schema.isNone && (Collation.ofName? n.name).isSome
    if n.schema.isSome then
      let _ ← s.targetSchema n.schema
    let isThere := (s.findIn? n Schema.index?).isSome ||
      c.tables.catalog.any fun t => t.isNamed n.schema n.name
    if !isCollation && !isThere then throw (.store .unknownReindexed)
    return fun _ => return { store := s }

end Sql
end ReportQuery
