/-
# The headings of queries

Before anything else is settled about a statement, all the tables in it are found, those
of its inner queries too, and `*` is spelt out.  So a missing table is a fault that comes
before all those in expressions.

What is found on the way is the heading of each query: the names of its columns.  Where it
is a source of another query, names that would be the same are numbered.

A query may define tables, which all parts of it may refer to, and each other as well, unless
a table would be defined by itself.  Only the last arms of a definition may refer to the table
that is being defined, as a source of their own.  A table that nothing refers to is not looked
at.
-/

import ReportQuery.Sql.Schema

namespace ReportQuery
namespace Sql

/-! ## Sources -/

/-- A source as far as `*` is concerned: its name, its columns, and those of them that it
has in common with sources before it. -/
structure SourceHeading where
  name : Option String
  columns : List String
  common : List String
deriving DecidableEq, Repr

/-- Whether a list of names has a name. -/
def hasName (names : List String) (name : String) : Bool := names.any (sameName name)

/-- The columns that a source has in common with the sources before it. -/
def commonColumns (before : List SourceHeading) (columns : List String) (join : Join)
    (hasCondition : Bool) (given : List String) : Except Fault (List String) :=
  let known := before.flatMap SourceHeading.columns
  if join.natural then
    if hasCondition || !given.isEmpty then .error .conditionOnNaturalJoin
    else .ok (columns.filter (hasName known))
  else match given.find? fun name => !(hasName columns name && hasName known name) with
    | some name => .error (.uncommonColumn name)
    | none => .ok given

/-- A source with its name and its columns. -/
structure NamedColumns where
  name : Option String
  columns : List String
deriving DecidableEq, Repr

/-- The headings of sources behind some others. -/
def sourceHeadings (before : List SourceHeading) :
    List (NamedColumns × Source) → Except Fault (List SourceHeading)
  | [] => .ok before
  | (own, .mk _ _ join condition given) :: sources => do
    let common ← commonColumns before own.columns join (!condition.isEmpty) given
    sourceHeadings (before ++ [⟨own.name, own.columns, common⟩]) sources

/-- Whether a source keeps rows without a partner. -/
def Source.keepsRight : Source → Bool
  | .mk _ _ join _ _ => join.keepsRight

/-- The columns in common that are so with several sources before it which do not all have
them in common themselves. -/
def ambiguousCommon (before : List SourceHeading) : List SourceHeading → List String
  | [] => []
  | s :: sources =>
    (s.common.filter fun name =>
      let having := before.filter fun other => hasName other.columns name
      (having.drop 1).any fun other => !hasName other.common name) ++
    ambiguousCommon (before ++ [s]) sources

/-- Checks the columns in common of sources.  That they are ambiguous matters only where
rows are kept without a partner, as the first value that is not null is taken then. -/
def checkCommon (headings : List SourceHeading) (sources : List Source) : Except Fault Unit :=
  match (ambiguousCommon [] headings).getLast? with
  | some name => if sources.any Source.keepsRight then .error (.ambiguousCommon name) else .ok ()
  | none => .ok ()

/-- A column of a source: the places of both, and its name. -/
structure Place where
  source : Nat
  column : Nat
  name : String
deriving DecidableEq, Repr

/-- The columns that `*` stands for; behind the name of a table only those of that table.
A column that a source has in common with others before it stands once. -/
def starPlaces (sources : List SourceHeading) (table : Option String) :
    Except Fault (List Place) :=
  let wanted := sources.zipIdx.filter fun (s, _) =>
    table.all fun table => s.name.any (sameName table)
  if wanted.isEmpty then .error ((table.map Fault.unknownTable).getD .noTables)
  else .ok (wanted.flatMap fun (s, source) =>
    (s.columns.zipIdx.filter fun (name, _) => table.isSome || !hasName s.common name).map
      fun (name, column) => ⟨source, column, name⟩)

/-! ## Names of columns -/

/-- A name without the number that tells it from another one. -/
def unnumbered (name : String) : String :=
  let digits := name.toList.reverse.takeWhile Char.isDigit
  match name.toList.reverse.drop digits.length with
  | ':' :: c :: cs => String.ofList (c :: cs).reverse
  | _ => name

/-- The first name that is not taken of those numbered from `number` on; so many are tried. -/
def freeName (taken : List String) (number : Nat) : Nat → String → String
  | 0, name => name
  | tries + 1, name =>
    if hasName taken name then
      freeName taken (number + 1) tries (unnumbered name ++ ":" ++ toString number)
    else name

/-- Names made different from those before them, which are given in any order. -/
def uniqueNames (taken : List String) : List String → List String
  | [] => []
  | name :: names =>
    let name := freeName taken 1 (taken.length + 1) name
    name :: uniqueNames (name :: taken) names

/-- The names of a result column for a query around it; `index` is its place. -/
def Column.headings (sources : List SourceHeading) (index : Nat) :
    Column → Except Fault (List String)
  | .all table => (starPlaces sources table).map fun places => places.map Place.name
  | .value _ (some name) _ => .ok [name]
  | .value (.column n) none _ =>
    .ok [if sameName n.column "true" || sameName n.column "false" then
      numberedName index else n.column]
  | .value _ none written => .ok [written.getD (numberedName index)]

/-! ## Tables -/

/-- Finding tables.  Some faults do not end it, and the last fault found counts. -/
abbrev Finding := StateT (Option Fault) (Except Fault)

/-- Takes a result, or notes a fault. -/
def Finding.note {α : Type} (fallback : α) : Except Fault α → Finding α
  | .ok result => return result
  | .error fault => do
    set (some fault)
    return fallback

/-- Ends the finding if a fault has been noted. -/
def Finding.proceed : Finding Unit := do
  if let some fault := ← get then throw fault

/-- The outcome of finding tables. -/
def Finding.outcome {α : Type} (finding : Finding α) : Except Fault α := do
  let (result, noted) ← finding.run none
  match noted with
  | some fault => throw fault
  | none => return result

/-- A table that a query defines, and the names of its columns, once they are found. -/
structure DefinedTable where
  name : String
  heading : Finding (List String)

/-- The tables that a name may mean: that which is being defined, those that are defined
around it, the innermost ones first, and those of the database. -/
structure Tables where
  catalog : Catalog
  defined : List DefinedTable := []
  /-- The table whose own rows the sources of an arm may refer to. -/
  own : Option DefinedTable := none

/-- The table of a name that a query defines. -/
def Tables.defined? (t : Tables) (schema : Option String) (name : String) : Option DefinedTable :=
  if schema.isSome then none
  else (t.own.toList ++ t.defined).find? fun d => sameName d.name name

/-- The name and the columns of a table. -/
def Tables.columnsOf (t : Tables) (schema : Option String) (name : String) (called : Bool)
    (index : Option String) : Finding NamedColumns := do
  match t.defined? schema name with
  | some d =>
    if called then throw (.notAFunction d.name)
    let columns ← d.heading
    if let some index := index then throw (.unknownIndex ("\"" ++ index ++ "\""))
    return ⟨d.name, uniqueNames [] columns⟩
  | none =>
    let table ← liftM (t.catalog.find schema name called index)
    return ⟨table.ownName, table.columns.map TableColumn.name⟩

/-- A definition of a table: its name, and how the names of its columns are found, given the
tables that it may refer to.  A reference to itself is a fault, which is given too. -/
structure Definer where
  name : String
  heading : (Fault → Tables) → Finding (List String)

/-- The tables within definitions, some of which are being looked at and may not be referred to;
`fuel` is more than the number of the others. -/
def Tables.enter (definers : List Definer) (outer : Tables) :
    Nat → List (String × Fault) → Tables
  | 0, _ => outer
  | fuel + 1, blocked =>
    let defined := definers.map fun d =>
      match blocked.find? fun (name, _) => sameName name d.name with
      | some (_, fault) => ⟨d.name, fun _ => .error fault⟩
      | none => ⟨d.name, fun noted =>
          d.heading (fun fault => enter definers outer fuel ((d.name, fault) :: blocked)) noted⟩
    { outer with own := none, defined := defined ++ outer.defined }

/-- The tables within definitions. -/
def Tables.within (outer : Tables) (definers : List Definer) : Tables :=
  Tables.enter definers outer (definers.length + 1) []

/-! ## Queries -/

/-- The names of all result columns, of which some are known. -/
def columnHeadings (sources : List SourceHeading) (known : List String) :
    List Column → Finding (List String)
  | [] => return known
  | c :: columns => do
    let names ← Finding.note [] (c.headings sources known.length)
    columnHeadings sources (known ++ names) columns

/-- The heading of the first of some arms.  The last one is looked at first, and what is
in the order and the limit behind it. -/
def headingOfArms (behind : Finding Unit) : List (Finding (List String)) → Finding (List String)
  | [] => return []
  | [arm] => do
    let heading ← arm
    behind
    return heading
  | arm :: arms => do
    let _ ← headingOfArms behind arms
    arm

/-- The names of the columns of a defined table, which has so many columns. -/
def definedHeading (name : String) (columns found : List String) : Finding (List String) := do
  if columns.isEmpty then return found
  if columns.length ≠ found.length then
    throw (.unevenDefinition name found.length columns.length)
  return columns

/-- The fault of an arm that refers to the table that is being defined more than once. -/
def repeatedReference? (name : String) (arms : List Arm) : Option Fault :=
  if arms.any fun arm => ((arm.tableNames.filter (sameName name)).drop 1).length > 0 then
    some (.repeatedReference name)
  else none

mutual

/-- Finds the tables in an expression. -/
def Expr.findTables (tables : Tables) : Expr → Finding Unit
  | .literal _ | .truth _ | .number _ | .column _ | .parameter _ | .raised => return ()
  | .apply _ operands => findTables tables operands
  | .call _ _ arguments order filter around => do
    findTables tables arguments
    findTablesOfTerms tables order
    findTables tables filter
    findTablesOfWindows tables around
  | .subquery _ tested query => do
    findTables tables tested
    let _ ← query.findHeading tables

/-- Finds the tables in expressions. -/
def findTables (tables : Tables) : List Expr → Finding Unit
  | [] => return ()
  | e :: es => do
    e.findTables tables
    findTables tables es

/-- Finds the tables in the terms of an order. -/
def findTablesOfTerms (tables : Tables) : List Term → Finding Unit
  | [] => return ()
  | .mk key _ _ :: terms => do
    key.findTables tables
    findTablesOfTerms tables terms

/-- Finds the tables in a window. -/
def Window.findTables (tables : Tables) : Window → Finding Unit
  | .named _ => return ()
  | .mk _ agreeing order _ => do
    findTablesOfTerms tables order
    ReportQuery.Sql.findTables tables agreeing

/-- Finds the tables in windows. -/
def findTablesOfWindows (tables : Tables) : List Window → Finding Unit
  | [] => return ()
  | w :: windows => do
    w.findTables tables
    findTablesOfWindows tables windows

/-- Finds the tables in windows that have names. -/
def findTablesOfNamed (tables : Tables) : List NamedWindow → Finding Unit
  | [] => return ()
  | .mk _ window :: windows => do
    window.findTables tables
    findTablesOfNamed tables windows

/-- Finds the tables in result columns. -/
def findTablesOfColumns (tables : Tables) : List Column → Finding Unit
  | [] => return ()
  | .value e _ _ :: columns => do
    e.findTables tables
    findTablesOfColumns tables columns
  | .all _ :: columns => findTablesOfColumns tables columns

/-- The names and the columns of sources. -/
def sourceColumns (tables : Tables) : List Source → Finding (List NamedColumns)
  | [] => return []
  | .mk (.table schema table called _ index) name _ _ _ :: sources => do
    let found ← tables.columnsOf schema table called index
    let own := { found with name := name.orElse fun _ => found.name }
    return own :: (← sourceColumns tables sources)
  | .mk (.rows query) name _ _ _ :: sources => do
    let own := ⟨name, uniqueNames [] (← query.findHeading tables)⟩
    Finding.proceed
    return own :: (← sourceColumns tables sources)

/-- Finds the tables in the conditions of joins and in the arguments of sources. -/
def findTablesOfSources (tables : Tables) : List Source → Finding Unit
  | [] => return ()
  | .mk (.table _ _ _ arguments _) _ _ condition _ :: sources => do
    findTables tables condition
    findTables tables arguments
    findTablesOfSources tables sources
  | .mk (.rows _) _ _ condition _ :: sources => do
    findTables tables condition
    findTablesOfSources tables sources

/-- The heading of an arm. -/
def Arm.findHeading (tables : Tables) : Arm → Finding (List String)
  | .mk _ _ columns sources condition groups having windows => do
    let named := (← sourceColumns tables sources).zip sources
    Finding.proceed
    let headings ← liftM (sourceHeadings [] named)
    Finding.note () (checkCommon headings sources)
    let names ← columnHeadings headings [] columns
    findTablesOfColumns tables columns
    findTables tables condition
    findTablesOfSources tables sources
    findTables tables groups
    findTables tables having
    findTablesOfNamed tables windows
    return names

/-- How the headings of arms are found. -/
def armFinders : List Arm → List (Tables → Finding (List String))
  | [] => []
  | arm :: arms => (fun tables => arm.findHeading tables) :: armFinders arms

/-- The heading of a query. -/
def Select.findHeading (tables : Tables) : Select → Finding (List String)
  | .mk definitions arms order limit =>
    let tables := tables.within (definers definitions)
    headingOfArms (do
      findTablesOfTerms tables order
      findTables tables limit) ((armFinders arms).map fun find => find tables)

/-- How the columns of a defined table are found.  Where its last arms refer to its own rows,
those before them tell its columns. -/
def Definition.definer : Definition → Definer
  | .mk name columns (.mk definitions arms order limit) => ⟨name, fun tables => do
    let finders := armFinders arms
    let within := fun fault => (tables fault).within (definers definitions)
    let behind := fun tables => do
      findTablesOfTerms tables order
      findTables tables limit
    let first := arms.length - recursiveArms name arms
    if first = arms.length then
      let tables := within (.circularReference name)
      definedHeading name columns
        (← headingOfArms (behind tables) (finders.map fun find => find tables))
    else
      if let some fault := repeatedReference? name (arms.drop first) then throw fault
      let tables := within (.circularReference name)
      let found ← headingOfArms (return ()) ((finders.take first).map fun find => find tables)
      let heading ← definedHeading name columns found
      let tables := within (.multipleReferences name)
      let own := { tables with own := some ⟨name, fun noted => .ok (heading, noted)⟩ }
      let _ ← headingOfArms (behind tables) ((finders.drop first).map fun find => find own)
      return heading⟩

/-- How the columns of defined tables are found. -/
def definers : List Definition → List Definer
  | [] => []
  | d :: definitions => d.definer :: definers definitions

end

/-- The heading of a query whose tables are there. -/
def Select.heading (tables : Tables) (query : Select) : Except Fault (List String) :=
  (query.findHeading tables).outcome

/-- The headings of sources whose tables are there. -/
def headingsOf (tables : Tables) (sources : List Source) : Except Fault (List SourceHeading) := do
  sourceHeadings [] ((← (sourceColumns tables sources).outcome).zip sources)

end Sql
end ReportQuery
