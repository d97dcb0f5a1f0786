/-
# Changing rows

Rows are put into a table, changed and taken out of it.  A statement is planned first, where all
is found that is wrong with it as it is written, and then carried out row by row.

A value that is given to no column in particular is given by place.  A column that none is given
to has its own initial value.  A row whose number is not given has the one behind the largest.
-/

import ReportQuery.Sql.Store.Row

namespace ReportQuery
namespace Sql

/-- What a statement answers, and the store behind it. -/
structure Answer where
  columns : List String := []
  rows : List (Except Fault (List Value)) := []
  store : Store

/-- A statement that is planned: what carrying it out comes to. -/
abbrev Plan := Unit → Except Fault Answer

/-! ## Tables that change -/

/-- A table that changes, in its schema. -/
structure ChangedTable where
  schema : Schema
  table : StoredTable

/-- Finds a table whose rows are to change. -/
def Store.changedTable (s : Store) (catalog : Catalog) (n : ObjectName) :
    Except Fault ChangedTable :=
  match s.findIn? n Schema.relation? with
  | some (schema, .table t) => .ok ⟨schema, t⟩
  | some (_, o) => .error (.store (.changedView o.name))
  | none =>
    match catalog.find? fun t => t.isNamed n.schema n.name with
    | some t => .error (.store (.untouchable t.ownName .modified))
    | none => .error (.unknownTable n.text)

/-- A name that no table has in a statement. -/
def ownName : String := "\x00"

namespace ChangedTable

/-- The table as a source by some name, with the number of each row in a hidden column. -/
def asSource (t : ChangedTable) (name : String) : Source :=
  .mk (.table (some t.schema.name) t.table.name false [] none) (some name) {} [] []

/-- What is known around a statement, where the numbers of rows can be asked for. -/
def withNumbers (t : ChangedTable) (c : Context) : Context :=
  let rows := t.table.scanned (t.schema.indexesOf t.table.name)
  let table : Table :=
    { t.table.toTable t.schema.name [] with
      hidden := [{ name := ownName }]
      rows := fun _ => .ok (rows.map fun row =>
        row.values ++ .integer row.number ::
          if t.table.isNumbered then [.integer row.number] else []) }
  { c with tables := { c.tables with catalog := table :: c.tables.catalog } }

/-- The number of a row of the table, which has some name. -/
def number (name : String) : Column :=
  .value (.column ⟨none, some name, ownName, false⟩) none none

/-- What is returned of rows that have changed. -/
def returning (t : ChangedTable) (c : Context) (results : List Column) (rows : List StoredRow) :
    Except Fault (List String × List (List Value)) := do
  if results.isEmpty then return ([], [])
  if results.any fun | .all (some _) => true | _ => false then throw (.store .starReturned)
  let table : Table := { t.table.toTable t.schema.name rows with names := [ownName] }
  let source := Source.mk (.table none ownName false [] none) (some t.table.name) {} [] []
  let c := { c with tables := { c.tables with catalog := table :: c.tables.catalog } }
  let relation ← prepare c (.ofArm (.mk .union false results [source] [] [] [] []))
  return (relation.columns.map ResultColumn.name, ← storedRows (relation.rows []))

/-- A store in which the table has other rows, so many of which have changed. -/
def store (t : ChangedTable) (s : Store) (rows : List StoredRow) (count : Nat) : Store :=
  let s := s.modify t.schema.name fun schema => schema.putTable { t.table with rows }
  { s with changes := count, changesInAll := s.changesInAll + count }

end ChangedTable

/-! ## Assigning values -/

/-- What a value is given to: a column by its place, or the number of the row. -/
inductive Assigned where
  | column (place : Nat)
  | number
deriving DecidableEq

/-- What a name in a table is given values by. -/
def StoredTable.assigned? (t : StoredTable) (name : String) : Option Assigned :=
  match t.place? name with
  | some place => some (if t.numberPlace = some place then .number else .column place)
  | none => if t.isNumbered && hasName numberNames name then some .number else none

/-- The column that a name means, if it is computed. -/
def StoredTable.isComputed (t : StoredTable) (name : String) : Bool :=
  ((t.place? name).bind fun place => t.columns[place]?).any fun c => c.computed.isSome

/-- The values of several columns, one by one. -/
def Assignment.single (a : Assignment) : Except Fault (List (String × Expr)) :=
  match a.columns, a.value with
  | [column], value => .ok [(column, value)]
  | columns, .apply .row values =>
    if columns.length = values.length then .ok (columns.zip values)
    else .error (.store (.unevenAssignment columns.length values.length))
  | columns, .subquery .value [] query =>
    let names := columns.zipIdx.map fun (_, index) => numberedName index
    let source := Source.mk (.table none ownName false [] none) none {} [] []
    .ok ((columns.zip names).map fun (column, name) =>
      let value := Column.value (.column ⟨none, none, name, false⟩) none none
      let arm := Arm.mk .union false [value] [source] [] [] [] []
      (column, .subquery .value [] (.mk [.mk ownName names query] [arm] [] [])))
  | columns, _ => .error (.store (.unevenAssignment columns.length 1))

/-- The number of a row that a value is. -/
def rowNumber (v : Value) : Except Fault Int64 :=
  match v.wholeNumber? with
  | some n => .ok (Int64.ofInt n)
  | none => .error .datatypeMismatch

/-- A row with other values. -/
def StoredTable.changed (t : StoredTable) (row : StoredRow) (changes : List (Assigned × Value)) :
    Except Fault StoredRow :=
  changes.foldlM (fun row (target, v) => do
    match target with
    | .column place => return { row with values := row.values.set place v }
    | .number =>
      let number ← rowNumber v
      let values := (t.numberPlace.map fun place =>
        row.values.set place (.integer number)).getD row.values
      return { row with number, values }) row

/-! ## Writing rows -/

/-- What has been written so far. -/
structure Written where
  rows : List StoredRow
  count : Nat := 0
  lastRow : Option Int64 := none
  /-- Rows that have been written, the last one first. -/
  results : List StoredRow := []

/-- Notes a row that has been written among others. -/
def Written.note (w : Written) (rows : List StoredRow) (row : StoredRow) : Written :=
  { w with rows, count := w.count + 1, results := row :: w.results }

/-- The largest number of a row. -/
def largestNumber (rows : List StoredRow) : Option Int64 := rows.getLast?.map StoredRow.number

/-- The number of a new row, where numbers up to some one have been used. -/
def StoredTable.newNumber (t : StoredTable) (used : Int64) (rows : List StoredRow) :
    Except Fault Int64 :=
  let last := (largestNumber rows).getD 0
  let last := if t.counts then max used last else last
  if last = Int64.maxValue then
    if t.counts then .error (.store .full)
    else
      let free := ((List.range (rows.length + 1)).map fun n => Int64.ofNat (n + 1)).find? fun n =>
        rows.all fun row => row.number != n
      .ok (free.getD 0)
  else .ok (max (last + 1) 1)

/-- What is done with a row in the way of a new one, settled: the obstacles that it is for, and the
values and conditions of a change. -/
structure SettledUpsert where
  answers : Option StoredIndex → Bool
  changes : Option (List (Assigned × Meaning) × List Meaning)

/-- A new row as it is written over a row in its way. -/
def Written.overwrite (w : Written) (r : RowRules) (upsert : SettledUpsert) (old new : StoredRow) :
    Except Fault Written := do
  match upsert.changes with
  | none => return w
  | some (changes, condition) =>
    let frames := [r.table.frame old.number old.values, r.table.frame new.number new.values]
    if !(← holdAll condition frames) then return w
    let values ← changes.mapM fun (target, m) => do return (target, (← m.value frames).plain)
    let row ← r.table.changed old values
    let others := w.rows.filter fun known => known.number != old.number
    match ← r.accept none (fun _ => false) others row with
    | .stored rows row => return w.note rows row
    | _ => return w

/-- Writes a new row. -/
def Written.insert (w : Written) (r : RowRules) (conflict : Option Conflict)
    (upserts : List SettledUpsert) (row : StoredRow) : Except Fault Written := do
  let isAnswered := fun index => upserts.any fun u => u.answers index
  match ← r.accept conflict isAnswered w.rows row with
  | .stored rows row => return { w.note rows row with lastRow := some row.number }
  | .leftOut => return w
  | .blocked old index =>
    match upserts.find? fun u => u.answers index with
    | none => return w
    | some upsert =>
      let row := { row with values := r.table.formed row.values }
      w.overwrite r upsert old row

/-- Writes a row in the place of one of the same number. -/
def Written.update (w : Written) (r : RowRules) (conflict : Option Conflict) (number : Int64)
    (changes : List (Assigned × Value)) : Except Fault Written := do
  match w.rows.find? fun row => row.number == number with
  | none => return w
  | some old =>
    let row ← r.table.changed old changes
    let others := w.rows.filter fun row => row.number != number
    match ← r.accept conflict (fun _ => false) others row with
    | .stored rows row => return w.note rows row
    | _ => return w

/-! ## Numbers that are never used again -/

/-- The name of the table that keeps the largest numbers of tables. -/
def sequenceName : String := "sqlite_sequence"

/-- The largest number that a table has had, if that is kept. -/
def Schema.usedNumber (s : Schema) (table : String) : Int64 :=
  let rows := ((s.tables.find? fun t => t.name == sequenceName).map StoredTable.rows).getD []
  match (rows.map StoredRow.values).find? fun values => values.head? = some (.text table) with
  | some [_, number] => number.asInteger
  | _ => 0

/-- Keeps the largest number that a table has had. -/
def Schema.keepNumber (s : Schema) (table : String) (number : Int64) : Schema :=
  match s.tables.find? fun t => t.name == sequenceName with
  | none => s
  | some t =>
    let values := [.text table, .integer number]
    let isKnown := t.rows.any fun row => row.values.head? = some (.text table)
    let rows := if isKnown then t.rows.map fun row =>
        if row.values.head? = some (.text table) then { row with values } else row
      else t.rows ++ [⟨(largestNumber t.rows).getD 0 + 1, values⟩]
    s.putTable { t with rows }

/-! ## Insertion -/

/-- What the values of new rows are given to, by the names of columns. -/
def StoredTable.targets (t : StoredTable) (columns : List String) :
    Except Fault (List Assigned) :=
  if columns.isEmpty then
    .ok ((t.columns.filter fun column => column.computed.isNone).filterMap fun column =>
      t.assigned? column.name)
  else columns.mapM fun name =>
    match t.assigned? name with
    | none => .error (.store (.noColumn t.name name))
    | some target =>
      if t.isComputed name then .error (.store (.computedChange "INSERT into" name)) else .ok target

/-- A new row with some values, the first of which counts where several are given to one column. -/
def RowRules.newRow (r : RowRules) (targets : List Assigned) (used : Int64)
    (rows : List StoredRow) (given : List Value) : Except Fault StoredRow := do
  let pairs := targets.zip given
  let valueOf := fun (target : Assigned) => (pairs.find? fun (known, _) => known == target).map (·.2)
  let given := valueOf .number
  let number ← if given.all (· = .null) then r.table.newNumber used rows
    else rowNumber (given.getD .null)
  let values ← r.initial.zipIdx.mapM fun (initial, place) =>
    if r.table.numberPlace = some place then .ok (.integer number)
    else match valueOf (.column place) with
      | some v => .ok v
      | none => (initial.value []).map Value.plain
  return ⟨number, values⟩

/-- Whether the keys of an index are the ones that are named. -/
def StoredTable.isMeant (t : StoredTable) (target : List Term) (among : List Expr)
    (i : StoredIndex) : Bool :=
  let places := fun (terms : List Term) => terms.filterMap fun term => (t.keyOrder term).map (·.1)
  let named := places target
  let own := places i.keys
  (i.condition.isEmpty || allSame i.condition among) && named.length == target.length &&
    own.length == i.keys.length &&
    named.length == own.length && named.all own.contains && own.all named.contains

/-- Settles what is done with rows in the way of new ones. -/
def settleUpsert (c : Context) (t : ChangedTable) (u : Upsert) : Except Fault SettledUpsert := do
  let table := t.table
  let isNumber := match u.target with
    | [.mk (.column n) _ _] => table.assigned? n.column = some .number
    | _ => false
  let indexes := (t.schema.indexesOf table.name).filter fun i =>
    i.isUnique && table.isMeant u.target u.among i
  let scopes := [table.scope t.schema.name [table.name]]
  let _ ← settleStrictly c scopes (u.target.map fun | .mk key _ _ => key)
  if !u.target.isEmpty && !isNumber && indexes.isEmpty then throw (.store .unmatchedTarget)
  let answers := fun (index : Option StoredIndex) =>
    u.target.isEmpty || match index with
      | none => isNumber
      | some i => indexes.any fun known => known.name == i.name
  match u.changes with
  | none => return { answers, changes := none }
  | some (changes, condition) =>
    let excluded := { table.scope t.schema.name ["excluded"] with results := [] }
    let scopes := scopes ++ [excluded]
    let single := (← changes.mapM Assignment.single).flatten
    let targets ← single.mapM fun (name, _) =>
      match table.assigned? name with
      | some target => .ok target
      | none => .error (.unknownColumn name)
    let values ← settleStrictly c scopes (single.map (·.2))
    let conditions ← settleStrictly c scopes condition
    return { answers, changes := some (targets.zip values, conditions) }

/-- The fault of rows that have another number of values than there are columns. -/
def unevenFault? (t : StoredTable) (columns : List String) (targets values : Nat) :
    Option StoreFault :=
  if targets = values then none
  else if columns.isEmpty then some (.unevenRow t.name targets values)
  else some (.unevenValues values columns.length)

/-- The values of a query that is a row written out. -/
def Select.writtenRow? : Select → Option (List Expr)
  | .mk _ [.mk _ _ columns [] [] [] [] _] _ _ => columns.mapM fun
    | .value e none none => some e
    | _ => none
  | _ => none

/-- Plans an insertion. -/
def planInsert (s : Store) (c : Context) (definitions : List Definition)
    (conflict : Option Conflict) (name : ObjectName) (columns : List String) (rows : NewRows)
    (upserts : List Upsert) (results : List Column) : Except Fault Plan := do
  let t ← s.changedTable c.tables.catalog name
  let targets ← t.table.targets columns
  let within := c.within (definitionSettlers definitions)
  let (targets, newRows) ← match rows with
    | .query query => do
      if let some row := query.writtenRow? then let _ ← settleStrictly within [] row
      let relation ← prepare within query
      if let some fault := unevenFault? t.table columns targets.length relation.columns.length then
        throw (.store fault)
      pure (targets, relation.rows [])
    | .defaults => do
      if !columns.isEmpty then throw (.store (.unevenValues 0 columns.length))
      pure ([], .ofList [[]])
  let rules ← rowRules c t.schema t.table
  let rules := { rules with looksAtChecks := !s.isSet "ignore_check_constraints" }
  let upserts ← upserts.mapM (settleUpsert within t)
  let (titles, _) ← t.returning within results []
  return fun _ => do
    let used := t.schema.usedNumber t.table.name
    let written ← (← storedRows newRows).foldlM (fun (w : Written) given => do
      w.insert rules conflict upserts (← rules.newRow targets used w.rows given))
      { rows := t.table.rows }
    let store := t.store s written.rows written.count
    let store := match t.table.counts, written.lastRow with
      | true, some _ =>
        let last := max used ((largestNumber written.rows).getD 0)
        store.modify t.schema.name fun schema => schema.keepNumber t.table.name last
      | _, _ => store
    let (_, rows) ← t.returning { within with circumstances := c.circumstances } results
      written.results.reverse
    return {
      columns := titles
      rows := rows.map .ok
      store := { store with lastRow := written.lastRow.getD s.lastRow } }

/-! ## Updates and deletions -/

/-- The fault of values that are assigned, where `ownName` stands for the query they come from. -/
def Fault.ofAssigned : Fault → Fault
  | .unevenDefinition name values columns =>
    if name == ownName then .store (.unevenAssignment columns values)
    else .unevenDefinition name values columns
  | fault => fault

/-- Finds what is wrong with values that are assigned where the rows of sources are at hand.  Those
of the table alone are taken one by one, and there are no aggregates of them. -/
def checkAssigned (c : Context) (sources : List Source) (es : List Expr) : Except Fault Unit :=
  Except.mapError Fault.ofAssigned do
    let headings ← headingsOf c.tables sources
    let (settled, _) ← (settleSources c [] sources).run {}
    let scope : Scope :=
      { sources := scopeSources 0 (settled.zip (headings.zip sources))
        allowsAggregates := 1 < sources.length }
    let _ ← settleStrictly c [scope] es

/-- What the values of rows are given to, each with its value.  What is wrong with the values so far
is found before a column that is not there. -/
def ChangedTable.assignments (t : ChangedTable) (c : Context) (sources : List Source)
    (name : String) (changes : List Assignment) : Except Fault (List (Assigned × Expr)) := do
  let single := (← changes.mapM Assignment.single).flatten
  let known := single.takeWhile fun (column, _) =>
    (t.table.assigned? column).isSome && !t.table.isComputed column
  let looked := single.take (known.length + 1)
  checkAssigned (t.withNumbers c) (t.asSource name :: sources) (looked.map (·.2))
  if let some (column, _) := single[known.length]? then
    if t.table.isComputed column then throw (.store (.computedChange "UPDATE" column))
    throw (.unknownColumn column)
  return single.filterMap fun (column, e) => (t.table.assigned? column).map fun target => (target, e)

/-- Plans an update. -/
def planUpdate (s : Store) (c : Context) (definitions : List Definition)
    (conflict : Option Conflict) (name : ObjectName) (otherName : Option String)
    (changes : List Assignment) (sources : List Source) (condition : List Expr)
    (results : List Column) : Except Fault Plan := do
  let t ← s.changedTable c.tables.catalog name
  let within := c.within (definitionSettlers definitions)
  let own := otherName.getD t.table.name
  let assigned ← t.assignments within sources own changes
  let columns := ChangedTable.number own :: assigned.map fun (_, e) => Column.value e none none
  let relation ← prepare (t.withNumbers within)
    (.ofArm (.mk .union false columns (t.asSource own :: sources) condition [] [] []))
  let rules ← rowRules c t.schema t.table
  let rules := { rules with looksAtChecks := !s.isSet "ignore_check_constraints" }
  let (titles, _) ← t.returning within results []
  return fun _ => do
    let found ← storedRows (relation.rows [])
    let first := distinctByKeys [{}] (·.take 1) found
    let written ← first.foldlM (fun (w : Written) row => do
      match row with
      | .integer number :: values =>
        w.update rules conflict number ((assigned.map (·.1)).zip values)
      | _ => return w) { rows := t.table.rows }
    let (_, rows) ← t.returning within results written.results.reverse
    return {
      columns := titles
      rows := rows.map .ok
      store := t.store s written.rows written.count }

/-- Plans a deletion. -/
def planDelete (s : Store) (c : Context) (definitions : List Definition) (name : ObjectName)
    (otherName : Option String) (condition : List Expr) (results : List Column) :
    Except Fault Plan := do
  let t ← s.changedTable c.tables.catalog name
  let within := c.within (definitionSettlers definitions)
  let own := otherName.getD t.table.name
  let relation ← prepare (t.withNumbers within)
    (.ofArm (.mk .union false [ChangedTable.number own] [t.asSource own] condition [] [] []))
  let (titles, _) ← t.returning within results []
  return fun _ => do
    let numbers := (← storedRows (relation.rows [])).flatten
    let isGone := fun (row : StoredRow) => numbers.contains (.integer row.number)
    let (gone, kept) := t.table.rows.partition isGone
    let (_, rows) ← t.returning within results gone
    return {
      columns := titles
      rows := rows.map .ok
      store := t.store s kept gone.length }

end Sql
end ReportQuery
