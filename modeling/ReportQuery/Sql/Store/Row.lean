/-
# Rows of stored tables

What a row has to be like before it is stored.  Its values take the form that their columns like,
and then the rules of the table are looked at one after the other: values that have to be there,
conditions, the number of the row, and values that no two rows may have in common.

A row that breaks a rule ends the change, or is left out, or takes the place of the rows in its
way, as the statement says or else the rule.
-/

import ReportQuery.Sql.Store.Catalog

namespace ReportQuery
namespace Sql

/-! ## Values -/

/-- A real that is a whole number as an integer, unless it is at the bounds of the type. -/
def Value.wholeIfFits (v : Value) : Value :=
  match v, v.wholeNumber? with
  | .real _, some n => wholeValue n
  | v, _ => v

/-- A value in the form that a column likes. -/
def Affinity.stored (a : Affinity) (v : Value) : Value :=
  match a with
  | .none | .blob => v
  | .text =>
    match v with
    | .integer n => .text (Value.integerText n)
    | .real x => .text (Value.realText x)
    | v => v
  | .numeric | .integer => v.numberIfComplete.wholeIfFits
  | .real =>
    match v.numberIfComplete with
    | .integer n => .real n.toFloat
    | v => v

/-- The type of a column, if values have to be of it, by the word for it. -/
def strictTypes : List (String × Affinity) :=
  [("INT", .integer), ("INTEGER", .integer), ("REAL", .real), ("TEXT", .text), ("BLOB", .blob),
    ("ANY", .none)]

/-- The word for the type of a value that is not the one of its column. -/
def Value.typeWord (v : Value) : String :=
  match v.storageClass with
  | .integer => "INT"
  | other => String.ofList (other.name.toList.map Char.toUpper)

/-- Whether a value is of a type. -/
def Affinity.allows (a : Affinity) (v : Value) : Bool :=
  match a, v.storageClass with
  | _, .null | .none, _ => true
  | .integer, .integer | .real, .real | .text, .text | .blob, .blob => true
  | _, _ => false

namespace StoredTable

/-- A row with its values in the form that their columns like. -/
def formed (t : StoredTable) (values : List Value) : List Value :=
  (values.zip t.columns).map fun (v, column) => column.affinity.stored v

/-- The column of a value that is not of its type, in a table whose values have to be. -/
def mistyped? (t : StoredTable) (values : List Value) : Option StoreFault :=
  if !t.isStrict then none
  else (values.zip t.columns).findSome? fun (v, column) =>
    let type := (strictTypes.find? fun (word, _) => sameName word column.type).map (·.2)
    if (type.getD .none).allows v then none
    else some (.wrongType v.typeWord
      (String.ofList (column.type.toList.map Char.toUpper)) (t.name ++ "." ++ column.name))

/-- A row as it is at hand for expressions. -/
def frame (t : StoredTable) (number : Int64) (values : List Value) : Frame where
  row := (values ++ if t.isNumbered then [Value.integer number] else []).map .ok

/-- A table as the only source of a scope, by some names. -/
def scope (t : StoredTable) (schema : String) (names : List String) : Scope where
  sources :=
    [{ schema := some schema
       names
       columns := ((t.toTable schema []).settled none).columns
       common := []
       join := {}
       start := 0
       numberName := t.numberName }]
  allowsAggregates := false

end StoredTable

/-! ## Expressions in definitions -/

mutual

/-- Whether an expression or a part of it passes a test; queries are not looked into. -/
def Expr.anyPart (test : Expr → Bool) : Expr → Bool
  | .apply operator operands => test (.apply operator operands) || anyPartOf test operands
  | .call function distinct arguments order filter around =>
    test (.call function distinct arguments order filter around) || anyPartOf test arguments ||
      anyPartOf test filter
  | e => test e

/-- Whether one of some expressions or a part of it passes a test. -/
def anyPartOf (test : Expr → Bool) : List Expr → Bool
  | [] => false
  | e :: es => e.anyPart test || anyPartOf test es

end

namespace StoredTable

/-- Whether an expression looks at the column at some place. -/
def looksAt (t : StoredTable) (place : Nat) (e : Expr) : Bool :=
  e.anyPart fun
    | .column n => t.place? n.column = some place
    | _ => false

/-- The columns whose values are computed, by their places; with those that are kept if `withKept`
says so. -/
def computedColumns (t : StoredTable) (withKept : Bool) : List (Nat × Expr) :=
  t.columns.zipIdx.filterMap fun (column, place) =>
    (column.computed.filter fun _ => withKept || !column.isKept).map fun e => (place, e)

/-- Computed columns in an order in which each one stands behind those that it looks at, so far as
there is one; `fuel` is the number of them. -/
def computingOrder (t : StoredTable) (waiting : List (Nat × Expr)) : Nat → List (Nat × Expr)
  | 0 => []
  | fuel + 1 =>
    let (waits, ready) := waiting.partition fun (_, e) =>
      waiting.any fun (place, _) => t.looksAt place e
    ready ++ computingOrder t waits fuel

/-- The column that is come to again on the way from a column to one that it looks at, and so on;
`fuel` is more than the number of columns. -/
def repeatedPlace? (t : StoredTable) (columns : List (Nat × Expr)) (seen : List Nat) (place : Nat) :
    Nat → Option Nat
  | 0 => none
  | fuel + 1 =>
    if seen.contains place then some place
    else
      let own := columns.find? fun (other, _) => other == place
      let next := own.bind fun (_, e) => columns.find? fun (other, _) => t.looksAt other e
      next.bind fun (other, _) => repeatedPlace? t columns (place :: seen) other fuel

/-- The fault of a column that is computed from itself. -/
def checkCircles (t : StoredTable) (withKept : Bool) : Except Fault Unit := do
  let columns := t.computedColumns withKept
  let known := (t.computingOrder columns columns.length).map (·.1)
  let circular := columns.filter fun (place, _) => !known.contains place
  let place := circular.getLast?.bind fun (place, _) =>
    t.repeatedPlace? circular [] place (columns.length + 1)
  if let some column := place.bind fun place => t.columns[place]? then
    throw (.store (.circularColumn column.name))

end StoredTable

/-! ## Settling rules -/

/-- The meanings of expressions in some scopes, and all that is wrong with them. -/
def settleStrictly (c : Context) (scopes : List Scope) (es : List Expr) :
    Except Fault (List Meaning) := do
  (findTables c.tables es).outcome
  let settling : Settling (List Meaning) := do
    let tuples ← settleAll c scopes es
    proceed
    tuples.mapM Tuple.single
  let (meanings, progress) ← settling.run {}
  match progress.late with
  | some late => throw late.fault
  | none => return meanings

/-- The rule that no two rows have some keys in common. -/
structure UniqueRule where
  index : StoredIndex
  keys : List Meaning
  orders : List KeyOrder
  /-- What the rows are like that the rule is for. -/
  condition : List Meaning
  fault : StoreFault

/-- The rules for the rows of a table, settled. -/
structure RowRules where
  table : StoredTable
  checks : List (String × Meaning)
  computed : List (Nat × Meaning)
  initial : List Meaning
  unique : List UniqueRule
  /-- Whether conditions are looked at. -/
  looksAtChecks : Bool := true

/-- What a table is told to be unique in. -/
def StoredTable.subject (t : StoredTable) (i : StoredIndex) : String :=
  let places := i.keys.map t.keyOrder
  if places.any Option.isNone then "index '" ++ i.name ++ "'"
  else ", ".intercalate (places.filterMap fun place =>
    (place.bind fun (place, _) => t.columns[place]?).map fun c => t.name ++ "." ++ c.name)

/-- Settles the rule of an index. -/
def uniqueRule (c : Context) (schema : String) (t : StoredTable) (i : StoredIndex) :
    Except Fault UniqueRule := do
  let scopes := [t.scope schema [t.name]]
  let keys ← settleStrictly c scopes (i.keys.map fun | .mk key _ _ => key)
  let orders := keys.map fun m =>
    { collation := (m.collating.bind fun c => Collation.ofName? c.name).getD .binary : KeyOrder }
  let condition ← settleStrictly c scopes i.condition
  let rule := if i.origin = .primaryKey then RowRule.primaryKey else .unique
  return ⟨i, keys, orders, condition, .broken rule (t.subject i)⟩

/-- Settles the rules for the rows of a table. -/
def rowRules (c : Context) (schema : Schema) (t : StoredTable) : Except Fault RowRules := do
  let scopes := [t.scope schema.name [t.name]]
  let checks ← settleStrictly c scopes (t.checks.map (·.2))
  let computed := t.computingOrder (t.computedColumns true) t.columns.length
  t.checkCircles true
  let values ← settleStrictly c scopes (computed.map (·.2))
  let initial ← settleStrictly c []
    (t.columns.map fun column => (column.initial.map (·.1)).getD (.literal .null))
  let indexes := (schema.indexesInTurn t.name).filter StoredIndex.isUnique
  return {
    table := t
    checks := (t.checks.map (·.1)).zip checks
    computed := (computed.map (·.1)).zip values
    initial
    unique := ← indexes.mapM (uniqueRule c schema.name t) }

/-! ## Looking at rules -/

namespace UniqueRule

/-- The keys of a row; none if the rule is not for it or a key is null. -/
def keysOf? (r : UniqueRule) (frame : Frame) : Except Fault (Option (List Value)) := do
  if !(← holdAll r.condition [frame]) then return none
  let keys ← valuesOf r.keys [frame]
  return if keys.contains .null then none else some keys

/-- The row that is in the way of another one. -/
def obstacle? (r : UniqueRule) (t : StoredTable) (rows : List StoredRow) (frame : Frame) :
    Except Fault (Option StoredRow) := do
  match ← r.keysOf? frame with
  | none => return none
  | some keys =>
    rows.findM? fun row => do
      match ← r.keysOf? (t.frame row.number row.values) with
      | some others => return compareKeys r.orders keys others == .eq
      | none => return false

end UniqueRule

/-- What a rule is broken by, and what comes of it. -/
inductive Verdict where
  /-- The row is stored among the others. -/
  | stored (rows : List StoredRow) (row : StoredRow)
  | leftOut
  /-- Another row is in the way; the index tells of which rule, none if it is the number. -/
  | blocked (row : StoredRow) (index : Option StoredIndex)

/-- What is done about a row that breaks a rule: it is left out, or the change fails. -/
def refused (conflict : Conflict) (fault : StoreFault) : Except Fault Verdict :=
  match conflict with
  | .ignore => .ok .leftOut
  | _ => .error (.store fault)

/-- Rows with one more, in the order of their numbers. -/
def withRow (row : StoredRow) : List StoredRow → List StoredRow
  | [] => [row]
  | r :: rows => if row.number < r.number then row :: r :: rows else r :: withRow row rows

namespace RowRules

/-- Values with those that are computed. -/
def computedValues (r : RowRules) (number : Int64) (values : List Value) :
    Except Fault (List Value) :=
  r.computed.foldlM (fun values (place, m) => do
    let v ← m.value [r.table.frame number values]
    let affinity := (r.table.columns[place]?.map fun c => c.affinity).getD .none
    return values.set place (affinity.stored v.plain)) values

/-- A value of a column, or what the column has where none is given in the place of a null that may
not be there.  There is none if the row is to be left out. -/
def requiredValue (r : RowRules) (conflict : Option Conflict) (place : Nat) (column : StoredColumn)
    (v : Value) : OptionT (Except Fault) Value := do
  match v, column.required with
  | .null, some own =>
    let fault := Fault.store (.broken .required (r.table.name ++ "." ++ column.name))
    match conflict.getD own with
    | .ignore => failure
    | .replace =>
      let initial ← liftM ((r.initial[place]?).elim (.ok .null) fun m => m.value [])
      if initial = .null then OptionT.mk (.error fault)
      else return column.affinity.stored initial.plain
    | _ => OptionT.mk (.error fault)
  | v, _ => return v

/-- The values of a row, where those that have to be there are there.  There are none if the row
is to be left out. -/
def requiredValues (r : RowRules) (conflict : Option Conflict) (values : List Value) :
    Except Fault (Option (List Value)) :=
  OptionT.run ((values.zip r.table.columns).zipIdx.mapM fun ((v, column), place) =>
    r.requiredValue conflict place column v)

/-- What is in the way of a row that is to be stored, by the number and by each index. -/
def settleObstacles (r : RowRules) (conflict : Option Conflict)
    (isAnswered : Option StoredIndex → Bool) (row : StoredRow) (rows : List StoredRow) :
    List UniqueRule → Except Fault Verdict
  | [] => .ok (.stored (withRow row rows) row)
  | rule :: rules => do
    match ← rule.obstacle? r.table rows (r.table.frame row.number row.values) with
    | none => r.settleObstacles conflict isAnswered row rows rules
    | some other =>
      if isAnswered (some rule.index) then return .blocked other (some rule.index)
      match conflict.getD (rule.index.conflict.getD .abort) with
      | .replace =>
        r.settleObstacles conflict isAnswered row
          (rows.filter fun known => known.number != other.number) rules
      | other => refused other rule.fault

/-- What becomes of a row that is to be stored among others.  An obstacle is told if it is
answered for. -/
def accept (r : RowRules) (conflict : Option Conflict) (isAnswered : Option StoredIndex → Bool)
    (rows : List StoredRow) (row : StoredRow) : Except Fault Verdict := do
  let values ← r.computedValues row.number (r.table.formed row.values)
  match ← r.requiredValues conflict values with
  | none => return .leftOut
  | some values =>
    if let some fault := r.table.mistyped? values then throw (.store fault)
    let row := { row with values }
    let frame := r.table.frame row.number row.values
    let broken ← r.checks.findM? fun (_, m) => do
      return r.looksAtChecks && (← m.value [frame]).truth? = some false
    if let some (name, _) := broken then
      return ← refused (conflict.getD .abort) (.broken .condition name)
    match rows.find? fun known => known.number == row.number with
    | none => r.settleObstacles conflict isAnswered row rows r.unique
    | some other =>
      if isAnswered none then return .blocked other none
      let fault := match r.table.numberPlace.bind fun place => r.table.columns[place]? with
        | some column => StoreFault.broken .primaryKey (r.table.name ++ "." ++ column.name)
        | none => .broken .number (r.table.name ++ ".rowid")
      match conflict.getD r.table.numberConflict with
      | .replace =>
        r.settleObstacles conflict isAnswered row
          (rows.filter fun known => known.number != row.number) r.unique
      | other => refused other fault

end RowRules

end Sql
end ReportQuery
