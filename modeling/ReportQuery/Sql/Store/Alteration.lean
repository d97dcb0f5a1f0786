/-
# Altering tables

A table is altered by editing the statements that made it and what belongs to it, and reading them
again.  So what is wrong with them after that is found, and told with what it is wrong with.
-/

import ReportQuery.Sql.Reading.Command
import ReportQuery.Sql.Store.Definition

namespace ReportQuery
namespace Sql

/-! ## Editing statements -/

/-- A token with those around it. -/
structure Surrounded where
  index : Nat
  before : Option Token
  token : Token
  behind : Token

/-- The tokens of a statement, each with its neighbours. -/
def surroundedTokens (text : String) : List Surrounded :=
  let ts := tokens text.toList
  (ts.zip (ts.drop 1)).zipIdx.map fun ((token, behind), index) =>
    { index, before := if index = 0 then none else ts[index - 1]?, token, behind }

/-- A statement in which some tokens are replaced. -/
def replaceTokens (replacement : Surrounded → Option String) (text : String) : String :=
  String.join ((surroundedTokens text).map fun s =>
    let piece := String.ofList (s.token.source.take (s.token.source.length - s.behind.source.length))
    match replacement s with
    | some new => new ++ String.ofList (piece.toList.drop s.token.text.length)
    | none => piece)

/-- Whether a token is a name that means something of that name. -/
def Token.isNameOf (t : Token) (name : String) : Bool :=
  (t.kind == .word || t.kind == .quotation || t.kind == .quotedName || t.kind == .text) &&
    sameName t.content name

/-- A name in quotation marks. -/
def quotedName (name : String) : String := "\"" ++ "\"\"".intercalate (name.splitOn "\"") ++ "\""

/-- The statement of an object, where a table has another name. -/
def withTableRenamed (kind : ObjectKind) (old new : String) : String → String :=
  replaceTokens fun s =>
    let isBehind := fun (words : List String) => s.before.any fun b => words.contains b.keyword
    let isMeant := match kind with
      | .table => s.index = 2 || s.behind.isSymbol "." || isBehind ["REFERENCES"]
      | .view => 2 < s.index && !isBehind ["AS"] && !s.before.any fun b => b.isSymbol "."
      | _ => s.behind.isSymbol "." || isBehind ["ON"]
    if isMeant && s.token.isNameOf old then some (quotedName new) else none

/-- The statement of an object, where a column has another name. -/
def withColumnRenamed (kind : ObjectKind) (old new : String) : String → String :=
  replaceTokens fun s =>
    let isTable := s.index = 2 || s.behind.isSymbol "." || s.behind.isSymbol "(" ||
      (kind = .index && s.before.any fun b => b.keyword == "ON")
    if !isTable && s.token.isNameOf old then some (quotedIfNeeded new) else none

/-- The places in the statement of a table where its columns begin, and where they end; `depth` is
that of the parentheses. -/
def columnPlaces (length : Nat) (depth : Nat) : List Surrounded → List Nat × Nat
  | [] => ([], length)
  | s :: rest =>
    let here := length - s.token.source.length
    let behind := length - s.behind.source.length
    if s.token.isSymbol "(" then
      let (places, last) := columnPlaces length (depth + 1) rest
      (if depth = 0 then behind :: places else places, last)
    else if s.token.isSymbol ")" then
      if depth = 1 then ([], here) else columnPlaces length (depth - 1) rest
    else if depth = 1 && s.token.isSymbol "," then
      if s.behind.beginsTableRule then ([], here)
      else
        let (places, last) := columnPlaces length depth rest
        (behind :: places, last)
    else columnPlaces length depth rest

/-- The places in the statement of a table where its columns begin, and where they end. -/
def placesOfColumns (text : String) : List Nat × Nat :=
  columnPlaces text.toList.length 0 (surroundedTokens text)

/-- The statement of a table with one more column. -/
def withColumnAdded (column text : String) : String :=
  let (_, last) := placesOfColumns text
  String.ofList (text.toList.take last) ++ ", " ++ column ++ String.ofList (text.toList.drop last)

/-- The statement of a table without one of its columns. -/
def withColumnDropped (place : Nat) (text : String) : String :=
  let cs := text.toList
  let (places, last) := placesOfColumns text
  match places[place]?, places[place + 1]? with
  | some first, some next => String.ofList (cs.take first ++ cs.drop next)
  | some first, none =>
    let kept := (cs.take first).reverse.dropWhile (· ≠ ',')
    String.ofList ((kept.drop 1).reverse ++ cs.drop last)
  | none, _ => text

/-! ## Reading statements again -/

/-- The fault of what is wrong with something after an alteration. -/
def alterationFault (kind : ObjectKind) (name phase : String) (fault : Fault) : Fault :=
  let phase := if phase.isEmpty then "" else " after " ++ phase
  .store (.wrongAfter (kind.word ++ " " ++ name ++ phase) fault.message)

/-- A statement that makes something, read from its text. -/
def definitionOf (text : String) : Except Fault Statement := do
  let (statement, _, _) ← readStatement (markClauses none (tokens text.toList))
  return statement

/-- What an object is once its statement is another one. -/
def StoredObject.reread (c : Context) (schema : String) (text : String) (table : String)
    (o : StoredObject) : Except Fault StoredObject := do
  match o, ← definitionOf text with
  | .table t, .createTable _ _ n (.columns columns rules options) _ =>
    let d ← TableDraft.ofContent c schema n.name columns rules options text
    return .table { d.table with page := t.page, rows := t.rows }
  | .view v, .createView _ _ n columns query _ =>
    return .view { v with name := n.name, columns, query, written := text }
  | .index i, .createIndex _ _ _ _ keys condition _ =>
    return .index { i with table, keys, condition, written := text }
  | o, _ => return o

/-- A key of an index, where a column has another name. -/
def Expr.withColumn (old new : String) : Expr → Expr
  | .column n => .column (if sameName n.column old then { n with column := new } else n)
  | .apply operator [e] => .apply operator [e.withColumn old new]
  | e => e

/-- How an alteration edits statements. -/
structure Alteration where
  /-- The table, and the name that it has then. -/
  table : String
  name : String
  phase : String
  text : ObjectKind → String → String
  /-- A column of the table, and the name that it has then. -/
  column : Option (String × String) := none
  /-- Whether views are edited, too. -/
  editsViews : Bool := true

/-- The index of a rule behind an alteration. -/
def Alteration.index (e : Alteration) (i : StoredIndex) : StoredIndex :=
  let number := (i.name.toList.reverse.takeWhile (· ≠ '_')).reverse
  let keyOf := fun (key : Expr) => e.column.elim key fun (old, new) => key.withColumn old new
  { i with
    table := e.name
    name := "sqlite_autoindex_" ++ e.name ++ "_" ++ String.ofList number
    keys := i.keys.map fun (.mk key descending nullsFirst) =>
      .mk (keyOf key) descending nullsFirst }

/-- An object behind an alteration. -/
def Alteration.apply (e : Alteration) (c : Context) (schema : String) (o : StoredObject) :
    Except Fault StoredObject :=
  let reread := fun text =>
    (o.reread c schema (e.text o.kind text) e.name).mapError
      (alterationFault o.kind o.name e.phase)
  match o with
  | .table t => if sameName t.name e.table then reread t.written else .ok o
  | .view v => if e.editsViews then reread v.written else .ok o
  | .index i =>
    if !sameName i.table e.table then .ok o
    else if i.written.isEmpty then .ok (.index (e.index i))
    else reread i.written

/-- Looks whether all views of a schema can be used. -/
def Store.checkViews (s : Store) (c : Context) (schema phase : String) : Except Fault Unit := do
  let catalog := s.catalog c.circumstances.now
  for v in ((s.schema? schema).map Schema.objects).getD [] do
    if let .view v := v then
      if let some t := catalog.find? fun t => t.isNamed (some schema) v.name then
        if let some fault := t.fault then
          throw (alterationFault .view v.name phase fault)

/-- A store behind an alteration. -/
def Alteration.applyTo (e : Alteration) (s : Store) (c : Context) (schema : Schema) : Except Fault Store := do
  s.checkViews c schema.name ""
  let objects ← schema.objects.mapM (e.apply c schema.name)
  let s := s.remade schema.name fun schema => { schema with objects }
  s.checkViews c schema.name e.phase
  return s

/-! ## Alterations -/

/-- Finds a table that is to be altered; of a view it is told what cannot be done. -/
def Store.alteredTable (s : Store) (c : Context) (n : ObjectName)
    (ofView : String → StoreFault) : Except Fault ChangedTable :=
  match s.findIn? n Schema.relation? with
  | some (schema, .table t) =>
    if isReserved t.name then .error (.store (.untouchable t.name .altered)) else .ok ⟨schema, t⟩
  | some (_, o) => .error (.store (ofView o.name))
  | none =>
    match c.tables.catalog.find? fun t => t.isNamed n.schema n.name with
    | some t => .error (.store (.untouchable t.ownName .altered))
    | none => .error (.unknownTable n.text)

/-- Plans that a table gets another name. -/
def planRename (s : Store) (c : Context) (n : ObjectName) (name : String) : Except Fault Plan := do
  let taken := fun (schema : Schema) =>
    (schema.relation? name).isSome || (schema.index? name).isSome
  if let some (schema, _) := s.findIn? n Schema.relation? then
    if taken schema then throw (.store (.otherwiseNamed name))
  let t ← s.alteredTable c n fun view => .fixedView view
  if isReserved name then throw (.store (.reserved name))
  let e : Alteration :=
    { table := t.table.name, name, phase := "rename"
      text := fun kind => withTableRenamed kind t.table.name name }
  return fun _ => return { store := ← e.applyTo s c t.schema }

/-- The place of a column that is to be altered. -/
def ChangedTable.alteredPlace (t : ChangedTable) (column : String) : Except Fault Nat :=
  match t.table.place? column with
  | some place => .ok place
  | none => .error (.unknownColumn (quotedName column))

/-- Plans that a column gets another name. -/
def planRenameColumn (s : Store) (c : Context) (n : ObjectName) (column name : String) :
    Except Fault Plan := do
  let t ← s.alteredTable c n fun view => .alteredView view "cannot rename columns of view"
  let _ ← t.alteredPlace column
  let e : Alteration :=
    { table := t.table.name, name := t.table.name, phase := "rename"
      text := fun kind => withColumnRenamed kind column name
      column := some (column, name) }
  return fun _ => return { store := ← e.applyTo s c t.schema }

/-- Changes the rows of a table, and computes what is computed of them. -/
def Store.mapRows (s : Store) (c : Context) (schema table : String)
    (f : List Value → List Value) : Except Fault Store := do
  match s.schema? schema with
  | none => return s
  | some known =>
    match known.tables.find? fun t => sameName t.name table with
    | none => return s
    | some t =>
      let rules ← rowRules c known t
      let rows ← t.rows.mapM fun row => do
        return { row with values := ← rules.computedValues row.number (f row.values) }
      return s.modify schema fun known => known.putTable { t with rows }

/-- Whether an expression is a value as it is written. -/
def Expr.isWrittenValue : Expr → Bool
  | .literal _ | .number _ | .truth _ => true
  | .apply .negate [e] | .apply .keep [e] | .apply (.cast _) [e] => e.isWrittenValue
  | .column n => (Expr.column n).isConstant
  | _ => false

/-- Plans that a column is added. -/
def planAddColumn (s : Store) (c : Context) (n : ObjectName) (column : ColumnDefinition)
    (written : String) : Except Fault Plan := do
  let t ← s.alteredTable c n fun _ => .widenedView
  let d ← (TableDraft.mk { t.table with columns := t.table.columns } false []).addColumn column
  if d.hasKey then throw (.store .addedKey)
  if !d.indexes.isEmpty then throw (.store .addedUnique)
  let added := d.table.columns.getLast?
  let initial := (added.bind fun column => column.initial).filter fun (e, _) => match e with
    | .literal .null => false
    | _ => true
  let values ← settleStrictly c [] ((initial.map (·.1)).toList)
  let e : Alteration :=
    { table := t.table.name, name := t.table.name, phase := "add column", editsViews := false
      text := fun kind text => if kind = .table then withColumnAdded written text else text }
  return fun _ => do
    if !t.table.rows.isEmpty then
      if added.any (fun column => column.required.isSome) && initial.isNone then
        throw (.store .addedNull)
      if initial.any fun (e, _) => !e.isWrittenValue then throw (.store .addedDefault)
      if added.any fun column => column.isKept then throw (.store .addedStored)
    let value := (← valuesOf values []).headD .null
    let affinity := (added.map fun column => column.affinity).getD .none
    let s ← e.applyTo s c t.schema
    return { store := ← s.mapRows c t.schema.name t.table.name fun row =>
      row ++ [affinity.stored value.plain] }

/-- Plans that a column is dropped. -/
def planDropColumn (s : Store) (c : Context) (n : ObjectName) (column : String) :
    Except Fault Plan := do
  let t ← s.alteredTable c n fun view => .alteredView view "cannot drop column from view"
  let place ← t.alteredPlace column
  let own := t.table.columns[place]?
  if own.any fun column => column.keyPlace ≠ 0 then
    throw (.store (.neededColumn column "PRIMARY KEY"))
  let isUnique := match definitionOf t.table.written with
    | .ok (.createTable _ _ _ (.columns columns _ _) _) =>
      columns[place]?.any fun (d : ColumnDefinition) =>
        d.rules.any fun | .unique _ => true | _ => false
    | _ => false
  if isUnique then throw (.store (.neededColumn column "UNIQUE"))
  if t.table.columns.length ≤ 1 then throw (.store (.lastColumn column))
  let e : Alteration :=
    { table := t.table.name, name := t.table.name, phase := "drop column", editsViews := false
      text := fun kind text => if kind = .table then withColumnDropped place text else text }
  return fun _ => do
    let without : Schema := t.schema.putTable { t.table with
      columns := t.table.columns.eraseIdx place }
    let s ← e.applyTo s c t.schema
    for i in without.indexesOf t.table.name do
      if let some shorter := (without.tables.find? fun other => other.name == t.table.name) then
        let _ ← (uniqueRule c t.schema.name shorter i).mapError
          (alterationFault .index i.name "drop column")
    return { store := ← s.mapRows c t.schema.name t.table.name fun row =>
      row.eraseIdx place }

end Sql
end ReportQuery
