/-
# Making and dropping

Tables, views and indexes are made in a schema, where each has a name of its own, and dropped
again.  Names that begin with `sqlite_` are kept for the database.

Each rule that values are unique has an index, which is named after the table; rules for the same
columns share one.  A column of the type `INTEGER` that is the primary key holds the number of the
row and has no index.
-/

import ReportQuery.Sql.Reading.Basic
import ReportQuery.Sql.Store.Change

namespace ReportQuery
namespace Sql

/-! ## Expressions in definitions -/

/-- Functions whose values change from call to call. -/
def changingFunctions : List String :=
  ["changes", "last_insert_rowid", "load_extension", "random", "randomblob", "total_changes"]

/-- What may not stand in an expression of a definition. -/
def prohibitedPart? (es : List Expr) (allowsChanging : Bool) : Option String :=
  let holds := fun test => anyPartOf test es
  if holds fun | .subquery .. => true | _ => false then some "subqueries"
  else if holds fun | .parameter _ => true | _ => false then some "parameters"
  else if !allowsChanging && holds fun
    | .call function .. => hasName changingFunctions function
    | _ => false then some "non-deterministic functions"
  else none

/-- Settles expressions of a definition, to find what is wrong with them. -/
def checkDefinition (c : Context) (schema : String) (t : StoredTable) (place : String)
    (allowsChanging : Bool) (es : List Expr) : Except Fault Unit := do
  if let some part := prohibitedPart? es allowsChanging then
    throw (.store (.prohibited part place))
  let _ ← settleStrictly c [t.scope schema [t.name]] es

/-- Whether an expression hangs on nothing, so that it may be the initial value of a column. -/
def Expr.isInitial (e : Expr) : Bool :=
  !e.anyPart fun
    | .column n => !(Expr.column n).isConstant
    | .subquery .. | .parameter _ | .raised => true
    | _ => false

/-- A collation that has to be known. -/
def knownCollation (name : String) : Except Fault Unit :=
  if (Collation.ofName? name).isSome then .ok () else .error (.unknownCollation name)

/-! ## Names -/

/-- Whether a name is kept for the database. -/
def isReserved (name : String) : Bool :=
  "sqlite_".toList.isPrefixOf (name.toList.map Char.toLower)

/-- A name as it is written at the beginning of a text. -/
def writtenName (text : String) : String :=
  ((tokens text.toList).head?.map Token.text).getD ""

/-- The schema in which a table or a view is made; none if it is there already and may be. -/
def Store.makingIn (s : Store) (isTemporary ifAbsent : Bool) (n : ObjectName) (written : String) :
    Except Fault (Option Schema) := do
  let named ← s.targetSchema n.schema
  if isTemporary && n.schema.isSome && named.name ≠ "temp" then
    throw (.store .qualifiedTemporary)
  let schema ← if isTemporary then s.targetSchema (some "temp") else pure named
  if isReserved n.name then throw (.store (.reserved n.name))
  if let some known := schema.relation? n.name then
    if ifAbsent then return none
    throw (.store (.alreadyThere known.kind (writtenName written)))
  if (schema.index? n.name).isSome then throw (.store (.taken .index n.name))
  return some schema

/-! ## Tables -/

/-- A table that is being made, and its indexes. -/
structure TableDraft where
  table : StoredTable
  hasKey : Bool := false
  indexes : List StoredIndex := []

namespace TableDraft

/-- Adds the index of a rule, unless there is one for the same columns. -/
def addIndex (d : TableDraft) (keys : List Term) (isKey : Bool) (conflict : Option Conflict) :
    Except Fault TableDraft := do
  let places := keys.map fun key => (d.table.keyOrder key).map fun (place, order) =>
    (place, order.collation)
  let isSame := fun (i : StoredIndex) => i.keys.map (fun key =>
    (d.table.keyOrder key).map fun (place, order) => (place, order.collation)) == places
  let origin := if isKey then IndexOrigin.primaryKey else .unique
  if let some known := d.indexes.find? isSame then
    if known.conflict.isSome && conflict.isSome && known.conflict ≠ conflict then
      throw (.store .unlikeConflicts)
    let more := fun (i : StoredIndex) =>
      { i with origin := if isKey then origin else i.origin
               conflict := i.conflict.or conflict }
    return { d with indexes := d.indexes.map fun i => if isSame i then more i else i }
  else
    let number := toString (d.indexes.length + 1)
    let own : StoredIndex :=
      { name := "sqlite_autoindex_" ++ d.table.name ++ "_" ++ number
        table := d.table.name
        keys
        isUnique := true
        origin
        conflict
        page := some 0 }
    return { d with indexes := d.indexes ++ [own] }

/-- Changes a column. -/
def modifyColumn (d : TableDraft) (place : Nat) (f : StoredColumn → StoredColumn) : TableDraft :=
  { d with table := { d.table with columns := d.table.columns.modify place f } }

/-- Gives the columns at some places their places in the primary key. -/
def markKey (d : TableDraft) (places : List Nat) : TableDraft :=
  places.zipIdx.foldl (fun d (place, index) =>
    d.modifyColumn place fun column => { column with keyPlace := index + 1 })
    { d with hasKey := true }

/-- Adds the primary key. -/
def addKey (d : TableDraft) (keys : List Term) (descends : Bool) (conflict : Option Conflict)
    (counts : Bool) : Except Fault TableDraft := do
  if d.hasKey then throw (.store (.severalKeys d.table.name))
  let places := keys.filterMap fun key => (d.table.keyOrder key).map (·.1)
  let d := d.markKey places
  let isComputed := places.any fun place =>
    d.table.columns[place]?.any fun column => column.computed.isSome
  if isComputed then throw (.store .computedKey)
  match places with
  | [place] =>
    let type := (d.table.columns[place]?.map fun column => column.type).getD ""
    if keys.length = 1 && !descends && sameName type "INTEGER" then
      return { d with table := { d.table with
        numberPlace := some place, numberConflict := conflict.getD .abort, counts } }
  | _ => pure ()
  if counts then throw (.store .misplacedCounting)
  d.addIndex keys true conflict

/-- The key that a column is by itself. -/
def keyOf (name : String) (descending : Bool) : Term :=
  .mk (.column ⟨none, none, name, false⟩) descending !descending

/-- Adds a rule for a column. -/
def addColumnRule (d : TableDraft) (place : Nat) (name : String) :
    ColumnRule → Except Fault TableDraft
  | .primaryKey descending conflict counts => 
    d.addKey [keyOf name descending] descending conflict counts
  | .notNull conflict => .ok (d.modifyColumn place fun column =>
      { column with required := some (conflict.getD .abort) })
  | .unique conflict => d.addIndex [keyOf name false] false conflict
  | .check named condition written =>
    .ok { d with table := { d.table with
      checks := d.table.checks ++ [(named.getD written, condition)] } }
  | .default value written => do
    if !value.isInitial then throw (.store (.inconstantDefault name))
    if d.table.isComputed name then throw (.store .computedDefault)
    return d.modifyColumn place fun column => { column with initial := some (value, written) }
  | .collate collation => do
    knownCollation collation
    return d.modifyColumn place fun column => { column with collation }
  | .computed value how => do
    let isKept := how.any (sameName "stored")
    let own := d.table.columns[place]?
    if own.any fun column => column.initial.isSome || column.computed.isSome then
      throw (.store (.unknownComputing name))
    if own.any fun column => column.keyPlace ≠ 0 then throw (.store .computedKey)
    if !isKept && !how.all (sameName "virtual") then throw (.store (.unknownComputing name))
    return d.modifyColumn place fun column => { column with computed := some value, isKept }

/-- Adds a column. -/
def addColumn (d : TableDraft) (definition : ColumnDefinition) : Except Fault TableDraft := do
  if (d.table.place? definition.name).isSome then
    throw (.store (.duplicateColumn definition.name))
  let type := definition.type
  let own : StoredColumn :=
    { name := definition.name
      type
      affinity := if type.isEmpty then .blob else Affinity.ofType type }
  let place := d.table.columns.length
  let d := { d with table := { d.table with columns := d.table.columns ++ [own] } }
  definition.rules.foldlM (fun d rule => d.addColumnRule place definition.name rule) d

/-- The columns of a rule, which have to be there. -/
def checkKeys (d : TableDraft) (c : Context) (keys : List Term) : Except Fault Unit := do
  let _ ← settleStrictly c [d.table.scope "main" [d.table.name]]
    (keys.map fun | .mk key _ _ => key)
  for key in keys do
    if let .mk (.apply (.collate name) _) _ _ := key then knownCollation name
  if keys.any fun key => (d.table.keyOrder key).isNone then
    throw (.store (.prohibited "expressions" "PRIMARY KEY and UNIQUE constraints"))

/-- Adds a rule for rows. -/
def addTableRule (d : TableDraft) (c : Context) : TableRule → Except Fault TableDraft
  | .primaryKey keys conflict counts => do
    if d.hasKey then throw (.store (.severalKeys d.table.name))
    d.checkKeys c keys
    d.addKey keys false conflict counts
  | .unique keys conflict => do
    d.checkKeys c keys
    d.addIndex keys false conflict
  | .check named condition written =>
    .ok { d with table := { d.table with
      checks := d.table.checks ++ [(named.getD written, condition)] } }

/-- Makes the values of all columns be of their types. -/
def makeStrict (d : TableDraft) : Except Fault TableDraft := do
  let t := d.table
  for column in t.columns do
    let own := t.name ++ "." ++ column.name
    if column.type.isEmpty then throw (.store (.missingType own))
    if (strictTypes.find? fun (word, _) => sameName word column.type).isNone then
      throw (.store (.unknownType own column.type))
  let columns := t.columns.map fun column =>
    let isAny := sameName column.type "ANY"
    { column with
      affinity := if isAny then .blob else column.affinity
      required := if column.keyPlace ≠ 0 && t.numberPlace.isNone then
        some (column.required.getD .abort) else column.required }
  return { d with table := { t with columns, isStrict := true } }

/-- Takes the numbers of rows away. -/
def withoutNumbers (d : TableDraft) : Except Fault TableDraft := do
  let t := d.table
  if t.counts then throw (.store .countingWithoutNumbers)
  if !d.hasKey then throw (.store (.missingKey t.name))
  let columns := t.columns.map fun column =>
    if column.keyPlace ≠ 0 then { column with required := some (column.required.getD .abort) }
    else column
  let key := t.numberPlace.bind fun place => t.columns[place]?
  let conflict := t.numberConflict
  let d := { d with table := { t with columns, numberPlace := none, isNumbered := false } }
  let d ← match key with
    | some column => d.addIndex [keyOf column.name false] true (some conflict)
    | none => pure d
  return { d with indexes := d.indexes.map fun i =>
    if i.origin = .primaryKey then { i with page := none } else i }

/-- The table that is made from columns and rules. -/
def ofContent (c : Context) (schema name : String) (columns : List ColumnDefinition)
    (rules : List TableRule) (options : List String) (written : String) :
    Except Fault TableDraft := do
  let empty : TableDraft := { table := { name, columns := [], written, page := 0 } }
  let d ← columns.foldlM addColumn empty
  let d ← rules.foldlM (fun d rule => d.addTableRule c rule) d
  let d ← if options.contains "STRICT" then d.makeStrict else pure d
  let d ← if options.contains "WITHOUT ROWID" then d.withoutNumbers else pure d
  if d.table.columns.all fun column => column.computed.isSome then
    throw (.store .allComputed)
  checkDefinition c schema d.table "generated columns" false
    (d.table.columns.filterMap fun column => column.computed)
  checkDefinition c schema d.table "CHECK constraints" true (d.table.checks.map (·.2))
  d.table.checkCircles false
  return d

/-- Adds a table with its indexes to a schema. -/
def addTo (d : TableDraft) (schema : Schema) : Schema :=
  let schema := schema.add fun page => .table { d.table with page }
  let schema := d.indexes.foldl (fun (schema : Schema) i =>
    match i.page with
    | none => { schema with objects := schema.objects ++ [.index i] }
    | some _ => schema.add fun page => .index { i with page := some page }) schema
  if d.table.counts && (schema.relation? sequenceName).isNone then
    schema.add fun page => .table
      { name := sequenceName
        columns := [{ name := "name", affinity := .blob }, { name := "seq", affinity := .blob }]
        written := "CREATE TABLE sqlite_sequence(name,seq)"
        page }
  else schema

end TableDraft

/-- The type of a column that is made of values with an affinity. -/
def Affinity.typeName : Affinity → String
  | .none | .blob => ""
  | .text => "TEXT"
  | .numeric => "NUM"
  | .integer => "INT"
  | .real => "REAL"

/-- The statement that makes a table of some columns, which are written below each other if they
are long. -/
def writtenTable (name : String) (columns : List (String × String)) : String :=
  let lengthOf := fun (name : String) =>
    name.utf8ByteSize + (name.toList.filter (· == '"')).length + 2
  let length := columns.foldl (fun n (column, _) => n + lengthOf column + 5) (lengthOf name)
  let (first, between, last) := if length < 50 then ("", ",", ")") else ("\n  ", ",\n  ", "\n)")
  let texts := columns.map fun (column, type) =>
    quotedIfNeeded column ++ if type.isEmpty then "" else " " ++ type
  "CREATE TABLE " ++ quotedIfNeeded name ++ "(" ++ first ++ between.intercalate texts ++ last

/-- A store with one more change of what it is made of. -/
def Store.remade (s : Store) (schema : String) (f : Schema → Schema) : Store :=
  s.modify schema fun known =>
    let known := f known
    let version := ((known.settings.lookup "schema_version").map Value.asInteger).getD 0
    { known with settings :=
        ("schema_version", .integer (version + 1)) ::
          known.settings.filter fun (name, _) => name != "schema_version" }

/-- Plans the making of a table. -/
def planTable (s : Store) (c : Context) (isTemporary ifAbsent : Bool) (n : ObjectName)
    (content : TableContent) (written : String) : Except Fault Plan := do
  match ← s.makingIn isTemporary ifAbsent n written with
  | none => return fun _ => return { store := s }
  | some schema =>
    match content with
    | .columns columns rules options =>
      let d ← TableDraft.ofContent c schema.name n.name columns rules options
        ("CREATE TABLE " ++ written)
      return fun _ => return { store := s.remade schema.name d.addTo }
    | .query query =>
      let heading ← query.heading c.tables
      let relation ← prepare c query
      let names := uniqueNames [] heading
      let columns := (names.zip relation.columns).map fun (name, column) =>
        let type := column.affinity.typeName
        { name, type, affinity := if type.isEmpty then .blob else column.affinity
          : StoredColumn }
      let t : StoredTable :=
        { name := n.name
          columns
          written := writtenTable n.name (columns.map fun column => (column.name, column.type))
          page := 0 }
      return fun _ => do
        let rows := (← storedRows (relation.rows [])).zipIdx.map fun (values, index) =>
          ⟨Int64.ofNat (index + 1), t.formed values⟩
        return { store := s.remade schema.name (TableDraft.mk { t with rows } false []).addTo }

/-! ## Views and indexes -/

/-- Plans the making of a view. -/
def planView (s : Store) (isTemporary ifAbsent : Bool) (n : ObjectName) (columns : List String)
    (query : Select) (written : String) (hasParameters : Bool) : Except Fault Plan := do
  if hasParameters then throw (.store .parametersInView)
  match ← s.makingIn isTemporary ifAbsent n written with
  | none => return fun _ => return { store := s }
  | some schema =>
    let view : StoredView := { name := n.name, columns, query, written := "CREATE VIEW " ++ written }
    let add := fun (known : Schema) => { known with objects := known.objects ++ [.view view] }
    return fun _ => return { store := s.remade schema.name add }

/-- The table of an index that is made, in its schema. -/
def Store.indexedTable (s : Store) (n : ObjectName) (table : String) :
    Except Fault ChangedTable := do
  let named ← s.targetSchema n.schema
  let temporary := (s.schema? "temp").bind fun schema =>
    (schema.relation? table).map fun o => (schema, o)
  let inMain := (named.relation? table).map fun o => (named, o)
  let found := if n.schema.isNone then temporary.orElse fun _ => inMain else inMain
  match found with
  | some (schema, .table t) =>
    if isReserved t.name then throw (.store (.untouchable t.name .indexed))
    return ⟨schema, t⟩
  | some _ => throw (.store .indexedView)
  | none =>
    if named.masterNames.any (sameName table) then
      throw (.store (.untouchable (named.masterNames.headD "") .indexed))
    if named.name = "temp" then throw (.store (.temporaryIndex table))
    throw (.unknownTable (named.name ++ "." ++ table))

/-- Plans the making of an index. -/
def planIndex (s : Store) (c : Context) (isUnique ifAbsent : Bool) (n : ObjectName)
    (table : String) (keys : List Term) (condition : List Expr) (written : String) :
    Except Fault Plan := do
  let ⟨schema, t⟩ ← s.indexedTable n table
  if isReserved n.name then throw (.store (.reserved n.name))
  if (schema.relation? n.name).isSome then throw (.store (.taken .table n.name))
  if (schema.index? n.name).isSome then
    if ifAbsent then return fun _ => return { store := s }
    throw (.store (.alreadyThere .index n.name))
  checkDefinition c schema.name t "partial index WHERE clauses" false condition
  checkDefinition c schema.name t "index expressions" false (keys.map fun | .mk key _ _ => key)
  for key in keys do
    if let .mk (.apply (.collate name) _) _ _ := key then knownCollation name
  let index : StoredIndex :=
    { name := n.name, table := t.name, keys, condition, isUnique, origin := .created
      written := (if isUnique then "CREATE UNIQUE INDEX " else "CREATE INDEX ") ++ written
      page := some 0 }
  let rule ← uniqueRule c schema.name t index
  return fun _ => do
    if isUnique then
      let _ ← t.rows.foldlM (fun known row => do
        match ← rule.obstacle? t known (t.frame row.number row.values) with
        | some _ => throw (.store rule.fault)
        | none => return row :: known) []
    let make := fun page => StoredObject.index { index with page := some page }
    return { store := s.remade schema.name fun known => known.add make }

/-! ## Dropping -/

/-- Whether a table may be dropped. -/
def mayBeDropped (name : String) : Bool :=
  !isReserved name ||
    "sqlite_stat".toList.isPrefixOf (name.toList.map Char.toLower)

/-- A schema without a table or a view. -/
def Schema.without (s : Schema) (name : String) : Schema :=
  let s := s.remove fun o => sameName o.name name && o.kind ≠ .index || o.isIndexOf name
  match s.tables.find? fun t => t.name == sequenceName with
  | none => s
  | some t => s.putTable { t with
      rows := t.rows.filter (fun row => row.values.head? ≠ some (.text name)) }

/-- Plans a dropping. -/
def planDrop (s : Store) (c : Context) (kind : ObjectKind) (ifExists : Bool) (n : ObjectName) :
    Except Fault Plan := do
  let nothing : Plan := fun _ => return { store := s }
  let missing : Except Fault Plan := if ifExists then .ok nothing
    else if kind = .table then .error (.unknownTable n.text)
    else .error (.store (.missing kind n.text))
  match kind with
  | .trigger => missing
  | .index =>
    match s.findIn? n Schema.index? with
    | none => missing
    | some (schema, i) =>
      if i.origin ≠ .created then throw (.store .indexOfRule)
      let isMeant := fun (o : StoredObject) => o.kind = .index && sameName o.name i.name
      return fun _ => return { store := s.remade schema.name fun known => known.remove isMeant }
  | kind =>
    match s.findIn? n Schema.relation? with
    | some (schema, o) =>
      if !mayBeDropped o.name then throw (.store (.untouchable o.name .dropped))
      if o.kind ≠ kind then throw (.store (.wrongDrop o.kind o.name))
      return fun _ => return { store := s.remade schema.name fun known => known.without o.name }
    | none =>
      match c.tables.catalog.find? fun t => t.isNamed n.schema n.name with
      | some t => throw (.store (.untouchable t.ownName .dropped))
      | none => missing

end Sql
end ReportQuery
