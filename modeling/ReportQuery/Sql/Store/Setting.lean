/-
# Settings

What `PRAGMA` tells of a store and its connection, and changes in them.  A setting has a value,
which is read from a number or a word; some settings answer when they are changed, and others say
nothing then.  Besides, there are reports on what is stored.

| settings | last as long as |
| --- | --- |
| `user_version`, `application_id` and their like | the schema, and are undone with a transaction |
| all others | the connection |

Most settings and reports are also tables, named with `pragma_` in front, whose hidden columns are
the argument and the schema.  What is not known is passed over.
-/

import ReportQuery.Sql.Store.Definition

namespace ReportQuery
namespace Sql

/-! ## Reading values -/

/-- The number of 32 bits that a text begins with; 0 if it is larger. -/
def shortNumber (text : String) : Int :=
  match text.toList with
  | '0' :: x :: digits =>
    if x == 'x' || x == 'X' then
      let digits := (digits.dropWhile (· == '0')).takeWhile isHexDigit
      let n := digits.foldl (fun n c => 16 * n + (Text.hexValue? c).getD 0) 0
      if 8 < digits.length ∨ 2147483647 < n then 0 else n
    else decimal ('0' :: x :: digits)
  | cs => decimal cs
where
  /-- A number in decimal digits. -/
  decimal (cs : List Char) : Int :=
    let (negative, cs) := Decimal.takeSign cs
    let n : Int := Decimal.ofDigits (cs.takeWhile Char.isDigit)
    let n := if negative then -n else n
    if -2147483648 ≤ n ∧ n ≤ 2147483647 then n else 0

/-- The whole number that a text is, all of it. -/
def wholeText? (text : String) : Option Int :=
  let n := LeadingNumber.read text.toList
  if n.isComplete && !n.isReal && fits n.whole then some n.whole else none

/-- Words for levels. -/
def levelWords : List (String × Int) :=
  [("on", 1), ("no", 0), ("off", 0), ("false", 0), ("yes", 1), ("true", 1), ("extra", 3),
    ("full", 2)]

/-- The level that a number or a word stands for; `other` for any other word. -/
def levelOf (other : Int) (text : String) : Int :=
  if text.toList.head?.any Char.isDigit then shortNumber text % 256
  else ((levelWords.find? fun (word, _) => sameName word text).map (·.2)).getD other

/-- Whether a value says that something is on. -/
def isOn (other : Bool) (text : String) : Bool :=
  if text.toList.head?.any Char.isDigit then levelOf 0 text ≠ 0
  else match levelWords.find? fun (word, n) => n ≤ 1 && sameName word text with
    | some (_, n) => n ≠ 0
    | none => other

/-- A whole number as a value. -/
def whole (n : Int) : Value := .integer (Int64.ofInt n)

/-! ## Settings -/

/-- How long a setting lasts. -/
inductive Lifetime where
  /-- As long as its schema, and only until the transaction is undone. -/
  | stored
  /-- As long as the connection, for one schema. -/
  | attached
  /-- As long as the connection. -/
  | connected
deriving DecidableEq, Repr

/-- A setting: its value in the beginning, and how it reads another one. -/
structure Setting where
  name : String
  /-- The column of its value, if that has another name. -/
  column : Option String := none
  initial : Value
  read : String → Option Value
  lifetime : Lifetime := .connected
  /-- Whether it tells its value when that is changed. -/
  answers : Bool := false
  /-- Whether it is a table, too. -/
  isTable : Bool := true

/-- Settings that are on or off. -/
def flags : List Setting :=
  [("automatic_index", 1), ("cell_size_check", 0), ("checkpoint_fullfsync", 0),
    ("count_changes", 0), ("defer_foreign_keys", 0), ("empty_result_callbacks", 0),
    ("foreign_keys", 1), ("full_column_names", 0), ("fullfsync", 0),
    ("ignore_check_constraints", 0), ("legacy_alter_table", 0), ("query_only", 0),
    ("read_uncommitted", 0), ("recursive_triggers", 0), ("reverse_unordered_selects", 0),
    ("short_column_names", 1), ("trusted_schema", 1), ("writable_schema", 0)].map
      fun (name, initial) =>
        { name, initial := whole initial, read := fun text => some (.ofTruth (isOn false text)) }

/-- A word as the value of a setting that knows it. -/
def oneOf (words : List String) (text : String) : Option Value :=
  (words.find? (sameName text)).map .text

/-- The sizes of pages. -/
def pageSizes : List Int := [512, 1024, 2048, 4096, 8192, 16384, 32768, 65536]

/-- Settings with values of their own. -/
def valued : List Setting :=
  [{ name := "analysis_limit", initial := whole 0, answers := true
     read := fun text => (wholeText? text).bind fun n =>
       if n < 0 then none else some (whole (n % 2147483648)) },
    { name := "application_id", initial := whole 0, lifetime := .stored
      read := fun text => some (whole (shortNumber text)) },
    { name := "auto_vacuum", initial := whole 0, lifetime := .attached
      read := fun text =>
        let n := if sameName text "none" then 0 else if sameName text "full" then 1
          else if sameName text "incremental" then 2 else shortNumber text
        some (whole (if 0 ≤ n ∧ n ≤ 2 then n else 0)) },
    { name := "busy_timeout", column := some "timeout", initial := whole 5000, answers := true
      read := fun text => some (whole (max 0 (shortNumber text))) },
    { name := "cache_size", initial := whole (-2000), lifetime := .attached
      read := fun text => some (whole (shortNumber text)) },
    { name := "default_cache_size", column := some "cache_size", initial := whole (-2000)
      lifetime := .stored
      read := fun text =>
        let n := (shortNumber text).natAbs
        some (whole (if n = 0 then -2000 else n)) },
    { name := "encoding", initial := .text "UTF-8"
      read := fun text =>
        if sameName text "utf8" || sameName text "utf-8" then some (.text "UTF-8")
        else if sameName text "utf16be" || sameName text "utf-16be" then some (.text "UTF-16be")
        else if ["utf16", "utf-16", "utf16le", "utf-16le"].any (sameName text) then
          some (.text "UTF-16le")
        else none },
    { name := "hard_heap_limit", initial := whole 0, answers := true
      read := fun text => (wholeText? text).bind fun n => if 0 < n then some (whole n) else none },
    { name := "journal_mode", initial := .text "memory", lifetime := .attached, answers := true
      read := oneOf ["off", "memory"] },
    { name := "journal_size_limit", initial := whole (-1), lifetime := .attached, answers := true
      read := fun text => some (whole (max (-1) (LeadingNumber.read text.toList).whole)) },
    { name := "locking_mode", initial := .text "normal", answers := true
      read := oneOf ["normal", "exclusive"] },
    { name := "max_page_count", initial := whole 4294967294, lifetime := .attached
      answers := true
      read := fun text => (wholeText? text).bind fun n =>
        if 0 < n then some (whole (min n 4294967294)) else none },
    { name := "page_size", initial := whole 4096, lifetime := .attached
      read := fun text =>
        let n := shortNumber text
        if pageSizes.contains n then some (whole n) else none },
    { name := "schema_version", initial := whole 0, lifetime := .stored
      read := fun text => some (whole (shortNumber text)) },
    { name := "secure_delete", initial := whole 0, answers := true
      read := fun text =>
        some (if sameName text "fast" then whole 2 else .ofTruth (isOn false text)) },
    { name := "soft_heap_limit", initial := whole 0, answers := true
      read := fun text => (wholeText? text).bind fun n => if 0 ≤ n then some (whole n) else none },
    { name := "synchronous", initial := whole 2, lifetime := .attached
      read := fun text =>
        let n := (levelOf 1 text + 1) % 8
        some (whole (if n = 0 then 0 else n - 1)) },
    { name := "temp_store", initial := whole 0
      read := fun text => some (whole (match text.toList.head? with
        | some '0' => 0
        | some '1' => 1
        | some '2' => 2
        | _ => if sameName text "file" then 1 else if sameName text "memory" then 2 else 0)) },
    { name := "threads", initial := whole 0, answers := true
      read := fun text => (wholeText? text).bind fun n =>
        if n < 0 then none else some (whole (min 8 (n % 2147483648))) },
    { name := "user_version", initial := whole 0, lifetime := .stored
      read := fun text => some (whole (shortNumber text)) },
    { name := "wal_autocheckpoint", initial := whole 1000, answers := true, isTable := false
      read := fun text => some (whole (max 0 (shortNumber text))) }]

/-- All settings. -/
def allSettings : List Setting := flags ++ valued

/-- The names of all that `PRAGMA` knows, in alphabetical order. -/
def pragmaNames : List String :=
  ["analysis_limit", "application_id", "auto_vacuum", "automatic_index", "busy_timeout",
    "cache_size", "cache_spill", "case_sensitive_like", "cell_size_check",
    "checkpoint_fullfsync", "collation_list", "compile_options", "count_changes", "data_version",
    "database_list", "default_cache_size", "defer_foreign_keys", "empty_result_callbacks",
    "encoding", "foreign_key_check", "foreign_key_list", "foreign_keys", "freelist_count",
    "full_column_names", "fullfsync", "function_list", "hard_heap_limit",
    "ignore_check_constraints", "incremental_vacuum", "index_info", "index_list", "index_xinfo",
    "integrity_check", "journal_mode", "journal_size_limit", "legacy_alter_table",
    "locking_mode", "max_page_count", "mmap_size", "module_list", "optimize", "page_count",
    "page_size", "pragma_list", "query_only", "quick_check", "read_uncommitted",
    "recursive_triggers", "reverse_unordered_selects", "schema_version", "secure_delete",
    "short_column_names", "shrink_memory", "soft_heap_limit", "synchronous", "table_info",
    "table_list", "table_xinfo", "temp_store", "temp_store_directory", "threads",
    "trusted_schema", "user_version", "wal_autocheckpoint", "wal_checkpoint", "writable_schema"]

namespace Store

/-- The value of a setting of a schema. -/
def setting (s : Store) (schema : Schema) (p : Setting) : Value :=
  let isTemporary := schema.name = "temp"
  let known := match p.lifetime with
    | .stored => schema.settings.lookup p.name
    | .attached => s.settings.lookup (schema.name ++ "." ++ p.name)
    | .connected => s.settings.lookup p.name
  match known with
  | some v => v
  | none =>
    if isTemporary && p.name = "synchronous" then whole 0
    else if isTemporary && p.name = "journal_mode" then .text "delete"
    else p.initial

/-- Gives a setting of a schema a value. -/
def set (s : Store) (schema : Schema) (p : Setting) (v : Value) : Store :=
  let putIn := fun (name : String) (known : List (String × Value)) =>
    (name, v) :: known.filter fun other => other.1 != name
  match p.lifetime with
  | .stored => s.modify schema.name fun schema =>
    { schema with pages := max schema.pages 1, settings := putIn p.name schema.settings }
  | .attached => { s with settings := putIn (schema.name ++ "." ++ p.name) s.settings }
  | .connected => { s with settings := putIn p.name s.settings }

/-- Whether a setting cannot be changed any more. -/
def isFixed (s : Store) (schema : Schema) (name : String) : Bool :=
  match name with
  | "foreign_keys" => s.transaction.isSome
  | "page_size" | "auto_vacuum" | "encoding" => schema.pages ≠ 0
  | "synchronous" => schema.name = "temp"
  | _ => false

end Store

/-! ## Reports -/

/-- A report: the names of its columns, and its rows for an argument and a schema. -/
structure Report where
  name : String
  columns : List String
  /-- Whether it takes an argument. -/
  takesArgument : Bool := false
  /-- Whether it takes a schema. -/
  takesSchema : Bool := false
  isTable : Bool := true
  rows : Store → Catalog → Option String → Option String → Except Fault (List (List Value))

/-- A number of things as a value. -/
def counted (n : Nat) : Value := .integer (Int64.ofNat n)

/-- The columns of a table as they are reported, with what is hidden of them. -/
def columnRows (columns : List StoredColumn) (hidden : List TableColumn) : List (List Value) :=
  let own := columns.zipIdx.map fun (column, place) =>
    [counted place, .text column.name, .text column.type, .ofTruth column.required.isSome,
      (column.initial.map fun (_, written) => .text written).getD .null,
      counted column.keyPlace, counted column.hiding]
  own ++ hidden.zipIdx.map fun (column, index) =>
    [counted (columns.length + index), .text column.name, .text "", whole 0, .null, whole 0,
      whole 1]

/-- What is reported of the columns of a table or a view. -/
def tableRows (withHidden : Bool) (s : Store) (catalog : Catalog) (argument schema : Option String) :
    Except Fault (List (List Value)) := do
  match argument with
  | none => return []
  | some name =>
    let rows ← match s.findIn? ⟨schema, name⟩ Schema.relation? with
      | some (_, .table t) => pure (columnRows t.columns [])
      | _ =>
        match catalog.find? fun t => t.isNamed schema name with
        | none => pure []
        | some t =>
          if let some fault := t.fault then throw fault
          let isMaster := t.names.any fun name => (s.schemas.flatMap Schema.masterNames).contains name
          let columns := if isMaster then Schema.masterColumns
            else t.columns.map fun column =>
              { toTableColumn := column, type := column.affinity.typeName }
          pure (columnRows columns t.hidden)
    let shown := if withHidden then rows
      else (rows.filter fun row => row.getLast? = some (whole 0)).map List.dropLast
    return shown.zipIdx.map fun (row, place) =>
      if withHidden then row else row.set 0 (counted place)

/-- The keys of an index as they are reported. -/
def keyRows (isFull : Bool) (s : Store) (_ : Catalog) (argument schema : Option String) :
    Except Fault (List (List Value)) := do
  let found := argument.bind fun name => s.findIn? ⟨schema, name⟩ Schema.index?
  match found with
  | none => return []
  | some (schema, i) =>
    match schema.tables.find? fun t => sameName t.name i.table with
    | none => return []
    | some t =>
      let own := i.keys.map fun key =>
        let place := (t.keyOrder key).map (·.1)
        let column := place.bind fun place => t.columns[place]?
        let (collation, descending) := match key with
          | .mk (.apply (.collate name) _) descending _ => (name, descending)
          | .mk _ descending _ =>
            ((column.map fun (c : StoredColumn) => c.collation).getD "BINARY", descending)
        ([(place.map counted).getD (whole (-2)),
          (column.map fun (c : StoredColumn) => Value.text c.name).getD .null],
          [Value.ofTruth descending, .text collation, whole 1])
      let number := ([whole (-1), Value.null], [whole 0, Value.text "BINARY", whole 0])
      let all := if isFull && t.isNumbered then own ++ [number] else own
      return all.zipIdx.map fun ((place, more), index) =>
        counted index :: place ++ if isFull then more else []

/-- The indexes of a table as they are reported, the last one first. -/
def indexRows (s : Store) (_ : Catalog) (argument schema : Option String) :
    Except Fault (List (List Value)) := do
  match argument.bind fun name => s.findIn? ⟨schema, name⟩ Schema.relation? with
  | none => return []
  | some (schema, o) =>
    return (schema.indexesInTurn o.name).zipIdx.map fun (i, index) =>
      let origin := match i.origin with
        | .created => "c"
        | .unique => "u"
        | .primaryKey => "pk"
      [counted index, .text i.name, .ofTruth i.isUnique, .text origin,
        .ofTruth !i.condition.isEmpty]

/-- The tables and views of all schemas, the last one first. -/
def relationRows (s : Store) (catalog : Catalog) (argument _ : Option String) :
    Except Fault (List (List Value)) := do
  let rows := s.schemas.flatMap fun schema =>
    let own := (schema.objects.filter fun o => o.kind ≠ .index).reverse.map fun o =>
      let width := match o.table? with
        | some t => t.columns.length
        | none => ((catalog.find? fun t => t.isNamed (some schema.name) o.name).map fun t =>
            t.columns.length).getD 0
      [.text schema.name, .text o.name, .text o.kind.word, counted width,
        .ofTruth (o.table?.any fun t => !t.isNumbered),
        .ofTruth (o.table?.any fun t => t.isStrict)]
    own ++ [[.text schema.name, .text ((schema.masterNames.drop 1).headD ""), .text "table",
      whole 5, whole 0, whole 0]]
  return rows.filter fun row => argument.all fun name =>
    row[1]?.any fun v => sameName (String.ofList v.chars) name

/-- A table that has to be there if an argument names it. -/
def namedTable (s : Store) (argument : Option String) : Except Fault Unit :=
  match argument with
  | none => .ok ()
  | some name =>
    if (s.findIn? ⟨none, name⟩ Schema.relation?).isSome ||
        (s.schemas.flatMap Schema.masterNames).any (sameName name) then .ok ()
    else .error (.unknownTable name)

/-- That nothing is wrong with what is stored. -/
def soundRows (s : Store) (_ : Catalog) (argument _ : Option String) :
    Except Fault (List (List Value)) := do
  let isCount := argument.any fun text => (LeadingNumber.read text.toList).isComplete
  if !isCount then namedTable s argument
  return [[.text "ok"]]

/-- How many pages of the usual size a cache has. -/
def cachePages (size : Int) : Int := if size < 0 then -1024 * size / 4240 else size

/-- The size from which on a cache is written out, which a setting keeps. -/
def spillRows (s : Store) (schema : Option String) : List (List Value) :=
  let of := fun name => (s.settings.lookup name).map fun v => v.asInteger.toInt
  let size := (of (schema.getD "main" ++ ".cache_size")).getD (-2000)
  let spill := max (cachePages size) ((of "spill").getD 1)
  [[whole (if of "spills" = some 0 then 0 else spill)]]

/-- All reports. -/
def reports : List Report :=
  [{ name := "cache_spill", columns := ["cache_spill"], takesSchema := true
     rows := fun s _ _ schema => .ok (spillRows s schema) },
    { name := "collation_list", columns := ["seq", "name"]
      rows := fun _ _ _ _ => .ok [[whole 0, .text "RTRIM"], [whole 1, .text "NOCASE"],
        [whole 2, .text "BINARY"]] },
    { name := "data_version", columns := ["data_version"]
      rows := fun _ _ _ _ => .ok [[whole 1]] },
    { name := "database_list", columns := ["seq", "name", "file"]
      rows := fun s _ _ _ => .ok ((s.schemas.zipIdx.filter fun (schema, index) =>
        index ≠ 1 || !schema.objects.isEmpty).map fun (schema, index) =>
          [counted index, .text schema.name, .text ""]) },
    { name := "foreign_key_check", columns := ["table", "rowid", "parent", "fkid"]
      takesArgument := true, takesSchema := true
      rows := fun s _ argument _ => do
        namedTable s argument
        return [] },
    { name := "foreign_key_list"
      columns := ["id", "seq", "table", "from", "to", "on_update", "on_delete", "match"]
      takesArgument := true, takesSchema := true
      rows := fun _ _ _ _ => .ok [] },
    { name := "freelist_count", columns := ["freelist_count"]
      rows := fun s _ _ schema => .ok [[counted
        (((s.schema? (schema.getD "main")).map fun schema => schema.freePages.length).getD 0)]] },
    { name := "index_info", columns := ["seqno", "cid", "name"], takesArgument := true
      takesSchema := true, rows := keyRows false },
    { name := "index_list", columns := ["seq", "name", "unique", "origin", "partial"]
      takesArgument := true, takesSchema := true, rows := indexRows },
    { name := "index_xinfo", columns := ["seqno", "cid", "name", "desc", "coll", "key"]
      takesArgument := true, takesSchema := true, rows := keyRows true },
    { name := "integrity_check", columns := ["integrity_check"], takesArgument := true
      takesSchema := true, rows := soundRows },
    { name := "mmap_size", columns := ["mmap_size"], isTable := false
      rows := fun _ _ _ _ => .ok [] },
    { name := "optimize", columns := ["optimize"], takesArgument := true
      rows := fun _ _ _ _ => .ok [] },
    { name := "page_count", columns := ["page_count"], takesSchema := true
      rows := fun s _ _ schema => .ok [[counted
        (((s.schema? (schema.getD "main")).map fun schema => schema.pages).getD 0)]] },
    { name := "pragma_list", columns := ["name"]
      rows := fun _ _ _ _ => .ok (pragmaNames.map fun name => [.text name]) },
    { name := "quick_check", columns := ["quick_check"], takesArgument := true
      takesSchema := true, rows := soundRows },
    { name := "table_info", columns := ["cid", "name", "type", "notnull", "dflt_value", "pk"]
      takesArgument := true, takesSchema := true, rows := tableRows false },
    { name := "table_list", columns := ["schema", "name", "type", "ncol", "wr", "strict"]
      takesArgument := true, rows := relationRows },
    { name := "table_xinfo"
      columns := ["cid", "name", "type", "notnull", "dflt_value", "pk", "hidden"]
      takesArgument := true, takesSchema := true, rows := tableRows true },
    { name := "wal_checkpoint", columns := ["busy", "log", "checkpointed"], isTable := false
      rows := fun _ _ _ _ => .ok [[whole 0, whole (-1), whole (-1)]] }]

/-! ## Tables of settings and reports -/

/-- A setting as a report. -/
def Setting.report (p : Setting) : Report where
  name := p.name
  columns := [p.column.getD p.name]
  takesSchema := p.lifetime = .attached || p.name = "default_cache_size"
  isTable := p.isTable
  rows := fun s _ _ schema =>
    .ok (((s.schema? (schema.getD "main")).map fun schema => [[s.setting schema p]]).getD [])

/-- The text of an argument. -/
def argumentText (v : Value) : Option String :=
  if v = .null then none else some (String.ofList v.chars)

/-- A report as a table, whose arguments are hidden columns. -/
def Report.table (r : Report) (s : Store) (catalog : Catalog) : Table where
  schema := "main"
  names := ["pragma_" ++ r.name]
  columns := r.columns.map fun name => { name }
  hidden := ((if r.takesArgument then ["arg"] else []) ++
    if r.takesSchema then ["schema"] else []).map fun name => { name }
  isCalled := true
  rows := fun arguments => do
    let argument := if r.takesArgument then (arguments.head?.bind argumentText) else none
    let schema := if r.takesSchema then
      ((arguments.drop (if r.takesArgument then 1 else 0)).head?.bind argumentText) else none
    if let some name := schema then
      if (s.schema? name).isNone then throw (.store (.unknownSchema name))
    let given := (if r.takesArgument then [argument] else []) ++
      if r.takesSchema then [schema] else []
    let rows ← r.rows s catalog argument schema
    return rows.zipIdx.map fun (row, index) =>
      row ++ given.map (fun text => (text.map .text).getD .null) ++ [counted (index + 1)]

/-- The tables of settings and reports. -/
def Store.reportTables (s : Store) (catalog : Catalog) : Catalog :=
  ((allSettings.map Setting.report ++ reports).filter Report.isTable).map fun r => r.table s catalog

/-! ## Statements -/

/-- What is told of a setting. -/
def Setting.answer (p : Setting) (s : Store) (schema : Schema) : Answer where
  columns := [p.column.getD p.name]
  rows := [.ok [s.setting schema p]]
  store := s

/-- Changes a setting. -/
def Setting.change (p : Setting) (s : Store) (schema : Schema) (text : String) :
    Except Fault Answer := do
  if p.name = "encoding" && (p.read text).isNone then throw (.store (.unknownEncoding text))
  let s ← if p.name = "synchronous" && s.transaction.isSome && schema.name ≠ "temp" then
      throw (.store .levelInside)
    else if s.isFixed schema p.name then pure s
    else pure ((p.read text).elim s (s.set schema p))
  let s := if p.name = "default_cache_size" then
      (allSettings.find? fun other => other.name == "cache_size").elim s fun other =>
        s.set schema other (s.setting schema p)
    else s
  return if p.answers then p.answer s schema else { store := s }

/-- Changes the size from which on a cache is written out. -/
def Store.setSpill (s : Store) (text : String) : Store :=
  let size? := if (LeadingNumber.read text.toList).isComplete then some (shortNumber text) else none
  let spills := isOn (size?.getD 1 ≠ 0) text
  let settings := s.settings.filter fun (name, _) => name != "spills" && (size?.isNone || name != "spill")
  { s with settings := ("spills", .ofTruth spills) ::
      (size?.map fun n => ("spill", whole n)).toList ++ settings }

/-- Plans a `PRAGMA`. -/
def planPragma (s : Store) (c : Context) (n : ObjectName) (value : Option String) :
    Except Fault Plan := do
  let schema ← s.targetSchema n.schema
  match allSettings.find? fun p => sameName p.name n.name with
  | some p =>
    return fun _ => match value with
      | none => .ok (p.answer s schema)
      | some text => p.change s schema text
  | none =>
    if sameName n.name "cache_spill" then
      if let some text := value then return fun _ => return { store := s.setSpill text }
    match reports.find? fun r => sameName r.name n.name with
    | none => return fun _ => return { store := s }
    | some r =>
      let rows ← r.rows s c.tables.catalog value (n.schema.map fun _ => schema.name)
      return fun _ => return { columns := r.columns, rows := rows.map .ok, store := s }

end Sql
end ReportQuery
