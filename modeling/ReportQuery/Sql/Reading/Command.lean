/-
# Reading commands

A statement begins with a word that tells what it does.
-/

import ReportQuery.Sql.Command
import ReportQuery.Sql.Reading.Query

namespace ReportQuery
namespace Sql

open Reader

/-! ## Pieces -/

/-- A name with a schema in front of it, if there is one. -/
def objectName : Reader ObjectName := do
  let first ← name
  if ← acceptSymbol "." then return ⟨some first, ← name⟩
  return ⟨none, first⟩

/-- Takes words that stand one behind the other, if the first one is next. -/
def acceptWords (first : String) (more : List String) : Reader Bool := do
  if ← acceptWord first then
    more.forM expectWord
    return true
  return false

/-- What is done about a row that breaks a rule. -/
def conflict : Reader Conflict := do
  if ← acceptWord "ROLLBACK" then return .rollback
  if ← acceptWord "ABORT" then return .abort
  if ← acceptWord "FAIL" then return .fail
  if ← acceptWord "IGNORE" then return .ignore
  expectWord "REPLACE"
  return .replace

/-- What is done about a row that breaks the rule in front. -/
def onConflict : Reader (Option Conflict) := do
  if ← acceptWords "ON" ["CONFLICT"] then return some (← conflict)
  return none

/-- What is done about a row that breaks any rule. -/
def orConflict : Reader (Option Conflict) := do
  if ← acceptWord "OR" then return some (← conflict)
  return none

/-- What is done to rows that refer to rows that change. -/
def referenceAction : Reader Unit := do
  if ← acceptWord "SET" then
    unless ← acceptOneOf ["NULL", "DEFAULT"] do refuse
  else if ← acceptWord "NO" then expectWord "ACTION"
  else unless ← acceptOneOf ["CASCADE", "RESTRICT"] do refuse

/-- How strictly rows refer to others; so many clauses are read. -/
def referenceClauses : Nat → Reader Unit
  | 0 => refuse
  | fuel + 1 => do
    if ← acceptWord "ON" then
      unless ← acceptOneOf ["DELETE", "UPDATE", "INSERT"] do refuse
      referenceAction
      referenceClauses fuel
    else if ← acceptWord "MATCH" then
      let _ ← name
      referenceClauses fuel

/-- When it is looked at whether rows refer to others. -/
def deferral : Reader Unit := do
  if (← peek).keyword == "NOT" && (← ahead 1).keyword == "DEFERRABLE" then advance
  if ← acceptWord "DEFERRABLE" then
    if ← acceptWord "INITIALLY" then
      unless ← acceptOneOf ["DEFERRED", "IMMEDIATE"] do refuse

/-- Names in parentheses, if there are any. -/
def optionalNames (fuel : Nat) : Reader (List String) := do
  if (← peek).isSymbol "(" then nameList fuel else return []

/-- The table that rows refer to. -/
def reference (fuel : Nat) : Reader Unit := do
  let _ ← name
  let _ ← optionalNames fuel
  referenceClauses fuel

/-- A part in parentheses, with its text. -/
def enclosed {α : Type} (part : Reader α) : Reader (α × String) := do
  expectSymbol "("
  let first ← peek
  let found ← part
  let written := writtenBetween first (← peek)
  expectSymbol ")"
  return (found, written)

/-! ## Columns and rules -/

/-- The value of a column that none is given to. -/
def defaultValue (fuel : Nat) : Reader ColumnRule := do
  let first ← peek
  if first.isSymbol "(" then
    let (value, written) ← enclosed (expression fuel 1)
    return .default value written
  let signed := first.isSymbol "+" || first.isSymbol "-"
  let operand ← if signed then ahead 1 else pure first
  if operand.isIdentifier && !signed &&
      !(["CURRENT_DATE", "CURRENT_TIME", "CURRENT_TIMESTAMP"].contains operand.keyword) then
    advance
    let truth := ["TRUE", "FALSE"].find? (· == operand.keyword)
    let value := (truth.map fun word => Expr.truth (word == "TRUE")).getD
      (.literal (.text operand.content))
    return .default value (writtenBetween first (← peek))
  let value ← expression fuel 12
  return .default value (writtenBetween first (← peek))

/-- The name of a collation. -/
def collationName : Reader String := do
  match ← optionalName fun t => t.isIdentifier || t.kind == .text with
  | some collation => return collation
  | none => refuse

/-- The rules for a column, behind the name of one if `named` gives it. -/
def columnRules : Nat → Option String → Reader (List ColumnRule)
  | 0, _ => refuse
  | fuel + 1, named => do
    if ← acceptWord "CONSTRAINT" then columnRules fuel (some (← name))
    else if ← acceptWord "DEFAULT" then
      let rule ← defaultValue fuel
      return rule :: (← columnRules fuel none)
    else if ← acceptWord "NULL" then
      let _ ← onConflict
      columnRules fuel none
    else if (← peek).keyword == "NOT" && (← ahead 1).keyword != "DEFERRABLE" then
      advance
      expectWord "NULL"
      let rule := ColumnRule.notNull (← onConflict)
      return rule :: (← columnRules fuel none)
    else if ← acceptWords "PRIMARY" ["KEY"] then
      let descending ← acceptWord "DESC"
      unless descending do let _ ← acceptWord "ASC"
      let conflict ← onConflict
      let rule := ColumnRule.primaryKey descending conflict (← acceptWord "AUTOINCREMENT")
      return rule :: (← columnRules fuel none)
    else if ← acceptWord "UNIQUE" then
      let rule := ColumnRule.unique (← onConflict)
      return rule :: (← columnRules fuel none)
    else if ← acceptWord "CHECK" then
      let (condition, written) ← enclosed (expression fuel 1)
      return .check named condition written :: (← columnRules fuel none)
    else if ← acceptWord "REFERENCES" then
      reference fuel
      columnRules fuel none
    else if ← acceptWord "COLLATE" then
      let collation ← collationName
      return .collate collation :: (← columnRules fuel none)
    else if ["DEFERRABLE", "NOT"].contains (← peek).keyword then
      deferral
      columnRules fuel none
    else if ← acceptWord "AS" then
      let (value, _) ← enclosed (expression fuel 1)
      let how ← optionalName Token.isIdentifier
      return .computed value how :: (← columnRules fuel none)
    else return []

/-- A column of a table that is made. -/
def columnDefinition (fuel : Nat) : Reader ColumnDefinition := do
  let name ← name
  let first ← peek
  let words ← typeName fuel
  let next ← peek
  let rules ← columnRules fuel none
  return { name, type := if words.isEmpty then "" else writtenBetween first next, rules }

/-- Terms in parentheses. -/
def keyColumns (fuel : Nat) : Reader (List Term) := do
  expectSymbol "("
  let found ← listOf (term fuel) fuel
  expectSymbol ")"
  return found

/-- The terms of a primary key in parentheses, and whether its numbers are counted up. -/
def primaryKeyColumns (fuel : Nat) : Reader (List Term × Bool) := do
  expectSymbol "("
  let found ← listOf (term fuel) fuel
  let counts ← acceptWord "AUTOINCREMENT"
  expectSymbol ")"
  return (found, counts)

/-- Rules for the rows of a table, behind the name of one if `named` gives it. -/
def tableRules : Nat → Option String → Reader (List TableRule)
  | 0, _ => refuse
  | fuel + 1, named => do
    if ← acceptSymbol "," then tableRules fuel none
    else if ← acceptWord "CONSTRAINT" then tableRules fuel (some (← name))
    else if ← acceptWords "PRIMARY" ["KEY"] then
      let (columns, counts) ← primaryKeyColumns fuel
      let rule := TableRule.primaryKey columns (← onConflict) counts
      return rule :: (← tableRules fuel none)
    else if ← acceptWord "UNIQUE" then
      let columns ← keyColumns fuel
      let rule := TableRule.unique columns (← onConflict)
      return rule :: (← tableRules fuel none)
    else if ← acceptWord "CHECK" then
      let (condition, written) ← enclosed (expression fuel 1)
      let _ ← onConflict
      return .check named condition written :: (← tableRules fuel none)
    else if ← acceptWords "FOREIGN" ["KEY"] then
      let _ ← nameList fuel
      expectWord "REFERENCES"
      reference fuel
      deferral
      tableRules fuel none
    else return []

/-- Whether rules for rows may begin with a token. -/
def Token.beginsTableRule (t : Token) : Bool :=
  ["CONSTRAINT", "PRIMARY", "UNIQUE", "CHECK", "FOREIGN"].contains t.keyword

/-- Columns with commas between them, up to rules for the rows. -/
def columnDefinitions : Nat → Reader (List ColumnDefinition)
  | 0 => refuse
  | fuel + 1 => do
    let first ← columnDefinition fuel
    if (← peek).isSymbol "," && !(← ahead 1).beginsTableRule then
      advance
      return first :: (← columnDefinitions fuel)
    return [first]

/-- What stands behind the columns of a table. -/
def tableOptions : Nat → Reader (List String)
  | 0 => refuse
  | fuel + 1 => do
    if ← acceptWord "WITHOUT" then
      let option ← name
      if !sameName option "rowid" then throw (.store (.unknownTableOption option))
      more fuel "WITHOUT ROWID"
    else if (← peek).isName then
      let option ← name
      if !sameName option "strict" then throw (.store (.unknownTableOption option))
      more fuel "STRICT"
    else return []
where
  /-- What stands behind an option. -/
  more (fuel : Nat) (option : String) : Reader (List String) := do
    if ← acceptSymbol "," then
      if (← peek).isName || (← peek).keyword == "WITHOUT" then
        return option :: (← tableOptions fuel)
      refuse
    return [option]

/-- The text from a token up to the last one that has been taken. -/
def writtenFrom (first : Token) : Reader String := return writtenBetween first (← peek)

/-! ## Definitions -/

/-- What something is made or dropped under. -/
def ifAbsent : Reader Bool := acceptWords "IF" ["NOT", "EXISTS"]

/-- The statement behind `CREATE`. -/
def creation (fuel : Nat) : Reader Statement := do
  let isTemporary ← acceptOneOf ["TEMP", "TEMPORARY"]
  if ← acceptWord "TABLE" then
    let ifAbsent ← ifAbsent
    let (first, name) ← namedObject
    if ← acceptWord "AS" then
      let query ← select fuel
      return .createTable isTemporary ifAbsent name (.query query) (← writtenFrom first)
    expectSymbol "("
    let columns ← columnDefinitions fuel
    let rules ← if ← acceptSymbol "," then tableRules fuel none else pure []
    expectSymbol ")"
    let options ← tableOptions fuel
    return .createTable isTemporary ifAbsent name (.columns columns rules options)
      (← writtenFrom first)
  if ← acceptWord "VIEW" then
    let ifAbsent ← ifAbsent
    let (first, name) ← namedObject
    let columns ← if (← peek).isSymbol "(" then definedColumns fuel else pure []
    expectWord "AS"
    let query ← select fuel
    return .createView isTemporary ifAbsent name columns query (← writtenFrom first)
  if isTemporary then refuse
  let isUnique ← acceptWord "UNIQUE"
  expectWord "INDEX"
  let ifAbsent ← ifAbsent
  let (first, name) ← namedObject
  expectWord "ON"
  let table ← Reader.name
  expectSymbol "("
  let terms ← listOf (term fuel) fuel
  expectSymbol ")"
  let condition ← after "WHERE" do return [← expression fuel 1]
  return .createIndex isUnique ifAbsent name table terms condition (← writtenFrom first)
where
  /-- A name, with the token of its last part. -/
  namedObject : Reader (Token × ObjectName) := do
    let first ← peek
    let own ← name
    if ← acceptSymbol "." then
      let second ← peek
      return (second, ⟨some own, ← name⟩)
    return (first, ⟨none, own⟩)

/-- The statement behind `DROP`. -/
def removal : Reader Statement := do
  let kind ← if ← acceptWord "TABLE" then pure ObjectKind.table
    else if ← acceptWord "VIEW" then pure .view
    else if ← acceptWord "INDEX" then pure .index
    else do
      expectWord "TRIGGER"
      pure .trigger
  let ifExists ← acceptWords "IF" ["EXISTS"]
  return .drop kind ifExists (← objectName)

/-- The statement behind `ALTER`. -/
def alteration (fuel : Nat) : Reader Statement := do
  expectWord "TABLE"
  let table ← objectName
  if ← acceptWord "RENAME" then
    if ← acceptWord "TO" then return .renameTable table (← name)
    let _ ← acceptWord "COLUMN"
    let column ← name
    expectWord "TO"
    return .renameColumn table column (← name)
  if ← acceptWord "ADD" then
    let _ ← acceptWord "COLUMN"
    let first ← peek
    let column ← columnDefinition fuel
    return .addColumn table column (← writtenFrom first)
  expectWord "DROP"
  let _ ← acceptWord "COLUMN"
  return .dropColumn table (← name)

/-! ## Changes -/

/-- A table whose rows change, with the name that it is given. -/
def changedTable : Reader (ObjectName × Option String) := do
  let table ← objectName
  if ← acceptWord "AS" then return (table, some (← name))
  return (table, none)

/-- Results that are given of changed rows. -/
def returning (fuel : Nat) : Reader (List Column) := after "RETURNING" (listOf (column fuel) fuel)

/-- Values for columns. -/
def assignments (fuel : Nat) : Reader (List Assignment) := listOf assignment fuel
where
  /-- A value for one column or for several ones. -/
  assignment : Reader Assignment := do
    let columns ← if (← peek).isSymbol "(" then nameList fuel else do pure [← name]
    expectSymbol "="
    return ⟨columns, ← expression fuel 1⟩

/-- What is done with rows in the way of new ones. -/
def upserts : Nat → Reader (List Upsert)
  | 0 => refuse
  | fuel + 1 => do
    if !(← acceptWords "ON" ["CONFLICT"]) then return []
    let (target, among) ← if (← peek).isSymbol "(" then do
        let terms ← keyColumns fuel
        pure (terms, ← after "WHERE" do return [← expression fuel 1])
      else pure ([], [])
    expectWord "DO"
    if ← acceptWord "NOTHING" then return ⟨target, among, none⟩ :: (← upserts fuel)
    expectWord "UPDATE"
    expectWord "SET"
    let changes ← assignments fuel
    let condition ← after "WHERE" do return [← expression fuel 1]
    return ⟨target, among, some (changes, condition)⟩ :: (← upserts fuel)

/-- The statement behind `INSERT` or `REPLACE`. -/
def insertion (fuel : Nat) (definitions : List Definition) (conflict : Option Conflict) :
    Reader Statement := do
  expectWord "INTO"
  let (table, _) ← changedTable
  let columns ← optionalNames fuel
  if ← acceptWords "DEFAULT" ["VALUES"] then
    return .insert definitions conflict table columns .defaults [] (← returning fuel)
  let query ← select fuel
  let upserts ← upserts fuel
  return .insert definitions conflict table columns (.query query) upserts (← returning fuel)

/-- The condition on rows that change. -/
def changeCondition (fuel : Nat) : Reader (List Expr) :=
  after "WHERE" do return (← expression fuel 1).conjuncts

/-- The statement behind `UPDATE`. -/
def updating (fuel : Nat) (definitions : List Definition) : Reader Statement := do
  let conflict ← orConflict
  let (table, otherName) ← changedTable
  let _ ← indexed
  expectWord "SET"
  let changes ← assignments fuel
  let sources ← after "FROM" (sources fuel none)
  let condition ← changeCondition fuel
  return .update definitions conflict table otherName changes sources condition (← returning fuel)

/-- The statement behind `DELETE`. -/
def deletion (fuel : Nat) (definitions : List Definition) : Reader Statement := do
  expectWord "FROM"
  let (table, otherName) ← changedTable
  let _ ← indexed
  let condition ← changeCondition fuel
  return .delete definitions table otherName condition (← returning fuel)

/-! ## Transactions and settings -/

/-- The word for a transaction, with a name that means nothing. -/
def transactionName : Reader Unit := do
  if ← acceptWord "TRANSACTION" then
    if (← peek).isName && (← peek).keyword != "TO" then
      let _ ← name

/-- The value of a setting: a number or a word. -/
def settingValue : Reader String := do
  let token ← peek
  if token.isSymbol "-" || token.isSymbol "+" then
    advance
    let number ← peek
    unless number.kind == .number do refuse
    advance
    return if token.isSymbol "-" then "-" ++ number.text else number.text
  if token.kind == .number || ["ON", "DELETE", "DEFAULT"].contains token.keyword then
    advance
    return token.text
  name

/-- The statement behind `PRAGMA`. -/
def pragma : Reader Statement := do
  let name ← objectName
  if ← acceptSymbol "=" then return .pragma name (some (← settingValue))
  if ← acceptSymbol "(" then
    let value ← settingValue
    expectSymbol ")"
    return .pragma name (some value)
  return .pragma name none

/-- The statement behind `ROLLBACK`. -/
def undoing : Reader Statement := do
  transactionName
  if ← acceptWord "TO" then
    if (← peek).keyword == "SAVEPOINT" && (← ahead 1).isName then advance
    return .rollbackTo (← name)
  return .rollback

/-- A name, if there is one. -/
def optionalObject : Reader (Option ObjectName) := do
  if (← peek).isName then return some (← objectName)
  return none

/-- What may stand behind definitions of tables. -/
def defining (fuel : Nat) : Reader Statement := do
  if !(← acceptWord "WITH") then return .query (← select fuel)
  let _ ← acceptWord "RECURSIVE"
  let found ← definitions fuel []
  if ← acceptWord "INSERT" then
    let conflict ← orConflict
    insertion fuel found conflict
  else if ← acceptWord "REPLACE" then insertion fuel found (some .replace)
  else if ← acceptWord "UPDATE" then updating fuel found
  else if ← acceptWord "DELETE" then deletion fuel found
  else
    let parts ← parts fuel .union
    return .query (← liftM (Select.ofParts found parts))

/-- A statement. -/
def command (fuel : Nat) : Reader Statement := do
  let token ← peek
  match token.keyword with
  | "SELECT" | "VALUES" | "WITH" => defining fuel
  | "PRAGMA" => do advance; pragma
  | "DROP" => do advance; removal
  | "CREATE" => do advance; creation fuel
  | "ALTER" => do advance; alteration fuel
  | "INSERT" => do
    advance
    let conflict ← orConflict
    insertion fuel [] conflict
  | "REPLACE" => do advance; insertion fuel [] (some .replace)
  | "UPDATE" => do advance; updating fuel []
  | "DELETE" => do advance; deletion fuel []
  | "BEGIN" => do
    advance
    let _ ← acceptOneOf ["DEFERRED", "IMMEDIATE", "EXCLUSIVE"]
    transactionName
    return .beginTransaction
  | "COMMIT" | "END" => do
    advance
    transactionName
    return .commit
  | "ROLLBACK" => do advance; undoing
  | "SAVEPOINT" => do
    advance
    return .savepoint (← name)
  | "RELEASE" => do
    advance
    if (← peek).keyword == "SAVEPOINT" && (← ahead 1).isName then advance
    return .release (← name)
  | "VACUUM" => do
    advance
    let schema ← if (← peek).isName then some <$> name else pure none
    let _ ← after "INTO" do return [← expression fuel 1]
    return .vacuum schema
  | "ANALYZE" => do
    advance
    return .analyze (← optionalObject)
  | "REINDEX" => do
    advance
    return .reindex (← optionalObject)
  | "ATTACH" => do
    advance
    let _ ← acceptWord "DATABASE"
    let file ← expression fuel 1
    expectWord "AS"
    let name ← expression fuel 1
    let _ ← after "KEY" do return [← expression fuel 1]
    return .attach file name
  | "DETACH" => do
    advance
    let _ ← acceptWord "DATABASE"
    return .detach (← expression fuel 1)
  | _ => refuse

/-- A statement up to its end, which is taken too, with the names of its parameters, and what is
left behind it. -/
def readStatement (ts : List Token) :
    Except Fault (Statement × List (Option String) × List Token) := do
  let (statement, input) ← (command (16 * (ts.length + 4))).run ⟨ts, []⟩
  match input.rest with
  | [] => return (statement, input.parameters, [])
  | token :: rest =>
    if token.kind == .ending then return (statement, input.parameters, [])
    if token.isSymbol ";" then return (statement, input.parameters, rest)
    throw token.fault

end Sql
end ReportQuery
