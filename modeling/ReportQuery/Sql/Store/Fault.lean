/-
# Faults of stored tables

Why a database refuses to change what it stores.  A change that breaks a rule of a table has a
code of its own for each kind of rule.
-/

namespace ReportQuery
namespace Sql

/-- What a schema holds. -/
inductive ObjectKind where
  | table
  | view
  | index
  | trigger
deriving DecidableEq, Repr

/-- The word for what a schema holds. -/
def ObjectKind.word : ObjectKind → String
  | .table => "table"
  | .view => "view"
  | .index => "index"
  | .trigger => "trigger"

/-- The article of the word for what a schema holds. -/
def ObjectKind.article : ObjectKind → String
  | .index => "an"
  | _ => "a"

/-- What a database refuses to have done to a table of its own. -/
inductive Treatment where
  | dropped
  | modified
  | indexed
  | altered
deriving DecidableEq, Repr

/-- The word for what is done to a table. -/
def Treatment.word : Treatment → String
  | .dropped => "dropped"
  | .modified => "modified"
  | .indexed => "indexed"
  | .altered => "altered"

/-- A rule that rows keep. -/
inductive RowRule where
  | required
  | unique
  | primaryKey
  /-- The number of a row that no column holds. -/
  | number
  | condition
  | type
deriving DecidableEq, Repr

/-- The code of a change that breaks a rule. -/
def RowRule.code : RowRule → Nat
  | .required => 1299
  | .unique => 2067
  | .primaryKey => 1555
  | .number => 2579
  | .condition => 275
  | .type => 3091

/-- The name of a rule. -/
def RowRule.word : RowRule → String
  | .required => "NOT NULL"
  | .unique | .primaryKey | .number => "UNIQUE"
  | .condition | .type => "CHECK"

/-- Why a database refuses to change what it stores. -/
inductive StoreFault where
  | unknownSchema (name : String)
  /-- A table, a view, an index or a trigger that is not there. -/
  | missing (kind : ObjectKind) (name : String)
  /-- A name that a table, a view or an index has already. -/
  | alreadyThere (kind : ObjectKind) (name : String)
  | taken (kind : ObjectKind) (name : String)
  | reserved (name : String)
  | qualifiedTemporary
  | untouchable (table : String) (treatment : Treatment)
  | wrongDrop (kind : ObjectKind) (name : String)
  | indexOfRule
  | duplicateColumn (name : String)
  | severalKeys (table : String)
  | missingKey (table : String)
  | misplacedCounting
  | countingWithoutNumbers
  | missingType (column : String)
  | unknownType (column type : String)
  | inconstantDefault (column : String)
  /-- What may not stand in an expression of a rule, an index or a column. -/
  | prohibited (part place : String)
  | parametersInView
  | unevenView (view : String) (columns found : Nat)
  | circularView (view : String)
  | indexedView
  | temporaryIndex (table : String)
  | allComputed
  | computedChange (verb column : String)
  | unknownComputing (column : String)
  | circularColumn (column : String)
  | unlikeConflicts
  | addedStored
  | computedDefault
  | computedKey
  | noColumn (table column : String)
  | unevenRow (table : String) (columns values : Nat)
  | unevenValues (values columns : Nat)
  | unevenAssignment (columns values : Nat)
  | unmatchedTarget
  | changedView (view : String)
  | starReturned
  | broken (rule : RowRule) (subject : String)
  | wrongType (value type column : String)
  | full
  | nestedTransaction
  | noTransaction (verb : String)
  | unknownSavepoint (name : String)
  | vacuumInside
  | levelInside
  | unknownDatabase (name : String)
  | knownDatabase (name : String)
  | fixedDatabase (name : String)
  | tooManyDatabases
  | unknownReindexed
  | unknownEncoding (name : String)
  | unknownTableOption (name : String)
  | otherwiseNamed (name : String)
  | alteredView (view verb : String)
  | fixedView (view : String)
  | widenedView
  /-- What is wrong with something after an alteration. -/
  | wrongAfter (subject cause : String)
  | addedKey
  | addedUnique
  | addedNull
  | addedDefault
  | lastColumn (column : String)
  | neededColumn (column reason : String)
  | readOnly
deriving DecidableEq, Repr

namespace StoreFault

/-- The code of a fault. -/
def code : StoreFault → Nat
  | .broken rule _ => rule.code
  | .wrongType .. => RowRule.type.code
  | .full => 13
  | .readOnly => 8
  | _ => 1

/-- The wording of a fault. -/
def message : StoreFault → String
  | .unknownSchema name => "unknown database " ++ name
  | .missing kind name => "no such " ++ kind.word ++ ": " ++ name
  | .alreadyThere kind name => kind.word ++ " " ++ name ++ " already exists"
  | .taken kind name =>
    "there is already " ++ kind.article ++ " " ++ kind.word ++ " named " ++ name
  | .reserved name => "object name reserved for internal use: " ++ name
  | .qualifiedTemporary => "temporary table name must be unqualified"
  | .untouchable table treatment => "table " ++ table ++ " may not be " ++ treatment.word
  | .wrongDrop kind name =>
    let word := String.ofList (kind.word.toList.map Char.toUpper)
    "use DROP " ++ word ++ " to delete " ++ kind.word ++ " " ++ name
  | .indexOfRule =>
    "index associated with UNIQUE or PRIMARY KEY constraint cannot be dropped"
  | .duplicateColumn name => "duplicate column name: " ++ name
  | .severalKeys table => "table \"" ++ table ++ "\" has more than one primary key"
  | .missingKey table => "PRIMARY KEY missing on table " ++ table
  | .misplacedCounting => "AUTOINCREMENT is only allowed on an INTEGER PRIMARY KEY"
  | .countingWithoutNumbers => "AUTOINCREMENT not allowed on WITHOUT ROWID tables"
  | .missingType column => "missing datatype for " ++ column
  | .unknownType column type =>
    "unknown datatype for " ++ column ++ ": \"" ++ type ++ "\""
  | .inconstantDefault column => "default value of column [" ++ column ++ "] is not constant"
  | .prohibited part place => part ++ " prohibited in " ++ place
  | .parametersInView => "parameters are not allowed in views"
  | .unevenView view columns found =>
    "expected " ++ toString columns ++ " columns for '" ++ view ++ "' but got " ++ toString found
  | .circularView view => "view " ++ view ++ " is circularly defined"
  | .indexedView => "views may not be indexed"
  | .temporaryIndex table =>
    "cannot create a TEMP index on non-TEMP table \"" ++ table ++ "\""
  | .allComputed => "must have at least one non-generated column"
  | .computedChange verb column =>
    "cannot " ++ verb ++ " generated column \"" ++ column ++ "\""
  | .unknownComputing column => "error in generated column \"" ++ column ++ "\""
  | .circularColumn column => "generated column loop on \"" ++ column ++ "\""
  | .unlikeConflicts => "conflicting ON CONFLICT clauses specified"
  | .addedStored => "cannot add a STORED column"
  | .computedDefault => "cannot use DEFAULT on a generated column"
  | .computedKey => "generated columns cannot be part of the PRIMARY KEY"
  | .noColumn table column => "table " ++ table ++ " has no column named " ++ column
  | .unevenRow table columns values =>
    "table " ++ table ++ " has " ++ toString columns ++ " columns but " ++ toString values ++
      " values were supplied"
  | .unevenValues values columns =>
    toString values ++ " values for " ++ toString columns ++ " columns"
  | .unevenAssignment columns values =>
    toString columns ++ " columns assigned " ++ toString values ++ " values"
  | .unmatchedTarget =>
    "ON CONFLICT clause does not match any PRIMARY KEY or UNIQUE constraint"
  | .changedView view => "cannot modify " ++ view ++ " because it is a view"
  | .starReturned => "RETURNING may not use \"TABLE.*\" wildcards"
  | .broken rule subject => rule.word ++ " constraint failed: " ++ subject
  | .wrongType value type column =>
    "cannot store " ++ value ++ " value in " ++ type ++ " column " ++ column
  | .full => "database or disk is full"
  | .nestedTransaction => "cannot start a transaction within a transaction"
  | .noTransaction verb => "cannot " ++ verb ++ " - no transaction is active"
  | .unknownSavepoint name => "no such savepoint: " ++ name
  | .vacuumInside => "cannot VACUUM from within a transaction"
  | .levelInside => "Safety level may not be changed inside a transaction"
  | .unknownDatabase name => "no such database: " ++ name
  | .knownDatabase name => "database " ++ name ++ " is already in use"
  | .fixedDatabase name => "cannot detach database " ++ name
  | .tooManyDatabases => "too many attached databases - max 10"
  | .unknownReindexed => "unable to identify the object to be reindexed"
  | .unknownEncoding name => "unsupported encoding: " ++ name
  | .unknownTableOption name => "unknown table option: " ++ name
  | .otherwiseNamed name => "there is already another table or index with this name: " ++ name
  | .alteredView view verb => verb ++ " \"" ++ view ++ "\""
  | .fixedView view => "view " ++ view ++ " may not be altered"
  | .widenedView => "Cannot add a column to a view"
  | .wrongAfter subject cause => "error in " ++ subject ++ ": " ++ cause
  | .addedKey => "Cannot add a PRIMARY KEY column"
  | .addedUnique => "Cannot add a UNIQUE column"
  | .addedNull => "Cannot add a NOT NULL column with default value NULL"
  | .addedDefault => "Cannot add a column with non-constant default"
  | .lastColumn column =>
    "cannot drop column \"" ++ column ++ "\": no other columns exist"
  | .neededColumn column reason => "cannot drop " ++ reason ++ " column: \"" ++ column ++ "\""
  | .readOnly => "attempt to write a readonly database"

end StoreFault

end Sql
end ReportQuery
