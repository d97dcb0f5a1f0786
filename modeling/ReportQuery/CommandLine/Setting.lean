/-
# Options of the command line

An option has a long name, and some have a letter.  With its value it makes a
setting; the value is read where the setting is made, so that a setting always
holds a value of its own type.

| option | letter | value |
| --- | --- | --- |
| `--field` | `-f` | an expression; repeatable |
| `--from` | | the tables |
| `--filter` | | a filter as JSON |
| `--where-true`, `--group-by`, `--order-by` | | an expression; repeatable |
| `--limit` | | a number of 64 bits |
| `--dialect` | | `generic` or `postgres` |
| `--database-url` | `-d` | a URL |
| `--as` | | `int`, `float`, `text` or `date` |
-/

import ReportQuery.Decimal.Whole
import ReportQuery.Scalar.Cell

namespace ReportQuery
namespace CommandLine

/-- How the placeholders of a printed query are written. -/
inductive Dialect where
  | generic
  | postgres
deriving DecidableEq, Repr

/-- What can be wrong with a command line, or asked for in place of a command. -/
inductive Misuse where
  | helpWanted
  | versionWanted
  | nothingGiven
  | unknownCommand
  | unknownArgument
  | unneededValue
  | missingValue
  | unknownValue
  | malformedValue
  | repeatedOption
  | missingOption
deriving DecidableEq, Repr

/-- The options. -/
inductive OptionName where
  | field
  | tables
  | filter
  | predicate
  | grouping
  | ordering
  | limit
  | dialect
  | databaseUrl
  | scalarType
deriving DecidableEq, Repr

/-- An option with its value. -/
inductive Setting where
  | field (expr : String)
  | tables (text : String)
  | filter (json : String)
  | predicate (expr : String)
  | grouping (expr : String)
  | ordering (expr : String)
  | limit (rows : Nat)
  | dialect (d : Dialect)
  | databaseUrl (url : String)
  | scalarType (t : ScalarType)
deriving DecidableEq

namespace OptionName

/-- The name of an option behind `--`. -/
def long : OptionName → String
  | .field => "field"
  | .tables => "from"
  | .filter => "filter"
  | .predicate => "where-true"
  | .grouping => "group-by"
  | .ordering => "order-by"
  | .limit => "limit"
  | .dialect => "dialect"
  | .databaseUrl => "database-url"
  | .scalarType => "as"

/-- The letter of an option behind `-`. -/
def letter? : OptionName → Option Char
  | .field => some 'f'
  | .databaseUrl => some 'd'
  | _ => none

/-- Whether an option may be given more than once. -/
def repeatable : OptionName → Bool
  | .field | .predicate | .grouping | .ordering => true
  | _ => false

/-- Reads the value of an option. -/
def read (o : OptionName) (value : String) : Except Misuse Setting :=
  match o with
  | .field => .ok (.field value)
  | .tables => .ok (.tables value)
  | .filter => .ok (.filter value)
  | .predicate => .ok (.predicate value)
  | .grouping => .ok (.grouping value)
  | .ordering => .ok (.ordering value)
  | .databaseUrl => .ok (.databaseUrl value)
  | .limit =>
    match Decimal.readWhole (UInt64.size - 1) value.toList with
    | .ok n => .ok (.limit n)
    | .error _ => .error .malformedValue
  | .dialect =>
    match value with
    | "generic" => .ok (.dialect .generic)
    | "postgres" => .ok (.dialect .postgres)
    | _ => .error .unknownValue
  | .scalarType =>
    match value with
    | "int" => .ok (.scalarType .int64)
    | "float" => .ok (.scalarType .float64)
    | "text" => .ok (.scalarType .string)
    | "date" => .ok (.scalarType .date)
    | _ => .error .unknownValue

end OptionName

/-- The option of a setting. -/
def Setting.option : Setting → OptionName
  | .field _ => .field
  | .tables _ => .tables
  | .filter _ => .filter
  | .predicate _ => .predicate
  | .grouping _ => .grouping
  | .ordering _ => .ordering
  | .limit _ => .limit
  | .dialect _ => .dialect
  | .databaseUrl _ => .databaseUrl
  | .scalarType _ => .scalarType

end CommandLine
end ReportQuery
