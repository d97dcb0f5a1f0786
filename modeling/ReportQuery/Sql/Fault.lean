/-
# Faults in statements

Why a database refuses a statement, or ends it.  Most faults are found before any row
is looked at: in the tokens, in the grammar, in the names of tables, and then in all
else that a statement refers to.
-/

import ReportQuery.Sql.Store.Fault

namespace ReportQuery
namespace Sql

/-- The clauses that order or group by terms. -/
inductive TermClause where
  | ordering
  | grouping
deriving DecidableEq, Repr

/-- The keyword of a clause of terms. -/
def TermClause.keyword : TermClause → String
  | .ordering => "ORDER"
  | .grouping => "GROUP"

/-- Why a statement fails. -/
inductive Fault where
  | incomplete
  | unexpected (token : String)
  | unrecognized (token : String)
  | tooLargeHexadecimal (text : String)
  | parameterNumber
  | unknownJoin (words : String)
  | joinWithoutTable (keyword : String)
  | conditionOnNaturalJoin
  | uncommonColumn (name : String)
  | ambiguousCommon (name : String)
  | misplacedClause (clause operator : String)
  | duplicateDefinition (name : String)
  | unevenDefinition (name : String) (values columns : Nat)
  /-- A table that is defined by itself, without rows to begin with. -/
  | circularReference (name : String)
  /-- A table that is referred to by its definition elsewhere than among the sources. -/
  | multipleReferences (name : String)
  /-- A table that is referred to twice by an arm of its definition. -/
  | repeatedReference (name : String)
  | recursiveAggregate
  | recursiveWindow
  /-- The end of a trigger where there is none. -/
  | raisedOutside
  | wordsBehindColumn (name : String)
  | tooManyArguments (function : String)
  | tooDeep
  | tooManyArms
  | longPattern
  | distinctWindow
  | unsupportedFrame
  | unknownWindow (name : String)
  /-- A window that gives again what the one that it is based on has. -/
  | windowOverride (clause name : String)
  /-- A condition of a join that looks at sources behind it. -/
  | conditionAhead
  | unevenRows
  | unknownTable (name : String)
  | noTables
  | notAFunction (table : String)
  | tooManyTableArguments (table : String) (most : Nat)
  | unknownIndex (name : String)
  | unknownColumn (name : String)
  | ambiguousColumn (name : String)
  | unknownFunction (name : String)
  | argumentCount (function : String)
  | filterOnScalar (function : String)
  | orderOnScalar (function : String)
  | distinctArguments
  /-- An aggregate in a clause that is settled row by row. -/
  | misplacedAggregate (function : String)
  /-- An aggregate where there are no groups. -/
  | misusedAggregate (function : String)
  | misusedAlias (name : String)
  | groupingByAggregate
  | havingWithoutGroups
  | termOutOfRange (position : Nat) (clause : TermClause) (columns : Nat)
  | unmatchedTerm (position : Nat)
  | unevenColumns (operator : String)
  | subqueryColumns (found wanted : Nat)
  | misusedRow
  | unknownCollation (name : String)
  | datatypeMismatch
  | integerOverflow
  | escapeLength
  /-- A probability that is not written as a number from 0 to 1. -/
  | improbable (function : String)
  | unusableFunction (name : String)
  /-- A function that looks at no window where it has one. -/
  | noWindowFunction (function : String)
  /-- A function with a window where there can be none. -/
  | misplacedWindow (function : String)
  | misusedWindowAlias (name : String)
  | filterOnWindowFunction
  /-- An offset by keys where there is not one key. -/
  | rangeWithoutKey
  /-- An offset of a frame that is negative or no number, or not whole where it has to be. -/
  | frameOffset (isStart isWhole : Bool)
  | memberPlace
  | partCount
  | notAuthorized
  | malformedDocument
  | documentPath (path : String)
  | documentBytes
  | documentLabel
  | documentLabels
  | documentEdits (function : String)
  | documentFlags
  | tooLarge
  /-- A change that is refused. -/
  | store (fault : StoreFault)
deriving DecidableEq, Repr

/-- A position among terms: 1st, 2nd, 3rd, 4th, 11th, 21st. -/
def ordinalText (n : Nat) : String :=
  let ending :=
    if n / 10 % 10 = 1 then "th"
    else match n % 10 with
      | 1 => "st"
      | 2 => "nd"
      | 3 => "rd"
      | _ => "th"
  toString n ++ ending

namespace Fault

/-- The code of a fault. -/
def code : Fault → Nat
  | .tooLarge => 18
  | .datatypeMismatch => 20
  | .unknownCollation _ => 257
  | .store fault => fault.code
  | _ => 1

/-- The wording of a fault. -/
def message : Fault → String
  | .incomplete => "incomplete input"
  | .unexpected token => "near \"" ++ token ++ "\": syntax error"
  | .unrecognized token => "unrecognized token: \"" ++ token ++ "\""
  | .tooLargeHexadecimal text => "hex literal too big: " ++ text
  | .parameterNumber => "variable number must be between ?1 and ?32766"
  | .unknownJoin words => "unknown join type: " ++ words
  | .joinWithoutTable keyword => "a JOIN clause is required before " ++ keyword
  | .conditionOnNaturalJoin => "a NATURAL join may not have an ON or USING clause"
  | .uncommonColumn name =>
    "cannot join using column " ++ name ++ " - column not present in both tables"
  | .ambiguousCommon name => "ambiguous reference to " ++ name ++ " in USING()"
  | .misplacedClause clause operator =>
    clause ++ " clause should come after " ++ operator ++ " not before"
  | .duplicateDefinition name => "duplicate WITH table name: " ++ name
  | .unevenDefinition name values columns =>
    "table " ++ name ++ " has " ++ toString values ++ " values for " ++ toString columns ++
      " columns"
  | .circularReference name => "circular reference: " ++ name
  | .multipleReferences name => "multiple recursive references: " ++ name
  | .repeatedReference name => "multiple references to recursive table: " ++ name
  | .recursiveAggregate => "recursive aggregate queries not supported"
  | .recursiveWindow => "cannot use window functions in recursive queries"
  | .raisedOutside => "RAISE() may only be used within a trigger-program"
  | .wordsBehindColumn name => "syntax error after column name \"" ++ name ++ "\""
  | .tooManyArguments function => "too many arguments on function " ++ function
  | .tooDeep => "Expression tree is too large (maximum depth 1000)"
  | .tooManyArms => "too many terms in compound SELECT"
  | .longPattern => "LIKE or GLOB pattern too complex"
  | .distinctWindow => "DISTINCT is not supported for window functions"
  | .unsupportedFrame => "unsupported frame specification"
  | .unknownWindow name => "no such window: " ++ name
  | .windowOverride clause name => "cannot override " ++ clause ++ " of window: " ++ name
  | .conditionAhead => "ON clause references tables to its right"
  | .unevenRows => "all VALUES must have the same number of terms"
  | .unknownTable name => "no such table: " ++ name
  | .noTables => "no tables specified"
  | .notAFunction table => "'" ++ table ++ "' is not a function"
  | .tooManyTableArguments table most =>
    "too many arguments on " ++ table ++ "() - max " ++ toString most
  | .unknownIndex name => "no such index: " ++ name
  | .unknownColumn name => "no such column: " ++ name
  | .ambiguousColumn name => "ambiguous column name: " ++ name
  | .unknownFunction name => "no such function: " ++ name
  | .argumentCount function => "wrong number of arguments to function " ++ function ++ "()"
  | .filterOnScalar function => "FILTER may not be used with non-aggregate " ++ function ++ "()"
  | .orderOnScalar function => "ORDER BY may not be used with non-aggregate " ++ function ++ "()"
  | .distinctArguments => "DISTINCT aggregates must have exactly one argument"
  | .misplacedAggregate function => "misuse of aggregate function " ++ function ++ "()"
  | .misusedAggregate function => "misuse of aggregate: " ++ function ++ "()"
  | .misusedAlias name => "misuse of aliased aggregate " ++ name
  | .groupingByAggregate => "aggregate functions are not allowed in the GROUP BY clause"
  | .havingWithoutGroups => "HAVING clause on a non-aggregate query"
  | .termOutOfRange position clause columns =>
    ordinalText position ++ " " ++ clause.keyword ++
      " BY term out of range - should be between 1 and " ++ toString columns
  | .unmatchedTerm position =>
    ordinalText position ++ " ORDER BY term does not match any column in the result set"
  | .unevenColumns operator =>
    "SELECTs to the left and right of " ++ operator ++
      " do not have the same number of result columns"
  | .subqueryColumns found wanted =>
    "sub-select returns " ++ toString found ++ " columns - expected " ++ toString wanted
  | .misusedRow => "row value misused"
  | .unknownCollation name => "no such collation sequence: " ++ name
  | .datatypeMismatch => "datatype mismatch"
  | .integerOverflow => "integer overflow"
  | .escapeLength => "ESCAPE expression must be a single character"
  | .improbable function =>
    "second argument to " ++ function ++ "() must be a constant between 0.0 and 1.0"
  | .unusableFunction name =>
    "unable to use function " ++ name ++ " in the requested context"
  | .noWindowFunction function => function ++ "() may not be used as a window function"
  | .misplacedWindow function => "misuse of window function " ++ function ++ "()"
  | .misusedWindowAlias name => "misuse of aliased window function " ++ name
  | .filterOnWindowFunction =>
    "FILTER clause may only be used with aggregate window functions"
  | .rangeWithoutKey =>
    "RANGE with offset PRECEDING/FOLLOWING requires one ORDER BY expression"
  | .frameOffset isStart isWhole =>
    "frame " ++ (if isStart then "starting" else "ending") ++ " offset must be a non-negative " ++
      (if isWhole then "integer" else "number")
  | .memberPlace => "second argument to nth_value must be a positive integer"
  | .partCount => "argument of ntile must be a positive integer"
  | .notAuthorized => "not authorized"
  | .malformedDocument => "malformed JSON"
  | .documentPath path => "bad JSON path: '" ++ "''".intercalate (path.splitOn "'") ++ "'"
  | .documentBytes => "JSON cannot hold BLOB values"
  | .documentLabel => "json_object() labels must be TEXT"
  | .documentLabels => "json_object() requires an even number of arguments"
  | .documentEdits function => function ++ "() needs an odd number of arguments"
  | .documentFlags => "FLAGS parameter to json_valid() must be between 1 and 15"
  | .tooLarge => "string or blob too big"
  | .store fault => fault.message

end Fault

end Sql
end ReportQuery
