/-
# Commands

    render …    print the query and its bound values
    run …       run the query and print its rows
    scalar …    run the query and print its first value

All three take the options that describe a query.  `help` and the names of
commands behind it ask for help.
-/

import ReportQuery.CommandLine.Arguments
import ReportQuery.Filter.Json
import ReportQuery.Query.Basic

namespace ReportQuery
namespace CommandLine

/-! ## Queries -/

/-- What the options say about a query. -/
structure QueryArguments where
  fields : List String
  tables : String
  filter : Option String := none
  predicates : List String := []
  grouping : List String := []
  ordering : List String := []
  limit : Option Nat := none
deriving DecidableEq

namespace QueryArguments

/-- The options that describe a query. -/
def options : List OptionName :=
  [.field, .tables, .filter, .predicate, .grouping, .ordering, .limit]

/-- Adds the restrictions of a filter in JSON, if there is one. -/
def filtered (q : Query) : Option String → Except Error Query
  | none => .ok q
  | some json =>
    match Filter.ofJson json with
    | .ok f => .ok (q.filteredBy f)
    | .error fault => .error (.invalidFilter json fault)

/-- Adds the limit, if there is one. -/
def limited (q : Query) : Option Nat → Query
  | none => q
  | some rows => q.setLimit ("LIMIT " ++ toString rows)

/-- Builds the query. -/
def build (a : QueryArguments) : Except Error Query := do
  let q ← filtered ((Query.select a.fields).addTables a.tables) a.filter
  let q := a.predicates.foldl Query.whereTrue q
  let q := a.grouping.foldl Query.groupBy q
  let q := a.ordering.foldl Query.orderBy q
  return limited q a.limit

/-- Collects the settings that describe a query; fields and tables have to be among them. -/
def ofSettings (settings : List Setting) : Except Misuse QueryArguments :=
  let fields := settings.filterMap fun | .field e => some e | _ => none
  match fields, settings.findSome? fun | .tables t => some t | _ => none with
  | _ :: _, some tables => .ok {
      fields
      tables
      filter := settings.findSome? fun | .filter json => some json | _ => none
      predicates := settings.filterMap fun | .predicate e => some e | _ => none
      grouping := settings.filterMap fun | .grouping e => some e | _ => none
      ordering := settings.filterMap fun | .ordering e => some e | _ => none
      limit := settings.findSome? fun | .limit rows => some rows | _ => none }
  | _, _ => .error .missingOption

end QueryArguments

/-! ## Commands -/

/-- A command with its arguments. -/
inductive Command where
  | render (query : QueryArguments) (dialect : Dialect)
  | run (query : QueryArguments) (url : String)
  | scalar (query : QueryArguments) (url : String) (type : ScalarType)
deriving DecidableEq

/-- The names of commands. -/
inductive CommandName where
  | render
  | run
  | scalar
deriving DecidableEq, Repr

namespace CommandName

/-- The command of a name. -/
def ofText? : String → Option CommandName
  | "render" => some .render
  | "run" => some .run
  | "scalar" => some .scalar
  | _ => none

/-- The options of a command. -/
def options : CommandName → List OptionName
  | .render => QueryArguments.options ++ [.dialect]
  | .run => QueryArguments.options ++ [.databaseUrl]
  | .scalar => QueryArguments.options ++ [.databaseUrl, .scalarType]

/-- The command that some settings make. -/
def ofSettings (name : CommandName) (settings : List Setting) : Except Misuse Command := do
  let query ← QueryArguments.ofSettings settings
  let url? := settings.findSome? fun | .databaseUrl url => some url | _ => none
  match name, url? with
  | .render, _ =>
    let dialect? := settings.findSome? fun | .dialect d => some d | _ => none
    return .render query (dialect?.getD .generic)
  | .run, some url => return .run query url
  | .scalar, some url =>
    let type? := settings.findSome? fun | .scalarType t => some t | _ => none
    return .scalar query url (type?.getD .int64)
  | _, none => throw .missingOption

end CommandName

/-- What is wrong with names behind `help`: there is one at most, and it is that of a command. -/
def readHelp : List String → Misuse
  | [] | ["help"] => .helpWanted
  | [name] => if (CommandName.ofText? name).isSome then .helpWanted else .unknownCommand
  | _ => .unknownCommand

/-- What is wrong with a first argument that names no command. -/
def misuseOfFirst (argument : String) (more : List String) : Misuse :=
  match argument.toList with
  | ['-', '-'] =>
    match more with
    | [] => .nothingGiven
    | name :: _ =>
      if name = "help" ∨ (CommandName.ofText? name).isSome then .unknownArgument
      else .unknownCommand
  | '-' :: '-' :: rest =>
    match attached rest with
    | ("help", none) => .helpWanted
    | ("version", none) => .versionWanted
    | ("help", some _) | ("version", some _) => .unneededValue
    | _ => .unknownArgument
  | '-' :: c :: _ =>
    if c = 'h' then .helpWanted else if c = 'V' then .versionWanted else .unknownArgument
  | _ => .unknownCommand

/-- Reads a command line. -/
def readCommand : List String → Except Misuse Command
  | [] => .error .nothingGiven
  | "help" :: names => .error (readHelp names)
  | argument :: more =>
    match CommandName.ofText? argument with
    | some name => do name.ofSettings (← readFrom name.options {} more)
    | none => .error (misuseOfFirst argument more)

end CommandLine
end ReportQuery
