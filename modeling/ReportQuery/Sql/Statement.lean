/-
# Running statements

A text may hold several statements with semicolons between them.  Each is read, settled,
given its arguments and run before the next one is looked at, so what is wrong with a
statement is found behind the rows of those before it.

Parameters take their arguments by number.  A parameter `?` takes the next argument,
which counts on over all statements, and `?n` and `$n` take the argument of that number.
Other names are refused.  Where there are too few arguments, the parameter that lacks its
own and all behind it are null.
-/

import ReportQuery.Error
import ReportQuery.Sql.Reading.Command
import ReportQuery.Sql.Store.Alteration
import ReportQuery.Sql.Store.Setting
import ReportQuery.Sql.Store.Transaction
import ReportQuery.Sql.Store.Upkeep

namespace ReportQuery
namespace Sql

/-- The fault of a statement, as a database reports it. -/
def Fault.toError (f : Fault) : DatabaseError := .reported f.code f.message

/-! ## Arguments -/

/-- The number at the beginning of a text. -/
def leadingNumber? (cs : List Char) : Option Nat :=
  let digits := cs.takeWhile Char.isDigit
  if digits.isEmpty then none else some (Decimal.ofDigits digits)

/-- The number of the argument that a parameter takes; `next` is that of the next one. -/
def argumentNumber (next : Nat) : Option String → Except DatabaseError Nat
  | none => .ok next
  | some name =>
    match name.toList with
    | '?' :: digits => .ok ((leadingNumber? digits).getD 0)
    | '$' :: word =>
      match leadingNumber? word with
      | some number => .ok number
      | none => .error (.badProtocol
          ("parameters with non-integer names are not currently supported: " ++ String.ofList word))
    | _ => .error (.badProtocol ("unsupported SQL parameter format: " ++ name))

/-- The values of parameters, and how many arguments have been taken in turn. -/
def takeArguments (arguments : List Value) (taken : Nat) :
    List (Option String) → Except DatabaseError (List Value × Nat)
  | [] => .ok ([], taken)
  | name :: names => do
    let number ← argumentNumber (taken + 1) name
    let taken := if name.isNone then taken + 1 else taken
    match arguments[number - 1]? with
    | none => return ([], taken)
    | some c =>
      let (values, taken) ← takeArguments arguments taken names
      return (c :: values, taken)

/-! ## Statements -/

/-- Whether a statement writes rows or definitions. -/
def Statement.writes : Statement → Bool
  | .insert .. | .update .. | .delete .. | .createTable .. | .createView .. | .createIndex ..
  | .drop .. | .renameTable .. | .renameColumn .. | .addColumn .. | .dropColumn .. => true
  | _ => false

/-- A plan for a statement that changes nothing but the store. -/
def planStore (change : Except Fault Store) : Except Fault Plan :=
  .ok fun _ => change.map fun store => { store }

/-- Plans a query. -/
def planQuery (s : Store) (c : Context) (query : Select) : Except Fault Plan := do
  let relation ← prepare c query
  return fun _ => return {
    columns := relation.columns.map ResultColumn.name
    rows := ((relation.rows []).mapM storedRow).items
    store := s }

/-- Plans a statement. -/
def plan (s : Store) (c : Context) (hasParameters : Bool) : Statement → Except Fault Plan
  | .query query => planQuery s c query
  | .pragma name value => planPragma s c name value
  | .drop kind ifExists name => planDrop s c kind ifExists name
  | .createTable isTemporary ifAbsent name content written =>
    planTable s c isTemporary ifAbsent name content written
  | .createView isTemporary ifAbsent name columns query written =>
    planView s isTemporary ifAbsent name columns query written hasParameters
  | .createIndex isUnique ifAbsent name table keys condition written =>
    planIndex s c isUnique ifAbsent name table keys condition written
  | .renameTable table name => planRename s c table name
  | .renameColumn table column name => planRenameColumn s c table column name
  | .addColumn table column written => planAddColumn s c table column written
  | .dropColumn table column => planDropColumn s c table column
  | .insert definitions conflict table columns rows upserts results =>
    planInsert s c definitions conflict table columns rows upserts results
  | .update definitions conflict table otherName changes sources condition results =>
    planUpdate s c definitions conflict table otherName changes sources condition results
  | .delete definitions table otherName condition results =>
    planDelete s c definitions table otherName condition results
  | .beginTransaction => planStore s.begin
  | .commit => planStore s.commit
  | .rollback => planStore s.rollback
  | .savepoint name => planStore (.ok (s.setSavepoint name))
  | .release name => planStore (s.release name)
  | .rollbackTo name => planStore (s.rollbackTo name)
  | .vacuum schema => planVacuum s schema
  | .analyze name => planAnalyze s c name
  | .reindex name => planReindex s c name
  | .attach file name => planAttach s c file name
  | .detach name => planDetach s c name

/-- What carrying out a plan comes to; a fault is the only row then. -/
def Plan.answer (p : Plan) (s : Store) : Answer :=
  match p () with
  | .ok answer => answer
  | .error fault => { rows := [.error fault], store := s }

/-- What a statement answers, and how many arguments have been taken then. -/
def runStatement (s : Store) (now : Int) (arguments : List Value) (taken : Nat)
    (statement : Statement) (names : List (Option String)) :
    Except DatabaseError (Answer × Nat) := do
  let tables := s.catalog now
  let context : Context :=
    { tables := { catalog := tables ++ s.reportTables tables }
      circumstances := s.circumstances now
      parameters := [] }
  let hasParameters := !names.isEmpty
  let _ ← (plan s context hasParameters statement).mapError Fault.toError
  let (parameters, taken) ← takeArguments arguments taken names
  let settled ← (plan s { context with parameters } hasParameters statement).mapError
    Fault.toError
  if statement.writes && s.isSet "query_only" then
    throw (Fault.store .readOnly).toError
  return (settled.answer s, taken)

/-- The rows of an answer, as a database gives them. -/
def Answer.items (a : Answer) : List (Except DatabaseError Row) :=
  a.rows.map fun item =>
    (item.mapError Fault.toError).map fun values => ⟨a.columns, values.map Value.toCell⟩

/-- The rows and errors that the statements of a text give, `fuel` of them at most. -/
def runStatements (now : Int) (arguments : List Value) :
    Nat → Store → Nat → List Token → List (Except DatabaseError Row)
  | 0, _, _, _ => []
  | fuel + 1, s, taken, ts =>
    match ts with
    | [] => []
    | token :: rest =>
      if token.kind = .ending then []
      else if token.isSymbol ";" then runStatements now arguments fuel s taken rest
      else match readStatement ts with
        | .error fault => [.error fault.toError]
        | .ok (statement, names, rest) =>
          match runStatement s now arguments taken statement names with
          | .error e => [.error e]
          | .ok (answer, taken) =>
            if answer.rows.any fun item => item.isOk.not then answer.items
            else answer.items ++ runStatements now arguments fuel answer.store taken rest

/-- The rows and errors that a text of statements gives. -/
def run (s : Store) (now : Int) (sql : String) (arguments : List Value) :
    List (Except DatabaseError Row) :=
  let ts := markClauses none (tokens sql.toList)
  runStatements now arguments ts.length s 0 ts

end Sql
end ReportQuery
