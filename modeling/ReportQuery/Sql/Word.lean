/-
# Words with a meaning

The words of the language that cannot name anything, and those that mean something
only where they are expected, or between certain neighbours.
-/

import ReportQuery.Sql.Token

namespace ReportQuery
namespace Sql

/-- Words that name nothing unless they are quoted. -/
def reservedWords : List String :=
  ["ADD", "ALL", "ALTER", "AND", "AS", "AUTOINCREMENT", "BETWEEN", "CASE", "CHECK", "COLLATE",
    "COMMIT", "CONSTRAINT", "CREATE", "DEFAULT", "DEFERRABLE", "DELETE", "DISTINCT", "DROP",
    "ELSE", "ESCAPE", "EXCEPT", "EXISTS", "FOREIGN", "FROM", "GROUP", "HAVING", "IN", "INDEX",
    "INSERT", "INTERSECT", "INTO", "IS", "ISNULL", "JOIN", "LIMIT", "NOT", "NOTHING", "NOTNULL",
    "NULL", "ON", "OR", "ORDER", "PRIMARY", "REFERENCES", "RETURNING", "SELECT", "SET", "TABLE",
    "THEN", "TO", "TRANSACTION", "UNION", "UNIQUE", "UPDATE", "USING", "VALUES", "WHEN", "WHERE"]

/-- Words that say how tables are joined; they name something where no join can begin. -/
def joinWords : List String := ["CROSS", "FULL", "INNER", "LEFT", "NATURAL", "OUTER", "RIGHT"]

/-- Words that mean something only where they are expected. -/
def softWords : List String :=
  ["ABORT", "ACTION", "AFTER", "ALWAYS", "ANALYZE", "ASC", "ATTACH", "BEFORE", "BEGIN", "BY",
    "CASCADE", "CAST", "COLUMN", "CONFLICT", "CURRENT", "CURRENT_DATE", "CURRENT_TIME",
    "CURRENT_TIMESTAMP", "DATABASE", "DEFERRED", "DESC", "DETACH", "DO", "EACH", "END", "EXCLUDE",
    "EXCLUSIVE", "EXPLAIN", "FAIL", "FILTER", "FIRST", "FOLLOWING", "FOR", "GENERATED", "GLOB",
    "GROUPS", "IF", "IGNORE", "IMMEDIATE", "INDEXED", "INITIALLY", "INSTEAD", "KEY", "LAST",
    "LIKE", "MATCH", "MATERIALIZED", "NO", "NULLS", "OF", "OFFSET", "OTHERS", "OVER",
    "PARTITION", "PLAN", "PRAGMA", "PRECEDING", "QUERY", "RAISE", "RANGE", "RECURSIVE", "REGEXP",
    "REINDEX", "RELEASE", "RENAME", "REPLACE", "RESTRICT", "ROLLBACK", "ROW", "ROWS",
    "SAVEPOINT", "TEMP", "TEMPORARY", "TIES", "TRIGGER", "UNBOUNDED", "VACUUM", "VIEW",
    "VIRTUAL", "WINDOW", "WITH", "WITHOUT"]

/-- Words that compare texts with patterns. -/
def patternWords : List String := ["LIKE", "GLOB", "REGEXP", "MATCH"]

namespace Token

/-- Whether a token is a name where anything else might stand as well. -/
def isIdentifier (t : Token) : Bool :=
  match t.kind with
  | .quotation | .quotedName => true
  | .word => !(reservedWords ++ joinWords ++ ["INDEXED"]).contains t.keyword
  | _ => false

/-- Whether a token can begin an operand as a name. -/
def isOperandName (t : Token) : Bool :=
  t.isIdentifier || (joinWords ++ ["INDEXED"]).contains t.keyword

/-- Whether a token is a name where only a name may stand. -/
def isName (t : Token) : Bool := t.isOperandName || t.kind == .text

/-- Whether a token is a name that something is given without `AS`. -/
def isGivenName (t : Token) : Bool :=
  (t.isIdentifier && !patternWords.contains t.keyword) || t.kind == .text

/-- Whether a token is a name for what stands in front of it. -/
def isNameAhead (t : Token) : Bool :=
  t.isName && t.keyword != "INDEXED" && t.upperWord != "FILTER"

/-- Whether a word begins a clause, as the token before it and those behind it tell. -/
def beginsClause (before : Option Token) (t : Token) (behind : List Token) : Bool :=
  let closed := before.any fun b => b.isSymbol ")"
  let isNext := fun (test : Token → Bool) => behind.head?.any test
  match t.upperWord with
  | "WINDOW" => isNext isNameAhead && behind[1]?.any fun t => t.keyword == "AS"
  | "OVER" => closed && isNext fun t => t.isSymbol "(" || t.isNameAhead
  | "FILTER" => closed && isNext fun t => t.isSymbol "("
  | _ => false

end Token

/-- A name as it is written in a statement: in quotation marks if it is no plain word. -/
def quotedIfNeeded (name : String) : String :=
  let word := String.ofList (name.toList.map Char.toUpper)
  let isPlain := name.toList.all (fun c => c.isAlphanum || c == '_') &&
    !(name.toList.head?.all Char.isDigit) &&
    !(reservedWords ++ joinWords ++ softWords).contains word
  if isPlain then name else "\"" ++ "\"\"".intercalate (name.splitOn "\"") ++ "\""

/-- Tokens in which the words that begin clauses are marked. -/
def markClauses (before : Option Token) : List Token → List Token
  | [] => []
  | t :: ts =>
    (if t.beginsClause before ts then { t with kind := .clause } else t) ::
      markClauses (some t) ts

end Sql
end ReportQuery
