/-
# Kinds of database

The kind of a database is told by the scheme of its URL.  It settles how the
placeholders of a statement are written: as `?` for MySQL and SQLite, and as
`$1`, `$2`, … for PostgreSQL.

A query is built with `?` throughout.  `Database.numberPlaceholders` writes it
for a kind of database: for PostgreSQL it numbers the question marks that stand
outside single quotes, where a quote inside a literal is written twice and so
closes the literal and opens it again.  Double quotes have no meaning to it.
-/

namespace ReportQuery

/-- A kind of database. -/
inductive Database where
  | mysql
  | postgres
  | sqlite
deriving DecidableEq, Repr

namespace Database

/-- What the URLs of a kind of database begin with. -/
def schemes : Database → List String
  | .mysql => ["mysql://", "mariadb://"]
  | .postgres => ["postgres://", "postgresql://"]
  | .sqlite => ["sqlite:"]

/-- Every kind of database. -/
def all : List Database := [.mysql, .postgres, .sqlite]

/-- The kind of database that a URL is for, if its scheme is known. -/
def ofUrl? (url : String) : Option Database :=
  all.find? fun d => d.schemes.any fun scheme => scheme.toList.isPrefixOf url.toList

/-- The placeholder at an index, counted from 0. -/
def placeholder : Database → Nat → String
  | .postgres, index => "$" ++ toString (index + 1)
  | _, _ => "?"

/-- Numbers the question marks outside single quotes, from an index on.  The flag
says whether the text begins inside a literal. -/
def numberFrom (index : Nat) (quoted : Bool) : List Char → List Char
  | [] => []
  | c :: cs =>
    if c = '\'' then c :: numberFrom index (!quoted) cs
    else if c = '?' && !quoted then
      (Database.postgres.placeholder index).toList ++ numberFrom (index + 1) quoted cs
    else c :: numberFrom index quoted cs

/-- A statement with the placeholders of a kind of database in place of `?`. -/
def numberPlaceholders : Database → String → String
  | .postgres, sql => String.ofList (numberFrom 0 false sql.toList)
  | _, sql => sql

end Database

end ReportQuery
