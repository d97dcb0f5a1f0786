/-
# Pools of connections

A pool is made from a URL: the scheme tells the kind of database, the rest where
it is and how it is to be opened.  A pool has connections of its own kind only.
-/

import ReportQuery.Endpoint.Basic
import ReportQuery.Execution

namespace ReportQuery

/-- A pool of connections to one database. -/
structure Pool where
  database : Database
  connection : Connection

namespace Pool

/-- The connection of a pool to a kind of database. -/
def connectionTo (p : Pool) (database : Database) : Except Error Connection :=
  if p.database = database then .ok p.connection else .error .noPool

/-- Makes a pool from a URL; `openAt` opens the database that is at a place. -/
def connect (openAt : Endpoint → Except DatabaseError Connection) (url : String) :
    Except Error Pool := do
  match Database.ofUrl? url with
  | none => throw (.unsupportedDatabase url)
  | some database =>
    let endpoint ← (Endpoint.ofUrl database url).mapError fun fault => .database (.settings fault)
    let connection ← (openAt endpoint).mapError .database
    return ⟨database, connection⟩

end Pool

end ReportQuery
