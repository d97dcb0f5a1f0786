/-
# Where a database is

A URL tells the kind of its database and where the database is: on a server, or in a
file or in memory.
-/

import ReportQuery.Endpoint.FileRequest
import ReportQuery.Endpoint.Server

namespace ReportQuery

/-- Where a database is. -/
inductive Endpoint where
  | server (s : Endpoint.Server)
  | file (f : Endpoint.File)
deriving DecidableEq

/-- Where the database of a URL is. -/
def Endpoint.ofUrl (database : Database) (url : String) : Except SettingsFault Endpoint :=
  match database with
  | .sqlite => (Endpoint.File.ofText url.toList).map .file
  | .mysql | .postgres =>
    (Endpoint.Server.ofText database ((url.toList.dropWhile (· != '/')).drop 2)).map .server

end ReportQuery
