/-
# Servers

The URL of a MySQL or a PostgreSQL database gives the location of a server, and its
parameters settle more.  Parameters are read in order, and those that mean nothing
are passed over.

| parameter | MySQL | PostgreSQL |
| --- | --- | --- |
| `sslmode`, `ssl-mode` | one of five modes | one of six modes |
| `statement-cache-capacity` | a number of 64 bits | a number of 64 bits |
| `charset`, `collation` | any | |
| `socket` | a path | |
| `host` | | a host, or the directory of a socket |
| `hostaddr` | | a numeric address |
| `port` | | a number of 16 bits |

Names and the path are checked to be UTF-8.  A PostgreSQL host that begins with an
escaped slash is the directory of a socket.
-/

import ReportQuery.Database
import ReportQuery.Decimal.Whole
import ReportQuery.Endpoint.Charset
import ReportQuery.Endpoint.Location
import ReportQuery.Endpoint.Parameters
import ReportQuery.Endpoint.Path

namespace ReportQuery
namespace Endpoint

/-- What a URL settles about a server. -/
structure Server where
  database : Database
  host : List Char := []
  /-- The path of a socket, or the directory of one, to be used in place of the network. -/
  socket : Option String := none
  portNumber : Nat := 5432
  charset : String := "utf8mb4"
  collation : Option String := none
deriving DecidableEq

namespace Server

/-- The modes of encryption. -/
def sslModes : Database → List String
  | .mysql => ["disabled", "preferred", "required", "verify_ca", "verify_identity"]
  | .postgres => ["disable", "allow", "prefer", "require", "verify-ca", "verify-full"]
  | .sqlite => []

/-- Checks a mode of encryption, in whatever case it is written. -/
def checkSslMode (database : Database) (value : String) : Except SettingsFault Unit :=
  if (sslModes database).contains (String.ofList (value.toList.map Char.toLower)) then .ok ()
  else .error (.unknownSslMode value)

/-- Reads the value of a parameter as a whole number. -/
def readNumber (largest : Nat) (value : String) : Except SettingsFault Nat :=
  (Decimal.readWhole largest value.toList).mapError .notANumber

/-- The largest number of 64 bits. -/
def largestWord : Nat := UInt64.size - 1

/-- Reads a parameter. -/
def read (s : Server) (name value : String) : Except SettingsFault Server :=
  match s.database, name with
  | _, "sslmode" | _, "ssl-mode" => (checkSslMode s.database value).map fun _ => s
  | _, "statement-cache-capacity" => (readNumber largestWord value).map fun _ => s
  | .mysql, "charset" => .ok { s with charset := value }
  | .mysql, "collation" => .ok { s with collation := some value }
  | .mysql, "socket" => .ok { s with socket := some value }
  | .postgres, "host" =>
    .ok (if value.toList.head? = some '/' then { s with socket := some value }
      else { s with host := value.toList })
  | .postgres, "hostaddr" =>
    if isNumeric value.toList then .ok { s with host := value.toList }
    else .error .invalidNumericAddress
  | .postgres, "port" => (readNumber 65535 value).map fun n => { s with portNumber := n }
  | _, _ => .ok s

/-- The directory of a socket in place of a host. -/
def socketOfHost (host : List Char) : Except SettingsFault (Option String) :=
  if (unescape (Text.bytes host)).head? = some '/'.toUInt8 then (decode host).map some
  else .ok none

/-- Reads a URL from behind `//`. -/
def ofText (database : Database) (cs : List Char) : Except SettingsFault Server := do
  let location ← Location.ofText cs
  let socket ← match database with
    | .postgres => socketOfHost location.host
    | _ => pure none
  let _ ← decode location.user
  let _ ← decode location.password
  let _ ← decode (plainPath location.path)
  let portNumber := location.portNumber.getD 5432
  let server : Server := { database, host := location.host, socket, portNumber }
  (parameters location.parameters).foldlM (fun s (name, value) => s.read name value) server

/-- Checks the names that are looked up before a MySQL server is reached. -/
def checkNames (s : Server) : Except SettingsFault Unit :=
  if s.database ≠ .mysql then .ok ()
  else if !isCharset s.charset then .error (.unsupportedCharset s.charset)
  else match s.collation with
    | none => .ok ()
    | some collation =>
      if isCollation collation then .ok () else .error (.unsupportedCollation collation)

/-- The path of the socket, if one is to be used. -/
def socketPath? (s : Server) : Option String :=
  s.socket.map fun path =>
    match s.database with
    | .postgres => path ++ "/.s.PGSQL." ++ toString s.portNumber
    | _ => path

end Server

end Endpoint
end ReportQuery
