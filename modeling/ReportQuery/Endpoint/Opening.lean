/-
# Opening new databases

Databases are opened where no server answers and no database file exists.  What can
be opened is a database in memory, one without a name, which goes away with its
connection, and a new file in a directory that exists.

Directories are taken to exist as on any system of its kind: the current one and
those outside of it, and a few below the root.  `/dev/null` can be opened, and is
empty.
-/

import ReportQuery.EmptyDatabase
import ReportQuery.Endpoint.Basic

namespace ReportQuery
namespace Endpoint

/-! ## Places -/

/-- What is at a path. -/
inductive Place where
  | directory
  /-- Nothing, yet a file can be put there. -/
  | vacant
  /-- An empty file. -/
  | emptyFile
  /-- A file that holds something else than a database. -/
  | otherFile
  /-- Nothing, since a file stands in place of one of the directories. -/
  | belowFile
  /-- Nothing that can be opened. -/
  | unreachable
deriving DecidableEq, Repr

/-- The names in a path that are left when those that mean nothing and those that are
left again are taken away; in reverse order, behind others. -/
def walk (outer : List String) : List String → List String
  | [] => outer
  | name :: more =>
    if name = "" ∨ name = "." then walk outer more
    else if name = ".." then walk outer.tail more
    else walk (name :: outer) more

/-- The directories below the root. -/
def rootDirectories : List String :=
  ["bin", "boot", "dev", "etc", "home", "lib", "media", "mnt", "opt", "proc", "root", "run",
    "sbin", "srv", "sys", "tmp", "usr", "var"]

/-- Directories below those, with the name of the outer one. -/
def innerDirectories : List (String × String) :=
  [("dev", "shm"), ("usr", "bin"), ("usr", "lib"), ("usr", "local"), ("usr", "sbin"),
    ("usr", "share"), ("var", "cache"), ("var", "lib"), ("var", "log"), ("var", "tmp")]

/-- Whether names, given from the last one on, lead to a directory. -/
def isDirectory : List String → Bool
  | [] => true
  | [name] => rootDirectories.contains name
  | [name, outer] => innerDirectories.contains (outer, name)
  | _ => false

/-- Directories in which no file can be put. -/
def closedDirectories : List String := ["proc", "sys"]

/-- Files below `/etc`. -/
def configurationFiles : List String := ["group", "hostname", "hosts", "passwd", "resolv.conf"]

/-- What is at an absolute path, whose names are given from the last one on. -/
def Place.ofNames : List String → Place
  | [] => .unreachable
  | ["null", "dev"] => .emptyFile
  | name :: outer =>
    if isDirectory (name :: outer) then .directory
    else if outer = ["etc"] ∧ configurationFiles.contains name then .otherFile
    else if isDirectory outer then
      if outer.any closedDirectories.contains then .unreachable else .vacant
    else match Place.ofNames outer with
      | .emptyFile | .otherFile | .belowFile => .belowFile
      | _ => .unreachable

/-- What is at a path within the current directory, whose names are given from the
last one on. -/
def Place.ofNamesWithin : List String → Place
  | [] => .directory
  | [_] => .vacant
  | _ => .unreachable

/-- The length of the longest name of a file, in bytes. -/
def longestName : Nat := 255

/-- The length of the longest path of a database file, in bytes. -/
def longestPath : Nat := 504

/-- What is at a path. -/
def Place.ofPath (path : String) : Place :=
  let names := (Text.parts '/' path.toList).map String.ofList
  let absolute := path.toList.head? = some '/'
  if longestPath < path.utf8ByteSize ∨ names.any (longestName < ·.utf8ByteSize) then .unreachable
  else if absolute then Place.ofNames (walk [] names)
  else Place.ofNamesWithin (walk [] names)

/-! ## Files -/

/-- The error of a file that cannot be opened. -/
def cannotOpen : DatabaseError := .reported 14 "unable to open database file"

/-- What a file that holds no database answers to any statement. -/
def foreignConnection : Connection := fun _ => [.error (.reported 26 "file is not a database")]

/-- Opens a database. -/
def FileRequest.connect (r : FileRequest) : Except DatabaseError Connection :=
  if r.inMemory ∨ r.path = ":memory:" ∨ r.path = "" ∨ r.layer = "memdb" then
    .ok EmptyDatabase.connection
  else match Place.ofPath r.path with
    | .emptyFile => .ok EmptyDatabase.connection
    | .otherFile => .ok foreignConnection
    | .vacant => if r.access = .create then .ok EmptyDatabase.connection else .error cannotOpen
    | .directory =>
      if r.access = .read then .error (.reported 266 "disk I/O error") else .error cannotOpen
    | .belowFile | .unreachable => .error cannotOpen

/-! ## Servers -/

/-- The length of the longest path or name of a socket, in bytes. -/
def longestSocketPath : Nat := 107

/-- Whether a text has more bytes than the path or the name of a socket may have. -/
def isLongForSocket (cs : List Char) : Bool := longestSocketPath < (Text.bytes cs).length

/-- Why a socket outside of the file system cannot be reached: it has to have a name
that is not too long, and then it refuses. -/
def namedSocketError (name : List Char) : DatabaseError :=
  if name.isEmpty then .communication "Invalid argument (os error 22)"
  else if isLongForSocket name then
    .communication "abstract socket name must be shorter than SUN_LEN"
  else .poolTimedOut

/-- Why a socket at a path cannot be reached.  A path that begins with a null names a
socket outside of the file system.  What is no socket refuses, and the pool goes on
trying until its time is up. -/
def socketError (path : List Char) : DatabaseError :=
  match path with
  | [] => .communication "Invalid argument (os error 22)"
  | '\x00' :: name => namedSocketError name
  | path =>
    if path.contains '\x00' then .communication "paths must not contain interior null bytes"
    else if isLongForSocket path then .communication "path must be shorter than SUN_LEN"
    else match Place.ofPath (String.ofList path) with
      | .directory | .emptyFile | .otherFile => .poolTimedOut
      | .belowFile => .communication "Not a directory (os error 20)"
      | .vacant | .unreachable => .communication "No such file or directory (os error 2)"

/-- Why a host cannot be reached: its name has to be free of nulls, and then no server
answers until the time of the pool is up. -/
def hostError (host : List Char) : DatabaseError :=
  if host.contains '\x00' then .communication "file name contained an unexpected NUL byte"
  else .poolTimedOut

/-- Why a server cannot be reached. -/
def Server.error (s : Server) : DatabaseError :=
  match s.checkNames with
  | .error fault => .settings fault
  | .ok () =>
    match s.socketPath? with
    | some path => socketError path.toList
    | none => hostError s.host

/-- Opens a new database. -/
def openNew : Endpoint → Except DatabaseError Connection
  | .server s => .error s.error
  | .file f => do (← FileRequest.ofFile f).connect

end Endpoint
end ReportQuery
