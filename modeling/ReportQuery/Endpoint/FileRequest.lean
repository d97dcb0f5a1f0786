/-
# What an SQLite database is opened with

The name of a database file may be a URI itself, `file:` with a path and options,
and its options settle the access to the file anew.

* Behind `//` stands an authority, up to a slash, which has to be empty or
  `localhost`.
* The path ends before `?`, and the options before `#`.  Options are `name=value`
  joined by `&`; one without a name is passed over.
* `%` with two hexadecimal digits stands for a byte.  A null byte ends the path,
  name or value that it stands in.

| option | values |
| --- | --- |
| `mode` | `ro`, `rw`, `rwc`, `memory` |
| `cache` | `shared`, `private` |
| `vfs` | the name of a file system layer |

A mode must not allow more than has been allowed, and where the database is in
memory all is.  Where a URL says more about the file than its name, the name is not
a URI.
-/

import ReportQuery.Endpoint.File

namespace ReportQuery
namespace Endpoint

/-- What may be done with a file; each access allows what those before it do. -/
inductive Access where
  | none
  | read
  | write
  | create
deriving DecidableEq, Repr

/-- The rank of an access: one of a higher rank allows more. -/
def Access.rank : Access → Nat
  | .none => 0
  | .read => 1
  | .write => 2
  | .create => 3

/-- What a database is opened with. -/
structure FileRequest where
  path : String
  access : Access
  inMemory : Bool
  /-- The name of a file system layer. -/
  layer : String := "unix"
deriving DecidableEq

namespace FileRequest

/-- The text of bytes up to a null. -/
def textUntilNull (bytes : List UInt8) : String := Text.readUtf8 (bytes.takeWhile (· != 0))

/-- The text of a part of a URI. -/
def decodePart (cs : List Char) : String := textUntilNull (unescape (Text.bytes cs))

/-- The access and the place that a mode stands for. -/
def modes : List (String × Access × Bool) :=
  [("ro", .read, false), ("rw", .write, false), ("rwc", .create, false), ("memory", .none, true)]

/-- Sets the mode. -/
def setMode (r : FileRequest) (value : String) : Except DatabaseError FileRequest :=
  match modes.lookup value with
  | none => .error (.reported 1 ("no such access mode: " ++ value))
  | some (access, inMemory) =>
    if !r.inMemory ∧ r.access.rank < access.rank then
      .error (.reported 3 ("access mode not allowed: " ++ value))
    else .ok { r with access, inMemory }

/-- Reads an option. -/
def read (r : FileRequest) (name value : String) : Except DatabaseError FileRequest :=
  match name with
  | "vfs" => .ok { r with layer := value }
  | "cache" =>
    if ["shared", "private"].contains value then .ok r
    else .error (.reported 1 ("no such cache mode: " ++ value))
  | "mode" => r.setMode value
  | _ => .ok r

/-- The names and values of the options of a URI. -/
def options (cs : List Char) : List (String × String) :=
  let pairs := (Text.parts '&' cs).map fun part =>
    let (name, value) := Text.cut '=' part
    (decodePart name, decodePart value)
  pairs.filter fun (name, _) => !name.isEmpty

/-- The text behind the authority of a URI. -/
def behindAuthority : List Char → Except DatabaseError (List Char)
  | '/' :: '/' :: cs =>
    let authority := String.ofList (cs.takeWhile (· != '/'))
    if authority.isEmpty ∨ authority = "localhost" then .ok (cs.dropWhile (· != '/'))
    else .error (.reported 1 ("invalid uri authority: " ++ authority))
  | cs => .ok cs

/-- Reads a URI from behind `file:`. -/
def ofUri (r : FileRequest) (cs : List Char) : Except DatabaseError FileRequest := do
  let cs ← behindAuthority cs
  let (path, rest) := Text.cut '?' (cs.takeWhile (· != '#'))
  (options rest).foldlM (fun r (name, value) => r.read name value)
    { r with path := decodePart path }

/-- The file system layers. -/
def layers : List String := ["unix", "unix-none", "unix-dotfile", "unix-excl", "memdb"]

/-- Checks that there is a file system layer of the name. -/
def checkLayer (r : FileRequest) : Except DatabaseError FileRequest :=
  if layers.contains r.layer then .ok r
  else .error (.reported 1 ("no such vfs: " ++ r.layer))

/-- What the database of a file is opened with.  A blank in the name of a layer is
handed on as a plus. -/
def ofFile (f : File) : Except DatabaseError FileRequest := do
  let access := if f.readOnly then Access.read else if f.create then .create else .write
  let name := f.name.toList
  let r : FileRequest := { path := f.name, access, inMemory := f.inMemory }
  let r ←
    if f.immutable ∨ f.layer.isSome then
      let path := textUntilNull (Text.bytes name)
      let layer := f.layer.map fun layer =>
        textUntilNull (Text.bytes (layer.toList.map fun c => if c = ' ' then '+' else c))
      pure { r with path, layer := layer.getD r.layer }
    else if name.contains '\x00' then
      throw (.communication "filename passed to SQLite must not contain nul bytes")
    else match name with
      | 'f' :: 'i' :: 'l' :: 'e' :: ':' :: cs => r.ofUri cs
      | _ => pure r
  r.checkLayer

end FileRequest

end Endpoint
end ReportQuery
