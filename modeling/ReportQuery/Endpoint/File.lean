/-
# Database files

The URL of an SQLite database holds the name of a file, in escaped form, and
parameters.  `:memory:` in place of a name stands for a database in memory.

| parameter | values |
| --- | --- |
| `mode` | `ro`, `rw`, `rwc` (the file is created if it is missing), `memory` |
| `cache` | `private`, `shared` |
| `immutable` | `true`, `1`, `false`, `0` |
| `vfs` | the name of a file system layer |

Parameters are read in order, and the first fault is reported.
-/

import ReportQuery.Endpoint.Parameters

namespace ReportQuery
namespace Endpoint

/-- What a URL settles about a database file. -/
structure File where
  name : String
  inMemory : Bool := false
  readOnly : Bool := false
  create : Bool := false
  immutable : Bool := false
  /-- The name of a file system layer. -/
  layer : Option String := none
deriving DecidableEq

namespace File

/-- The file with another setting, if the value is one of those allowed. -/
def choose (allowed : List (String × File)) (name value : String) : Except SettingsFault File :=
  match allowed.lookup value with
  | some f => .ok f
  | none => .error (.unknownValue name value)

/-- Reads a parameter. -/
def read (f : File) (name value : String) : Except SettingsFault File :=
  match name with
  | "mode" =>
    choose
      [("ro", { f with readOnly := true }), ("rw", f), ("rwc", { f with create := true }),
        ("memory", { f with inMemory := true })]
      name value
  | "cache" => choose [("private", f), ("shared", f)] name value
  | "immutable" =>
    let yes := { f with immutable := true }
    let no := { f with immutable := false }
    choose [("true", yes), ("1", yes), ("false", no), ("0", no)] name value
  | "vfs" => .ok { f with layer := some value }
  | _ => .error (.unknownParameter name)

/-- A text without a beginning that may stand there any number of times. -/
def stripAll (beginning cs : List Char) : List Char :=
  if _begins : beginning.isPrefixOf cs = true ∧ beginning ≠ [] then
    stripAll beginning (cs.drop beginning.length)
  else cs
termination_by cs.length
decreasing_by
  have positive := List.length_pos_iff.mpr _begins.2
  have within := (List.isPrefixOf_iff_prefix.mp _begins.1).length_le
  rw [List.length_drop]
  omega

/-- Reads a URL; its scheme may stand there several times. -/
def ofText (cs : List Char) : Except SettingsFault File := do
  let (name, rest) := Text.cut '?' (stripAll "sqlite:".toList (stripAll "sqlite://".toList cs))
  let file : File ←
    if name = ":memory:".toList then pure { name := ":memory:", inMemory := true }
    else (decode name).map fun name => { name }
  (parameters rest).foldlM (fun f (name, value) => f.read name value) file

end File

end Endpoint
end ReportQuery
