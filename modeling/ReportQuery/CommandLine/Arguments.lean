/-
# Reading the arguments of a command

Arguments are taken one by one.

* `--name` begins an option, whose value is the next argument; `--name=value`
  holds the value.
* `-x` begins an option by its letter; the rest of the argument, with or without
  `=`, is the value if there is any.
* `--help` and `-h` ask for help.
* `--` says that no option follows; as the commands take nothing but options, no
  argument may follow it.
* Any other argument, a lone `-` among them, is the value of the option that
  was begun last.

The value of an option is read when the next option begins, and at the end.  An
argument that is not known is a fault at once, also where an earlier value is
faulty.
-/

import ReportQuery.CommandLine.Setting
import ReportQuery.Text.Cut

namespace ReportQuery
namespace CommandLine

/-- What has been read: the settings, and the option that waits for its value or
whose value waits to be read. -/
structure Reading where
  settings : List Setting := []
  pending : Option (OptionName × Option String) := none
deriving DecidableEq

/-- What an argument begins. -/
inductive Mark where
  /-- An option, with its value if the argument holds it. -/
  | option (name : OptionName) (value : Option String)
  | help (value : Option String)
  | unknown
  /-- No option follows. -/
  | ending
  /-- The argument begins nothing. -/
  | plain (text : String)
deriving DecidableEq

namespace Reading

/-- Adds a setting. -/
def assign (r : Reading) (o : OptionName) (value : String) : Except Misuse Reading :=
  if !o.repeatable ∧ r.settings.any (·.option = o) then .error .repeatedOption
  else (o.read value).map fun s => { r with settings := r.settings ++ [s] }

/-- Reads the value that waits. -/
def settle (r : Reading) : Except Misuse Reading :=
  match r.pending with
  | none => .ok r
  | some (_, none) => .error .missingValue
  | some (o, some value) => { r with pending := none }.assign o value

end Reading

/-- The text behind the name of a long option: a value behind `=`, or none. -/
def attached (cs : List Char) : String × Option String :=
  let (name, value) := Text.cut '=' cs
  (String.ofList name, if cs.contains '=' then some (String.ofList value) else none)

/-- What an argument begins, where some options are known. -/
def Mark.ofArgument (known : List OptionName) (argument : String) : Mark :=
  match argument.toList with
  | ['-', '-'] => .ending
  | '-' :: '-' :: rest =>
    let (name, value) := attached rest
    if name = "help" then .help value
    else match known.find? (·.long = name) with
      | some o => .option o value
      | none => .unknown
  | '-' :: c :: rest =>
    if c = 'h' then .help none
    else match known.find? (·.letter? = some c) with
      | some o =>
        .option o (match rest with
          | [] => none
          | '=' :: value => some (String.ofList value)
          | value => some (String.ofList value))
      | none => .unknown
  | _ => .plain argument

/-- Reads the arguments of a command behind what has been read. -/
def readFrom (known : List OptionName) : Reading → List String → Except Misuse (List Setting)
  | r, [] => do return (← r.settle).settings
  | r, argument :: more =>
    match Mark.ofArgument known argument with
    | .option o (some value) => do
      let r ← r.settle
      readFrom known (← r.assign o value) more
    | .option o none => do
      let r ← r.settle
      readFrom known { r with pending := some (o, none) } more
    | .help (some _) => .error .unneededValue
    | .help none => do
      let _ ← r.settle
      throw .helpWanted
    | .unknown => .error .unknownArgument
    | .ending => if more.isEmpty then do return (← r.settle).settings else .error .unknownArgument
    | .plain text =>
      match r.pending with
      | some (o, none) => readFrom known { r with pending := some (o, some text) } more
      | _ => .error .unknownArgument

end CommandLine
end ReportQuery
