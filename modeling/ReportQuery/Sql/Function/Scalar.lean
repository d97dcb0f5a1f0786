/-
# Functions of values

A function is known by its name in lower case.  Most of them give null when an argument
is null.
-/

import ReportQuery.Sql.Function.Document
import ReportQuery.Sql.Function.Format
import ReportQuery.Sql.Function.Number
import ReportQuery.Sql.Moment.Text

namespace ReportQuery
namespace Sql

/-- A value, or null if one of some others is null. -/
def unlessNull (others : List Value) (c : Value) : Value := if others.contains .null then .null else c

/-- The least or the largest of some values: one takes the place of those before it if it
compares with them as wanted.  Null if one of them is null. -/
def extremeOf (collation : Collation) (isWanted : Ordering → Bool) : List Value → Value
  | [] => .null
  | c :: cs =>
    unlessNull (c :: cs) (cs.foldl (fun best c =>
      if isWanted (compareValues collation c best) then c else best) c)

/-- The most bytes of a pattern. -/
def mostPatternBytes : Nat := 50000

/-- Whether a text matches a pattern, with an optional sign that makes the next character
stand for itself. -/
def likeValue (pattern text : Value) (escape : Option Value) : Except Fault Value :=
  if mostPatternBytes < pattern.bytes.length then .error .longPattern
  else if (pattern :: text :: escape.toList).contains .null then
    match escape with
    | some e => if e ≠ .null ∧ e.chars.length ≠ 1 then .error .escapeLength else .ok .null
    | none => .ok .null
  else
    let matching := fun sign =>
      Value.ofTruth (matchesLike sign (upToNull pattern.chars) (upToNull text.chars))
    match escape.map Value.chars with
    | none => .ok (matching none)
    | some [sign] => .ok (matching (some sign))
    | some _ => .error .escapeLength

/-- The version of the language. -/
def version : String := "3.46.0"

/-- The state of the language's definition. -/
def versionState : String :=
  "2024-05-23 13:25:27 96c92aba00c8375bc32fafcdf12429c58bd8aabfcadab6683e35bbb9cdebf19e"

/-- What the language is built with. -/
def features : List String :=
  ["DEFAULT_FOREIGN_KEYS", "ENABLE_API_ARMOR", "ENABLE_COLUMN_METADATA", "ENABLE_DBSTAT_VTAB",
    "ENABLE_FTS3", "ENABLE_FTS3_PARENTHESIS", "ENABLE_FTS5", "ENABLE_LOAD_EXTENSION",
    "ENABLE_MEMORY_MANAGEMENT", "ENABLE_RTREE", "ENABLE_STAT4", "ENABLE_UNLOCK_NOTIFY",
    "SOUNDEX", "SYSTEM_MALLOC", "TEMP_STORE=1", "THREADSAFE=1", "USE_URI"]

/-- Whether the language is built with something. -/
def hasFeature (cs : List Char) : Bool :=
  let name := cs.map Char.toUpper
  let name := if "SQLITE_".toList.isPrefixOf name then name.drop 7 else name
  features.any fun feature => name == feature.toList || (name ++ ['=']).isPrefixOf feature.toList

/-- Functions of tables for searches, which no such table is there for. -/
def searchFunctions : List (String × String) :=
  [("match", "MATCH"), ("matchinfo", "matchinfo"), ("offsets", "offsets"),
    ("optimize", "optimize"), ("snippet", "snippet")]

/-- So many zero bytes, if a value can hold them. -/
def zeros (count : Int) : Except Fault Value :=
  if (largestText : Int) < count then .error .tooLarge
  else .ok (.blob (List.replicate count.toNat 0))

/-- A text without the letters of a set at some ends; without a set these are blanks. -/
def trimmedText (trim : List (List UInt8) → List (List UInt8) → List (List UInt8)) (v : Value)
    (set : List Value) : Value :=
  let set := (set.head?.map fun set => lettersOf set.bytes).getD [[0x20]]
  .ofTextBytes (trim set (lettersOf v.bytes)).flatten

/-- What functions know besides their arguments: the present instant, and how many rows were changed
last and in all, and the number of the row that was put in last. -/
structure Circumstances where
  now : Int
  changes : Nat := 0
  changesInAll : Nat := 0
  lastRow : Int64 := 0

/-- What a function that takes documents for texts makes of its arguments. -/
def plainValue (known : Circumstances) (name : String) (collation : Collation) (values : List Value) :
    Except Fault Value :=
  match name, values with
  | "abs", [c] => absolute c
  | "load_extension", _ => .error .notAuthorized
  | "randomblob", [c] => zeros (max 1 c.asInteger.toInt)
  | "zeroblob", [c] => zeros c.asInteger.toInt
  | "glob", [pattern, text] =>
    if mostPatternBytes < pattern.bytes.length then .error .longPattern
    else
      let own := upToNull pattern.chars
      .ok (unlessNull [pattern, text]
        (.ofTruth (matchesGlob own.length own (upToNull text.chars))))
  | "like", [pattern, text] => likeValue pattern text none
  | "like", [pattern, text, escape] => likeValue pattern text (some escape)
  | _, _ =>
    match searchFunctions.find? fun (function, _) => function == name with
    | some (_, function) => .error (.unusableFunction function)
    | none => .ok <| match name, values with
      | "format", format :: values | "printf", format :: values =>
        if format = .null then .null else formatted format values
      | "char", values => .ofTextBytes (values.flatMap fun c => letterOf c.asInteger.toInt)
      | "coalesce", values | "ifnull", values => (values.find? (· ≠ .null)).getD .null
      | "concat", values => .ofTextBytes (joined [] values)
      | "concat_ws", separator :: values =>
        unlessNull [separator] (.ofTextBytes (joined separator.bytes values))
      | "hex", [c] => textValue (hexadecimal c.bytes)
      | "iif", [condition, yes, no] => if condition.truth?.getD false then yes else no
      | "instr", [.blob bytes, .blob wanted] => .integer (Int64.ofNat (placeOf wanted bytes))
      | "instr", [text, wanted] =>
        unlessNull values (.integer (Int64.ofNat (placeOf wanted.chars text.chars)))
      | "length", [c] => lengthOf c
      | "likelihood", [c, _] | "likely", [c] | "unlikely", [c] => c
      | "lower", [c] => unlessNull values (.ofTextBytes (c.bytes.map lowerByte))
      | "upper", [c] => unlessNull values (.ofTextBytes (c.bytes.map upperByte))
      | "max", values => extremeOf collation (· == .gt) values
      | "min", values => extremeOf collation (· != .gt) values
      | "nullif", [a, b] =>
        if a ≠ .null ∧ b ≠ .null ∧ compareValues collation a b = .eq then .null else a
      | "octet_length", [c] => unlessNull values (.integer (Int64.ofNat c.bytes.length))
      | "quote", [c] => quote c
      | "replace", [text, old, new] =>
        if text ≠ .null ∧ old ≠ .null ∧ bytesUpToNull old.bytes = [] then .ofTextBytes text.bytes
        else unlessNull values (.ofTextBytes (replaced old.bytes new.bytes 0 text.bytes))
      | "round", [c] => unlessNull values (.real (roundReal 0 c.asReal))
      | "round", [c, places] => unlessNull values (.real (roundReal (placesOf places) c.asReal))
      | "sign", [c] => signOf c
      | "soundex", [c] => textValue (soundOf c.chars)
      | "substr", c :: start :: length | "substring", c :: start :: length =>
        let start := start.asInteger.toInt32.toInt
        let length := length.head?.map fun c => c.asInteger.toInt32.toInt
        unlessNull values (match c with
          | .blob bytes => .blob (portion bytes start length)
          | c =>
            .ofTextBytes (portion (lettersOf (bytesUpToNull c.bytes)) start length).flatten)
      | "trim", c :: set =>
        unlessNull values (trimmedText (fun set => trimmedEnd set ∘ trimmed set) c set)
      | "ltrim", c :: set => unlessNull values (trimmedText trimmed c set)
      | "rtrim", c :: set => unlessNull values (trimmedText trimmedEnd c set)
      | "unhex", c :: set =>
        unlessNull values ((readHexadecimal? ((set.head?.map Value.chars).getD [])
          (upToNull c.chars)).elim .null .blob)
      | "typeof", [c] => textValue (className c)
      | "unicode", [c] =>
        ((upToNull c.chars).head?.map fun c => .integer (Int64.ofNat c.toNat)).getD .null
      | "changes", [] => .integer (Int64.ofNat known.changes)
      | "total_changes", [] => .integer (Int64.ofNat known.changesInAll)
      | "last_insert_rowid", [] => .integer known.lastRow
      | "random", [] => .integer 1
      | "sqlite_compileoption_used", [c] =>
        unlessNull values (.ofTruth (hasFeature (upToNull c.chars)))
      | "sqlite_source_id", [] => .text versionState
      | "sqlite_version", [] => .text version
      | _, _ => (momentValue? known.now name values).getD .null

/-- What a function that is known by its name in lower case makes of its arguments. -/
def scalarValue (known : Circumstances) (name : String) (collation : Collation) (values : List Value) :
    Except Fault Value :=
  match documentFunction? name values with
  | some outcome => outcome
  | none =>
    plainValue known name collation
      (if takesDocuments name then values else values.map Value.plain)

end Sql
end ReportQuery
