/-
# Which functions there are

A function is found by its name in lower case and by the number of its arguments, which
may also tell a function of values and an aggregate of one name apart.
-/

namespace ReportQuery
namespace Sql

/-- The functions of values, with the least and the largest number of arguments. -/
def scalarFunctions : List (String × Nat × Option Nat) :=
  [("->", 2, some 2), ("->>", 2, some 2), ("abs", 1, some 1), ("changes", 0, some 0),
    ("char", 0, none), ("coalesce", 2, none), ("concat", 1, none), ("concat_ws", 2, none),
    ("current_date", 0, some 0), ("current_time", 0, some 0), ("current_timestamp", 0, some 0),
    ("date", 0, none), ("datetime", 0, none), ("format", 0, none), ("glob", 2, some 2),
    ("hex", 1, some 1), ("ifnull", 2, some 2), ("iif", 3, some 3), ("instr", 2, some 2),
    ("json", 1, some 1), ("json_array", 0, none), ("json_array_length", 1, some 2),
    ("json_error_position", 1, some 1), ("json_extract", 0, none), ("json_insert", 0, none),
    ("json_object", 0, none), ("json_patch", 2, some 2), ("json_pretty", 1, some 2),
    ("json_quote", 1, some 1), ("json_remove", 0, none), ("json_replace", 0, none),
    ("json_set", 0, none), ("json_type", 1, some 2), ("json_valid", 1, some 2),
    ("jsonb", 1, some 1), ("jsonb_array", 0, none), ("jsonb_extract", 0, none),
    ("jsonb_insert", 0, none), ("jsonb_object", 0, none), ("jsonb_patch", 2, some 2),
    ("jsonb_remove", 0, none), ("jsonb_replace", 0, none), ("jsonb_set", 0, none),
    ("julianday", 0, none), ("last_insert_rowid", 0, some 0), ("length", 1, some 1),
    ("like", 2, some 3), ("likelihood", 2, some 2), ("likely", 1, some 1),
    ("load_extension", 1, some 2), ("lower", 1, some 1), ("ltrim", 1, some 2),
    ("match", 2, some 2), ("matchinfo", 1, some 2), ("max", 2, none), ("min", 2, none),
    ("nullif", 2, some 2), ("octet_length", 1, some 1), ("offsets", 1, some 1),
    ("optimize", 1, some 1), ("printf", 0, none), ("quote", 1, some 1), ("random", 0, some 0),
    ("randomblob", 1, some 1), ("replace", 3, some 3), ("round", 1, some 2), ("rtrim", 1, some 2),
    ("sign", 1, some 1), ("snippet", 0, none), ("soundex", 1, some 1),
    ("sqlite_compileoption_get", 1, some 1), ("sqlite_compileoption_used", 1, some 1),
    ("sqlite_log", 2, some 2),
    ("sqlite_source_id", 0, some 0), ("sqlite_version", 0, some 0), ("strftime", 0, none),
    ("substr", 2, some 3), ("substring", 2, some 3), ("subtype", 1, some 1), ("time", 0, none),
    ("timediff", 2, some 2), ("total_changes", 0, some 0), ("trim", 1, some 2),
    ("typeof", 1, some 1), ("unhex", 1, some 2), ("unicode", 1, some 1), ("unixepoch", 0, none),
    ("unlikely", 1, some 1), ("upper", 1, some 1), ("zeroblob", 1, some 1)]

/-- The aggregates, with the least and the largest number of arguments. -/
def aggregates : List (String × Nat × Nat) :=
  [("avg", 1, 1), ("count", 0, 1), ("group_concat", 1, 2), ("json_group_array", 1, 1),
    ("json_group_object", 2, 2), ("jsonb_group_array", 1, 1), ("jsonb_group_object", 2, 2),
    ("max", 1, 1), ("min", 1, 1), ("string_agg", 2, 2), ("sum", 1, 1), ("total", 1, 1)]

/-- The functions that need a window, with the least and the largest number of arguments. -/
def windowFunctions : List (String × Nat × Nat) :=
  [("cume_dist", 0, 0), ("dense_rank", 0, 0), ("first_value", 1, 1), ("lag", 1, 3),
    ("last_value", 1, 1), ("lead", 1, 3), ("nth_value", 2, 2), ("ntile", 1, 1),
    ("percent_rank", 0, 0), ("rank", 0, 0), ("row_number", 0, 0)]

/-- What the name of a function and the number of its arguments say. -/
inductive FunctionKind where
  | scalar
  | aggregate
  | window
  | wrongCount
  | unknown
deriving DecidableEq, Repr

/-- Looks a function up by its name in lower case. -/
def FunctionKind.find (name : String) (count : Nat) : FunctionKind :=
  let isAmong := fun (functions : List (String × Nat × Nat)) =>
    functions.any fun (known, least, most) => known == name && least ≤ count && count ≤ most
  let isScalar := scalarFunctions.any fun (known, least, most) =>
    known == name && least ≤ count && (most.all fun most => count ≤ most)
  let isKnown := aggregates.any (·.1 == name) || scalarFunctions.any (·.1 == name) ||
    windowFunctions.any (·.1 == name)
  if isAmong aggregates then .aggregate
  else if isAmong windowFunctions then .window
  else if isScalar then .scalar
  else if isKnown then .wrongCount
  else .unknown

end Sql
end ReportQuery
