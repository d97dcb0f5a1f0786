/-
# Aggregates

An aggregate makes one value of the arguments of many rows, each a list of values.  It
is known by its name in lower case.
-/

import ReportQuery.Sql.Function.Scalar
import ReportQuery.Sql.Function.Sum

namespace ReportQuery
namespace Sql

/-- What an aggregate that is known by its name in lower case makes of the arguments of
its rows. -/
def aggregateValue (name : String) (collation : Collation) (rows : List (List Value)) :
    Except Fault Value :=
  let values := (rows.filterMap List.head?).filter (· ≠ .null)
  let extreme := fun wanted => extremeOf collation (· == wanted) values
  match name with
  | "count" => .ok (.integer (Int64.ofNat (if rows.all List.isEmpty then rows else
      rows.filter fun row => row.head? != some .null).length))
  | "sum" | "total" | "avg" => (values.foldl RunningSum.add {}).value name
  | "max" => .ok (extreme .gt)
  | "min" => .ok (extreme .lt)
  | "group_concat" | "string_agg" =>
    let rows := rows.filter fun row => row.head? != some .null
    let pieces := rows.zipIdx.map fun (row, index) =>
      let separator := if index = 0 then [] else (row[1]?.map Value.bytes).getD [0x2C]
      separator ++ (row.head?.map Value.bytes).getD []
    .ok (if rows.isEmpty then .null else .ofTextBytes pieces.flatten)
  | _ => (documentAggregate? name rows).getD (.ok .null)

end Sql
end ReportQuery
