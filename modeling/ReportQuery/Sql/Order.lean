/-
# Orders

How rows are sorted by keys, and made distinct.  Sorting keeps the order of rows that are
equal.
-/

import ReportQuery.Sql.Meaning

namespace ReportQuery
namespace Sql

/-- How the values of a key are ordered. -/
structure KeyOrder where
  collation : Collation := .binary
  descending : Bool := false
  nullsFirst : Bool := true
deriving DecidableEq, Repr

/-- Compares two values of a key. -/
def KeyOrder.compare (k : KeyOrder) (a b : Value) : Ordering :=
  if a = .null then
    if b = .null then .eq else if k.nullsFirst then .lt else .gt
  else if b = .null then if k.nullsFirst then .gt else .lt
  else if k.descending then compareValues k.collation b a
  else compareValues k.collation a b

/-- Compares two lists of keys. -/
def compareKeys : List KeyOrder → List Value → List Value → Ordering
  | k :: ks, a :: as, b :: bs => (k.compare a b).then (compareKeys ks as bs)
  | _, _, _ => .eq

/-- Sorts by keys. -/
def sortByKeys {α : Type} (ks : List KeyOrder) (key : α → List Value) (xs : List α) : List α :=
  xs.mergeSort fun a b => compareKeys ks (key a) (key b) != .gt

/-- Leaves out what has the same key as something before it. -/
def distinctByKeys {α : Type} (ks : List KeyOrder) (key : α → List Value) (xs : List α) :
    List α :=
  (xs.foldl (fun kept x =>
    if kept.any fun y => compareKeys ks (key x) (key y) == .eq then kept else x :: kept) []).reverse

/-- What is ordered by, and how. -/
structure SortTerm where
  key : Meaning
  order : KeyOrder

end Sql
end ReportQuery
