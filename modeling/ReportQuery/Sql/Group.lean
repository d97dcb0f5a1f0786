/-
# Groups of rows

A group is made of the rows that have the same keys.  One of them stands for the group: what
is neither a key nor an aggregate is taken from it.  That is the first row, unless the least
or the largest value is looked for: then it is the row that has that value.
-/

import ReportQuery.Sql.Order

namespace ReportQuery
namespace Sql

/-- A look for the least or the largest value among the rows that meet some conditions. -/
structure Extreme where
  wanted : Ordering
  collation : Collation
  compared : Dependent
  conditions : List Dependent

/-- An extreme, as it is one query further out. -/
def Extreme.outward (e : Extreme) : Extreme :=
  let lifted := fun value frames => value ({ row := [] } :: frames)
  { e with compared := lifted e.compared, conditions := e.conditions.map lifted }

/-- An aggregate of a query that many levels out, with its name as it is written; for the
least and the largest value also how it is found. -/
structure Aggregate where
  name : String
  level : Nat
  extreme : Option Extreme := none

/-- An aggregate, as it is one query further out. -/
def Aggregate.outward (a : Aggregate) : Aggregate :=
  { a with level := a.level - 1, extreme := a.extreme.map Extreme.outward }

/-- Looks at a row with each extreme and the value that it has found so far.  The flag tells
whether the row is taken: the last extreme says so whose conditions the row meets, if its
value is better than the one found so far, or nothing has been found.  Where an extreme that
`forgets` stands behind it, whose conditions the row does not meet, the row is not taken. -/
def Extreme.lookAll (forgets : Bool) (frames : List Frame) :
    Bool → List (Extreme × Value) → Except Fault (Bool × List (Extreme × Value))
  | taken, [] => .ok (taken, [])
  | taken, (e, best) :: extremes => do
    if ← e.conditions.allM fun condition => do return (← condition frames).truth? = some true then
      let c ← e.compared frames
      let better := best = .null ∨ (c ≠ .null ∧ compareValues e.collation c best = e.wanted)
      let (taken, extremes) ← lookAll forgets frames better extremes
      return (taken, (e, if better then c else best) :: extremes)
    else
      let (taken, extremes) ← lookAll forgets frames (taken && !forgets) extremes
      return (taken, (e, best) :: extremes)

/-- The row that stands for a group: one behind others, or the one that stands for those. -/
def standsFor (outer : List Frame) (forgets : Bool) (row : List Outcome)
    (extremes : List (Extreme × Value)) : List (List Outcome) → Except Fault (List Outcome)
  | [] => .ok row
  | next :: rows => do
    let (taken, extremes) ← Extreme.lookAll forgets ({ row := next } :: outer) false extremes
    standsFor outer forgets (if taken then next else row) extremes rows

/-- A group with the row that stands for it: the last one that is taken, and the first one is
taken in any case. -/
def groupFrame (outer : List Frame) (width : Nat) (hasKeys : Bool) (extremes : List Extreme)
    (rows : List (List Outcome)) : Except Fault Frame := do
  match rows with
  | [] => return { row := nulls width }
  | first :: rows =>
    let forgets := hasKeys || extremes.all fun e => !e.conditions.isEmpty
    let found := extremes.map fun e => (e, Value.null)
    let (_, found) ← Extreme.lookAll forgets ({ row := first } :: outer) true found
    return { row := ← standsFor outer forgets first found rows, group := first :: rows }

/-- The rows of each key, in the order of keys. -/
def groupByKeys (ks : List KeyOrder) (rows : List (List Value × List Outcome)) :
    List (List (List Outcome)) :=
  let keys := distinctByKeys ks id (sortByKeys ks id (rows.map (·.1)))
  keys.map fun key => (rows.filter fun (k, _) => compareKeys ks k key == .eq).map (·.2)

end Sql
end ReportQuery
