/-
# What expressions mean

Once its names are settled, an expression means a function from the rows at hand to a
value.  The rows at hand are one for each query around the expression, the innermost
first; a query that groups its rows has a whole group at hand as well.

A row holds the outcomes of computing its values, so that a value whose computing fails
does no harm as long as nothing looks at it.

A meaning also tells what the value's surroundings have to know: how it likes to be
compared, which classes of values it may have, which queries' rows it looks at, and whether
it makes one value of a group or looks at a window.
-/

import ReportQuery.Sql.Fault
import ReportQuery.Sql.Value

namespace ReportQuery
namespace Sql

/-- What computing a value comes to. -/
abbrev Outcome := Except Fault Value

/-- A row at hand, the rows of its group, and what the windows around it come to. -/
structure Frame where
  row : List Outcome
  group : List (List Outcome) := []
  windows : List Value := []

/-- A value that depends on the rows at hand. -/
abbrev Dependent := List Frame → Outcome

/-- How the values of an expression are collated, and whether the expression says so itself. -/
structure Collating where
  name : String
  explicit : Bool
deriving DecidableEq, Repr

/-- The classes of values that an expression may have, null apart. -/
structure ValueClasses where
  numbers : Bool := false
  texts : Bool := false
  blobs : Bool := false
deriving DecidableEq, Repr

namespace ValueClasses

/-- All classes. -/
def all : ValueClasses := ⟨true, true, true⟩

/-- The classes of either of two expressions. -/
def or (a b : ValueClasses) : ValueClasses :=
  ⟨a.numbers || b.numbers, a.texts || b.texts, a.blobs || b.blobs⟩

/-- The class of a value. -/
def ofValue (v : Value) : ValueClasses :=
  match v.storageClass with
  | .null => {}
  | .integer | .real => { numbers := true }
  | .text => { texts := true }
  | .blob => { blobs := true }

/-- The classes that a column may have, by how its values like to be compared. -/
def ofAffinity (a : Affinity) : ValueClasses :=
  if a.isNumeric then ⟨true, false, true⟩ else if a = .text then ⟨false, true, true⟩ else all

end ValueClasses

/-- The meaning of an expression. -/
structure Meaning where
  value : Dependent
  affinity : Affinity := .none
  classes : ValueClasses := { numbers := true }
  collating : Option Collating := none
  /-- The places of rows that it looks at, each behind the number of its query; the
  innermost one is 0. -/
  looks : List (Nat × Nat) := []
  /-- The last aggregate of the innermost query that it holds. -/
  aggregate : Option String := none
  /-- The windows of the innermost query that it looks at, by their places. -/
  windows : List Nat := []
  /-- The name of the column that it is. -/
  column : Option String := none
  /-- The truth value that it is the name of. -/
  truth : Option Bool := none

/-- The meaning of what depends on nothing. -/
def Meaning.constant (c : Value) : Meaning where
  value _ := .ok c
  classes := .ofValue c

/-- The meaning of a truth value. -/
def Meaning.ofTruth (value : Bool) : Meaning :=
  { Meaning.constant (.ofTruth value) with truth := some value }

/-- A meaning, as it is from within more queries. -/
def Meaning.within (queries : Nat) (m : Meaning) : Meaning :=
  if queries = 0 then m
  else { m with
    value := fun frames => m.value (frames.drop queries)
    looks := m.looks.map fun (level, index) => (level + queries, index)
    aggregate := none
    windows := [] }

/-- The values of some meanings, from the first one on. -/
def valuesOf (ms : List Meaning) (frames : List Frame) : Except Fault (List Value) :=
  ms.mapM fun m => m.value frames

/-- Whether all of some conditions hold. -/
def holdAll (conditions : List Meaning) (frames : List Frame) : Except Fault Bool :=
  conditions.allM fun m => do return (← m.value frames).truth? = some true

/-- The outcomes of some meanings. -/
def outcomesOf (ms : List Meaning) (frames : List Frame) : List Outcome :=
  ms.map fun m => m.value frames

/-- The values of a row, if computing none of them fails, as they are stored. -/
def storedRow (row : List Outcome) : Except Fault (List Value) :=
  row.mapM fun outcome => Value.plain <$> outcome

/-- Whether a meaning looks at places of the query's own rows from some place on. -/
def Meaning.looksBeyond (place : Nat) (m : Meaning) : Bool :=
  m.looks.any fun (level, index) => level == 0 && place ≤ index

/-- A row of nulls. -/
def nulls (width : Nat) : List Outcome := List.replicate width (.ok .null)

/-- A meaning made of others: it looks at what they look at. -/
def Meaning.ofParts (parts : List Meaning) (value : Dependent) : Meaning where
  value
  collating := (parts.filterMap Meaning.collating).find? Collating.explicit
  looks := parts.flatMap Meaning.looks
  aggregate := parts.reverse.findSome? Meaning.aggregate
  windows := parts.flatMap Meaning.windows

/-- A function of the values of some meanings. -/
def Meaning.map (parts : List Meaning) (f : List Value → Except Fault Value) : Meaning :=
  .ofParts parts fun frames => do f (← valuesOf parts frames)

/-- An expression of one or several values; the flag says that it is a query. -/
structure Tuple where
  members : List Meaning
  isQuery : Bool := false

end Sql
end ReportQuery
