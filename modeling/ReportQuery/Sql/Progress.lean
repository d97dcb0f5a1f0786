/-
# Settling what a statement means

What is wrong with an expression mostly ends the settling at once.  A fault within a
function does not: the next names and functions are still looked at, and the last fault
found counts (`note`).  Only what is neither a name nor a function ends the settling then
(`proceed`).

And some faults are put off until all names of the statement are settled (`later`).  Of
those the first stage of running the statement counts that has any, and of one stage the
last one found (`inStage`).

While a query is settled, its aggregates and its windows are gathered.
-/

import ReportQuery.Sql.Group
import ReportQuery.Sql.Windowing

namespace ReportQuery
namespace Sql

/-- The stages in which a query is run. -/
inductive Stage where
  | sources
  | order
  | limit
  | condition
  | results
deriving DecidableEq, Repr

/-- The place of a stage in their order. -/
def Stage.rank : Stage → Nat
  | .sources => 0
  | .order => 1
  | .limit => 2
  | .condition => 3
  | .results => 4

/-- A fault that is put off, and the stage that meets it. -/
structure LateFault where
  stage : Stage
  fault : Fault
deriving DecidableEq, Repr

/-- Which of two faults counts; the second one was found behind the first one. -/
def LateFault.sooner (a b : LateFault) : LateFault :=
  if a.stage.rank < b.stage.rank then a else b

/-- A function that looks at a window, with its window as it is written, which tells whether it
is the same as another one.  It may be the repetition of one in a result that the order refers
to. -/
structure FoundWindow where
  written : Window
  isRepeated : Bool := false
  plan : WindowPlan
  call : WindowCall

/-- What has been found so far: the last fault within a function, the fault that counts of
those put off, the aggregates and the windows of a query, and the places of rows that names
refer to. -/
structure Progress where
  noted : Option Fault := none
  late : Option LateFault := none
  aggregates : List Aggregate := []
  windows : List FoundWindow := []
  looks : List (Nat × Nat) := []

/-- Settling a part of a statement. -/
abbrev Settling := StateT Progress (Except Fault)

/-- Notes a fault, in place of one that has been noted before. -/
def note (fault : Fault) : Settling Unit := modify fun p => { p with noted := some fault }

/-- Ends the settling if a fault has been noted. -/
def proceed : Settling Unit := do
  if let some fault := (← get).noted then throw fault

/-- Settles a part, and notes its fault if it has one. -/
def noting {α : Type} (fallback : α) (part : Settling α) : Settling α := fun p =>
  match part p with
  | .ok result => .ok result
  | .error fault => .ok (fallback, { p with noted := some fault })

/-- Adds a fault that is put off to what has been found. -/
def Progress.add (p : Progress) (late : LateFault) : Progress :=
  { p with late := some ((p.late.map fun known => known.sooner late).getD late) }

/-- Puts a fault off until all names are settled. -/
def later (fault : Fault) : Settling Unit := modify fun p => p.add ⟨.results, fault⟩

/-- Settles a part that is met in a stage, whatever stages of its own it has. -/
def inStage {α : Type} (stage : Stage) (part : Settling α) : Settling α := do
  let before := (← get).late
  modify fun p => { p with late := none }
  let result ← part
  let own := (← get).late
  modify fun p => { p with late := before }
  if let some late := own then modify fun p => p.add ⟨stage, late.fault⟩
  return result

/-- Settles a part whose late fault counts only if there is none before it. -/
def keepingFirst {α : Type} (part : Settling α) : Settling α := do
  let before := (← get).late
  let result ← part
  if before.isSome then modify fun p => { p with late := before }
  return result

/-- The only value of an expression. -/
def Tuple.single (t : Tuple) : Settling Meaning := do
  match t.members with
  | [m] => return m
  | members =>
    later (if t.isQuery then .subqueryColumns members.length 1 else .misusedRow)
    return .ofParts members fun _ => .ok .null

/-- The collation of a meaning, which has to be known. -/
def collationOf (collating : Option Collating) : Settling Collation := do
  match collating with
  | none => return .binary
  | some c =>
    match Collation.ofName? c.name with
    | some collation => return collation
    | none =>
      later (.unknownCollation c.name)
      return .binary

end Sql
end ReportQuery
