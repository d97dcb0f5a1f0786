/-
# Working with rows

How the rows of a query come about: sources are joined, rows that do not meet a condition
are left out, the others are grouped, windows are laid over them, and results are ordered,
made distinct and cut.

Rows come one after the other, and nothing behind the last one that is asked for is computed.
What has to be sorted or grouped is computed as a whole, and so are all sources but the
first one.
-/

import ReportQuery.Sql.Group
import ReportQuery.Sql.Scope
import ReportQuery.Sql.Sequence
import ReportQuery.Sql.Windowing

namespace ReportQuery
namespace Sql

/-- A row, with the outcomes of computing its values. -/
abbrev OutcomeRow := List Outcome

/-- Rows that depend on the rows at hand around them. -/
abbrev DependentRows := List Frame → Sequence OutcomeRow

/-- The meaning of a query: its columns for a query around it, those that its values have within
an expression, and its rows. -/
structure Relation where
  columns : List ResultColumn
  results : List ResultColumn
  rows : DependentRows

/-- The rows of a sequence as they are stored. -/
def storedRows (rows : Sequence OutcomeRow) : Except Fault (List (List Value)) :=
  (rows.mapM storedRow).toList

/-- Rows that are stored. -/
def Sequence.ofStored (rows : List (List Value)) : Sequence OutcomeRow :=
  .ofList (rows.map fun row => row.map .ok)

/-! ## Joins -/

/-- A source of rows that is joined to others before it; its own rows may depend on theirs. -/
structure JoinedSource where
  rows : DependentRows
  looksBack : Bool := false
  width : Nat
  join : Join
  conditions : List Meaning

namespace JoinedSource

/-- Rows of the source that are partners of a row of those before it, with their places. -/
def partners (s : JoinedSource) (frames : List Frame) (left : OutcomeRow)
    (right : List OutcomeRow) : Except Fault (List (OutcomeRow × Nat)) :=
  right.zipIdx.filterM fun (r, _) => holdAll s.conditions ({ row := left ++ r } :: frames)

/-- A row joined to each of its partners, or to nulls if it has none and is kept. -/
def joinRow (s : JoinedSource) (left : OutcomeRow) (partners : List (OutcomeRow × Nat)) :
    List OutcomeRow :=
  if partners.isEmpty && s.join.keepsLeft then [left ++ nulls s.width]
  else partners.map fun (r, _) => left ++ r

/-- Joins a source that keeps its rows without a partner to the rows of those before it, which
have so many columns. -/
def joinKeeping (s : JoinedSource) (width : Nat) (frames : List Frame) (right : List OutcomeRow)
    (left : List OutcomeRow) : Except Fault (List OutcomeRow) := do
  let partners ← left.mapM fun l => s.partners frames l right
  let joined := (left.zip partners).flatMap fun (l, rs) => s.joinRow l rs
  let used := partners.flatten.map (·.2)
  let alone := right.zipIdx.filter fun (_, index) => !used.contains index
  return joined ++ alone.map fun (r, _) => nulls width ++ r

/-- Joins a source to the rows of those before it, which have so many columns. -/
def joinTo (s : JoinedSource) (width : Nat) (frames : List Frame) (left : Sequence OutcomeRow) :
    Sequence OutcomeRow :=
  let joinWith := fun right l => Sequence.ofExcept do
    return .ofList (s.joinRow l (← s.partners frames l right))
  if s.looksBack then left.flatMap fun l => .ofExcept do
    return joinWith (← (s.rows ({ row := l } :: frames)).toList) l
  else .ofExcept do
    let right ← (s.rows frames).toList
    if s.join.keepsRight then return .ofList (← s.joinKeeping width frames right (← left.toList))
    else return left.flatMap (joinWith right)

/-- The rows of the first source. -/
def firstRows (s : JoinedSource) (frames : List Frame) : Sequence OutcomeRow :=
  let rows := s.rows (if s.looksBack then { row := [] } :: frames else frames)
  rows.filterM fun row => holdAll s.conditions ({ row } :: frames)

end JoinedSource

/-- Joins sources, one after the other, to those before them.  A condition is looked at as soon
as all sources are there that it looks at, unless rows are kept without a partner. -/
def joinAll (frames : List Frame) (keepsRight : Bool) (width : Nat) (conditions : List Meaning)
    (left : Sequence OutcomeRow) : List JoinedSource → Sequence OutcomeRow
  | [] => left.filterM fun row => holdAll conditions ({ row } :: frames)
  | s :: sources =>
    let joined := if width = 0 then s.firstRows frames else s.joinTo width frames left
    let width := width + s.width
    let (ahead, here) := conditions.partition fun m => keepsRight || m.looksBeyond width
    let kept := if here.isEmpty then joined
      else joined.filterM fun row => holdAll here ({ row } :: frames)
    joinAll frames keepsRight width ahead kept sources

/-! ## Arms -/

/-- The settled parts of an arm. -/
structure ArmPlan where
  sources : List JoinedSource
  conditions : List Meaning
  /-- Whether there is one row for each group. -/
  aggregates : Bool
  groups : List SortTerm
  extremes : List Extreme
  having : List Meaning
  windows : List WindowGroup
  results : List Meaning
  distinct : Option (List KeyOrder)
  order : List SortTerm

namespace ArmPlan

/-- How many columns the joined rows have. -/
def width (p : ArmPlan) : Nat := p.sources.foldl (fun n s => n + s.width) 0

/-- The rows of the sources that meet the conditions. -/
def joined (p : ArmPlan) (outer : List Frame) : Sequence OutcomeRow :=
  joinAll outer (p.sources.any fun s => s.join.keepsRight) 0 p.conditions
    (.ofList [[]]) p.sources

/-- The groups of rows, each with the row that stands for it. -/
def groupFrames (p : ArmPlan) (outer : List Frame) (rows : List OutcomeRow) :
    Except Fault (List Frame) := do
  if p.groups.isEmpty then return [← groupFrame outer p.width false p.extremes rows]
  let keyed ← rows.mapM fun row => do
    return (← valuesOf (p.groups.map SortTerm.key) ({ row } :: outer), row)
  (groupByKeys (p.groups.map SortTerm.order) keyed).mapM
    (groupFrame outer p.width true p.extremes)

/-- The rows or groups that results are computed from. -/
def frames (p : ArmPlan) (outer : List Frame) : Sequence Frame :=
  let all := if p.aggregates then .ofExcept do
      return .ofList (← p.groupFrames outer (← (p.joined outer).toList))
    else (p.joined outer).map fun row => { row }
  let kept := if p.having.isEmpty then all
    else all.filterM fun frame => holdAll p.having (frame :: outer)
  if p.windows.isEmpty then kept
  else .ofExcept do return applyWindows p.windows outer (← kept.toList)

/-- Rows with their keys, without those that are equal to one before them, if none is to be
given twice. -/
def distinctRows (p : ArmPlan) (rows : Sequence (List Value × List Value)) :
    Sequence (List Value × List Value) :=
  match p.distinct with
  | some ks => rows.distinct (fun a b => compareKeys ks a.1 b.1 == .eq) []
  | none => rows

/-- The rows of an arm. -/
def rows (p : ArmPlan) : DependentRows := fun outer =>
  if p.order.isEmpty && p.distinct.isNone then
    (p.frames outer).map fun frame => outcomesOf p.results (frame :: outer)
  else
    let keyed := p.distinctRows ((p.frames outer).mapM fun frame => do
      return (← storedRow (outcomesOf p.results (frame :: outer)),
        ← valuesOf (p.order.map SortTerm.key) (frame :: outer)))
    if p.order.isEmpty then keyed.map fun (row, _) => row.map .ok
    else .ofExcept do
      return .ofStored ((sortByKeys (p.order.map SortTerm.order) (·.2) (← keyed.toList)).map (·.1))

end ArmPlan

/-! ## Queries -/

/-- Sorts rows by all their columns, and leaves out those that are equal to others. -/
def asSet (ks : List KeyOrder) (rows : List (List Value)) : List (List Value) :=
  distinctByKeys ks id (sortByKeys ks id rows)

/-- Whether a row is equal to one of some others. -/
def isAmongRows (ks : List KeyOrder) (rows : List (List Value)) (row : List Value) : Bool :=
  rows.any fun other => compareKeys ks row other == .eq

/-- Joins the rows of two arms. -/
def SetOperator.combine (operator : SetOperator) (ks : List KeyOrder)
    (left : Sequence OutcomeRow) (right : Unit → Sequence OutcomeRow) : Sequence OutcomeRow :=
  let joined := fun (join : List (List Value) → List (List Value) → List (List Value)) =>
    Sequence.ofExcept do
      let rows ← storedRows left
      return .ofStored (join rows (← storedRows (right ())))
  match operator with
  | .unionAll => left.append right
  | .union => joined fun left right => asSet ks (left ++ right)
  | .intersect => joined fun left right => asSet ks (left.filter (isAmongRows ks right))
  | .except => joined fun left right =>
    asSet ks (left.filter fun row => !isAmongRows ks right row)

/-- The rows of arms behind others. -/
def combineAll (ks : List KeyOrder) (frames : List Frame) (left : Sequence OutcomeRow) :
    List (SetOperator × DependentRows) → Sequence OutcomeRow
  | [] => left
  | (operator, rows) :: arms =>
    combineAll ks frames (operator.combine ks left fun _ => rows frames) arms

/-- The columns of rows by which they are ordered. -/
abbrev PlaceOrder := List (Nat × KeyOrder)

/-- Sorts rows by some of their columns. -/
def PlaceOrder.sort (places : PlaceOrder) (rows : List (List Value)) : List (List Value) :=
  sortByKeys (places.map (·.2))
    (fun row => places.map fun (place, _) => row[place]?.getD .null) rows

/-- Rows ordered by some of their columns. -/
def orderedBy (places : PlaceOrder) (rows : Sequence OutcomeRow) : Sequence OutcomeRow :=
  if places.isEmpty then rows
  else .ofExcept do return .ofStored (places.sort (← storedRows rows))

/-- A number of rows, which has to be whole. -/
def rowCount (v : Value) : Except Fault Int :=
  match v.wholeNumber? with
  | some n => .ok n
  | none => .error .datatypeMismatch

/-- The number of rows of a query of which only the first one is used: one, unless it is
zero. -/
def firstRowCount (c : Value) : Value :=
  .ofTruth? (comparison (· != .eq) .numeric .binary c (.integer 0))

/-- Cuts rows to a number of them, behind some others.  A negative number is no limit; with
a limit of zero nothing is computed. -/
def limited (onlyFirst : Bool) (limit : List Meaning) (rows : DependentRows) : DependentRows :=
  fun frames =>
    match limit with
    | [] => rows frames
    | count :: skipped => .ofExcept do
      let count ← count.value frames
      let count ← rowCount (if onlyFirst then firstRowCount count else count)
      if count = 0 then return .done
      let skipped ← skipped.mapM fun m => do rowCount (← m.value frames)
      let left := (rows frames).drop (skipped.headD 0).toNat
      return if count < 0 then left else left.take count.toNat

/-! ## Recursion -/

/-- A query whose last arms add rows for each row that there is. -/
structure RecursivePlan where
  first : DependentRows
  /-- The arms that add rows; the row that they add to is the innermost one at hand. -/
  more : List DependentRows
  /-- How rows are compared, if none is taken twice. -/
  distinct : Option (List KeyOrder)
  order : PlaceOrder

namespace RecursivePlan

/-- The most rows that are given: more than can be waited for. -/
def mostRows : Nat := 4611686018427387904

/-- Rows that wait behind others, and all rows that are known, once some are found. -/
def enqueue (p : RecursivePlan) (queue known : List (List Value)) (found : List (List Value)) :
    List (List Value) × List (List Value) :=
  let (fresh, known) := match p.distinct with
    | none => (found, known)
    | some ks =>
      let (fresh, known) := found.foldl (fun (fresh, known) row =>
        if isAmongRows ks known row then (fresh, known) else (row :: fresh, row :: known))
        ([], known)
      (fresh.reverse, known)
  (p.order.sort (queue ++ fresh), known)

/-- The rows that wait, each followed by those that it leads to. -/
def rowsFrom (p : RecursivePlan) (outer : List Frame) :
    Nat → List (List Value) → List (List Value) → Sequence OutcomeRow
  | 0, _, _ => .done
  | _ + 1, [], _ => .done
  | fuel + 1, row :: queue, known =>
    let row := row.map Except.ok
    .next row fun _ =>
      match p.more.mapM fun rows => storedRows (rows ({ row } :: outer)) with
      | .error fault => .failed fault
      | .ok found =>
        let (queue, known) := p.enqueue queue known found.flatten
        p.rowsFrom outer fuel queue known

/-- The rows of the query. -/
def rows (p : RecursivePlan) : DependentRows := fun outer => .ofExcept do
  let (queue, known) := p.enqueue [] [] (← storedRows (p.first outer))
  return p.rowsFrom outer mostRows queue known

end RecursivePlan

end Sql
end ReportQuery
