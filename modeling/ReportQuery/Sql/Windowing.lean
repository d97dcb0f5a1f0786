/-
# Windows

A function that looks at a window has for each row a value of its own.  The rows that agree
in some values make a partition, in which they are ordered; rows of one place in that order
are peers.  Around each row lies a frame: the rows from a first one up to a last one, some of
which may be left out.

| unit | an offset counts |
| --- | --- |
| `ROWS` | rows |
| `GROUPS` | groups of peers |
| `RANGE` | by how much the only key of the order differs, if it is a number |

Some functions look at the frame, and others at the whole partition, whatever the frame is.
-/

import ReportQuery.Sql.Function.Aggregate
import ReportQuery.Sql.Order
import ReportQuery.Sql.Sequence

namespace ReportQuery
namespace Sql

/-! ## Windows and frames -/

/-- Where a frame begins or ends, with an offset that may be settled or computed. -/
inductive Edge (α : Type) where
  | unbounded
  | preceding (offset : α)
  | currentRow
  | following (offset : α)

namespace Edge

/-- The offset of an edge. -/
def offset? {α : Type} : Edge α → Option α
  | .preceding offset | .following offset => some offset
  | .unbounded | .currentRow => none

/-- An edge whose offset is computed. -/
def mapM {α β : Type} (f : α → Except Fault β) : Edge α → Except Fault (Edge β)
  | .unbounded => .ok .unbounded
  | .currentRow => .ok .currentRow
  | .preceding offset => .preceding <$> f offset
  | .following offset => .following <$> f offset

end Edge

/-- A window that is settled. -/
structure WindowPlan where
  agreeing : List SortTerm
  order : List SortTerm
  unit : FrameUnit
  start : Edge Meaning
  ending : Edge Meaning
  exclusion : Exclusion

/-- A function that looks at a window, known by its name in lower case.  It takes the rows
that meet its conditions, and its values have a place of their own among those of the
windows. -/
structure WindowCall where
  place : Nat
  name : String
  collation : Collation
  arguments : List Meaning
  filter : List Meaning

/-- Functions that look at one window. -/
structure WindowGroup where
  plan : WindowPlan
  calls : List WindowCall

/-! ## Partitions -/

/-- The rows from a first one up to another one, which is not one of them. -/
structure Span where
  first : Nat
  behind : Nat
deriving DecidableEq, Repr

/-- The groups of peers, of rows that begin at some place. -/
def peersFrom (ks : List KeyOrder) (first : Nat) : List (List Value) → List Span
  | [] => []
  | a :: keys =>
    match keys, peersFrom ks (first + 1) keys with
    | b :: _, s :: spans =>
      if compareKeys ks a b == .eq then ⟨first, s.behind⟩ :: spans
      else ⟨first, first + 1⟩ :: s :: spans
    | _, _ => [⟨first, first + 1⟩]

/-- A partition: the keys of its rows, its groups of peers, and the group of each row. -/
structure Partition where
  orders : List KeyOrder
  keys : Array (List Value)
  groups : Array Span
  groupOf : Array Nat

namespace Partition

/-- The partition of rows that have some keys. -/
def ofKeys (orders : List KeyOrder) (keys : List (List Value)) : Partition :=
  let groups := peersFrom orders 0 keys
  { orders
    keys := keys.toArray
    groups := groups.toArray
    groupOf := (groups.zipIdx.flatMap fun (s, index) =>
      List.replicate (s.behind - s.first) index).toArray }

/-- How many rows there are. -/
def size (p : Partition) : Nat := p.keys.size

/-- The peers of a row, with itself. -/
def peers (p : Partition) (row : Nat) : Span :=
  (p.groups[(p.groupOf[row]?).getD 0]?).getD ⟨row, row + 1⟩

/-- The first row of a group, or the end of the partition. -/
def groupFirst (p : Partition) (group : Nat) : Nat :=
  ((p.groups[group]?).map Span.first).getD p.size

end Partition

/-! ## Frames -/

/-- An offset of a frame, which may not be negative; it is whole if rows or groups are
counted. -/
def checkedOffset (unit : FrameUnit) (isStart : Bool) (v : Value) : Except Fault Value :=
  if unit = .range then
    match v.numberIfComplete with
    | .integer n => if 0 ≤ n then .ok (.integer n) else .error (.frameOffset isStart false)
    | .real x => if 0.0 ≤ x then .ok (.real x) else .error (.frameOffset isStart false)
    | _ => .error (.frameOffset isStart false)
  else match v.wholeNumber? with
    | some n => if 0 ≤ n then .ok (wholeValue n) else .error (.frameOffset isStart true)
    | none => .error (.frameOffset isStart true)

/-- A number of rows or groups. -/
def countOf (v : Value) : Nat := v.asInteger.toInt.toNat

/-- The place of the edge of a frame, where the row at hand is at a place: the first place
within the frame, or the one behind it. -/
def Edge.place (isStart : Bool) (place size : Nat) : Edge Value → Nat
  | .unbounded => if isStart then 0 else size
  | .currentRow => if isStart then place else place + 1
  | .preceding offset =>
    if isStart then place - countOf offset else place + 1 - countOf offset
  | .following offset =>
    min size (if isStart then place + countOf offset else place + countOf offset + 1)

/-- A key that is a number, moved so far behind its place; any other key as it is. -/
def shiftedKey (orders : List KeyOrder) (offset : Value) (key : List Value) : List Value :=
  let descending := orders.head?.any KeyOrder.descending
  key.map fun
    | .integer n => arithmetic (if descending then .subtract else .add) (.integer n) offset
    | .real x => arithmetic (if descending then .subtract else .add) (.real x) offset
    | v => v

namespace Partition

/-- How many rows at the beginning have keys that meet a test. -/
def countWhile (p : Partition) (test : List Value → Bool) : Nat :=
  (p.keys.toList.takeWhile test).length

/-- The place of the edge of a frame around a row where it is told by the keys. -/
def rangePlace (p : Partition) (isStart : Bool) (row : Nat) (edge : Edge Value) : Nat :=
  let key := (p.keys[row]?).getD []
  match edge with
  | .unbounded => if isStart then 0 else p.size
  | .currentRow => if isStart then (p.peers row).first else (p.peers row).behind
  | .preceding offset =>
    p.countWhile fun other =>
      let c := compareKeys p.orders (shiftedKey p.orders offset other) key
      if isStart then c == .lt else c != .gt
  | .following offset =>
    let key := shiftedKey p.orders offset key
    p.countWhile fun other =>
      let c := compareKeys p.orders other key
      if isStart then c == .lt else c != .gt

/-- The frame around a row, with all rows in it. -/
def frame (p : Partition) (unit : FrameUnit) (start ending : Edge Value) (row : Nat) : Span :=
  match unit with
  | .rows => ⟨start.place true row p.size, ending.place false row p.size⟩
  | .groups =>
    let group := (p.groupOf[row]?).getD 0
    ⟨p.groupFirst (start.place true group p.groups.size),
      p.groupFirst (ending.place false group p.groups.size)⟩
  | .range => ⟨p.rangePlace true row start, p.rangePlace false row ending⟩

/-- The rows of a frame around a row, without those that are left out. -/
def framed (p : Partition) (exclusion : Exclusion) (row : Nat) (s : Span) : List Nat :=
  let rows := (List.range (s.behind - s.first)).map (s.first + ·)
  let peers := p.peers row
  let isPeer := fun other => peers.first ≤ other ∧ other < peers.behind
  match exclusion with
  | .nothing | .noOthers => rows
  | .currentRow => rows.filter (· ≠ row)
  | .group => rows.filter fun other => ¬ isPeer other
  | .ties => rows.filter fun other => other = row ∨ ¬ isPeer other

/-- The frames around all rows.  Where rows or groups are counted, there are none if each would
begin behind its end. -/
def frames (p : Partition) (unit : FrameUnit) (start ending : Edge Value) : List Span :=
  let reversed : Bool := match unit, start, ending with
    | .range, _, _ => false
    | _, .preceding first, .preceding last => compareValues .binary first last == .lt
    | _, .following first, .following last => compareValues .binary last first == .lt
    | _, _, _ => false
  (List.range p.size).map fun row =>
    if reversed then ⟨0, 0⟩
    else
      let s := p.frame unit start ending row
      ⟨min s.first s.behind, s.behind⟩

end Partition

/-! ## Functions -/

/-- A row of a partition, as a function sees it: its arguments, and whether it is taken. -/
structure WindowRow where
  arguments : List Value
  isTaken : Bool

/-- A row of a partition with its frame. -/
structure FramedRow where
  index : Nat
  peers : Span
  group : Nat
  /-- The rows of the frame. -/
  frame : List WindowRow

/-- The first argument of a row. -/
def WindowRow.value (r : WindowRow) : Value := r.arguments.headD .null

/-- The number of the part that a row falls into, of so many parts of rows that are as equal
in size as can be, the larger ones first. -/
def partNumber (parts size row : Nat) : Nat :=
  let each := size / parts
  let larger := size % parts
  if each = 0 then row + 1
  else if row < larger * (each + 1) then 1 + row / (each + 1)
  else 1 + larger + (row - larger * (each + 1)) / each

/-- The place of a member of a frame, which is counted from 1. -/
def memberPlace (v : Value) : Except Fault Nat :=
  match v.wholeNumber? with
  | some n => if 0 < n then .ok n.toNat else .error .memberPlace
  | none => .error .memberPlace

/-- The first member of a frame some rows of which are left out whose own place, as it says, is
the one that it has. -/
def ownMember (place : Nat) : List WindowRow → Except Fault Value
  | [] => .ok .null
  | r :: rows => do
    let wanted ← memberPlace ((r.arguments[1]?).getD .null)
    let found ← ownMember (place + 1) rows
    return if wanted = place then r.value else found

/-- The value of a row that is so far from another one, or else the one that is given for it.
Looking back, no row is found that is more than one row ahead. -/
def neighbour (rows : Array WindowRow) (row : Nat) (looksBack : Bool) (arguments : List Value) :
    Value :=
  let distance := (arguments[1]?).getD (.integer 1)
  let own := Value.integer (Int64.ofNat (row + 1))
  let place := (arithmetic (if looksBack then .subtract else .add) own distance).wholeNumber?
  match place.bind fun n =>
      if n < 1 ∨ (looksBack ∧ row + 2 < n) then none else rows[n.toNat - 1]? with
  | some r => r.value
  | none => (arguments[2]?).getD .null

/-- A share of a whole; none of nothing. -/
def share (part whole : Nat) : Value :=
  .real (if whole = 0 then 0.0 else part.toFloat / whole.toFloat)

/-- What a function makes of the rows of a partition for one of them. -/
def windowValue (name : String) (collation : Collation) (isMoving isWhole : Bool)
    (rows : Array WindowRow) (r : FramedRow) : Except Fault Value :=
  let arguments := ((rows[r.index]?).map WindowRow.arguments).getD []
  let number := fun n : Nat => Value.integer (Int64.ofNat n)
  let values := (r.frame.filter WindowRow.isTaken).map WindowRow.arguments
  match name with
  | "row_number" => .ok (number (r.index + 1))
  | "rank" => .ok (number (r.peers.first + 1))
  | "dense_rank" => .ok (number (r.group + 1))
  | "percent_rank" => .ok (share r.peers.first (rows.size - 1))
  | "cume_dist" => .ok (share r.peers.behind rows.size)
  | "ntile" =>
    let parts := ((rows[0]?).map fun r => r.value.asInteger.toInt).getD 0
    if parts ≤ 0 then .error .partCount
    else .ok (number (partNumber parts.toNat rows.size r.index))
  | "lag" => .ok (neighbour rows r.index true arguments)
  | "lead" => .ok (neighbour rows r.index false arguments)
  | "first_value" => .ok ((r.frame.head?.map WindowRow.value).getD .null)
  | "last_value" => .ok ((r.frame.getLast?.map WindowRow.value).getD .null)
  | "nth_value" =>
    if isWhole then do
      let place ← memberPlace ((arguments[1]?).getD .null)
      return ((r.frame[place - 1]?).map WindowRow.value).getD .null
    else ownMember 1 r.frame
  | "max" | "min" =>
    if isMoving then
      let wanted := if name == "max" then Ordering.gt else .lt
      .ok (extremeOf collation (fun c => c == wanted || c == .eq)
        ((r.frame.map WindowRow.value).filter (· ≠ .null)))
    else aggregateValue name collation values
  | _ => aggregateValue name collation values

/-- The sums of frames, one after the other: the rows that enter a frame are added to the sum
of the one before it, and those that leave it are taken away. -/
def movingSums (name : String) (addsFirst : Bool) (rows : Array WindowRow) (last : Span)
    (sum : RunningSum) : List Span → Except Fault (List Value)
  | [] => .ok []
  | s :: spans => do
    let valuesIn := fun (first behind : Nat) =>
      ((rows.toList.drop first).take (behind - first)).filterMap fun r =>
        if r.isTaken then some r.value else none
    let entering := valuesIn last.behind s.behind
    let leaving := valuesIn last.first s.first
    let sum := if addsFirst then leaving.foldl RunningSum.remove (entering.foldl RunningSum.add sum)
      else entering.foldl RunningSum.add (leaving.foldl RunningSum.remove sum)
    let value ← sum.value name
    let span := ⟨max last.first s.first, max last.behind s.behind⟩
    return value :: (← movingSums name addsFirst rows span sum spans)

/-- Whether an edge is behind the row at hand. -/
def Edge.isFollowing {α : Type} : Edge α → Bool
  | .following _ => true
  | _ => false

/-- Whether an edge is ahead of the row at hand. -/
def Edge.isPreceding {α : Type} : Edge α → Bool
  | .preceding _ => true
  | _ => false

/-- Whether an edge is at the end of the partition. -/
def Edge.isUnbounded {α : Type} : Edge α → Bool
  | .unbounded => true
  | _ => false

/-- What a function makes of the rows of a partition, for each of them. -/
def windowValues (name : String) (collation : Collation) (w : WindowPlan) (p : Partition)
    (start ending : Edge Value) (rows : Array WindowRow) : Except Fault (List Value) :=
  let spans := p.frames w.unit start ending
  if ["sum", "total", "avg"].contains name && w.exclusion = .nothing then
    let addsFirst := start.isFollowing ||
      (w.unit = .range && start.isPreceding && ending.isPreceding)
    movingSums name addsFirst rows ⟨0, 0⟩ {} spans
  else
    let isWhole := w.exclusion = .nothing
    spans.zipIdx.mapM fun (s, index) =>
      windowValue name collation (!start.isUnbounded && isWhole) isWhole rows
        { index
          peers := p.peers index
          group := (p.groupOf[index]?).getD 0
          frame := (p.framed w.exclusion index s).filterMap fun row => rows[row]? }

/-! ## Rows with their windows -/

/-- A row with its keys. -/
structure KeyedFrame where
  agreeing : List Value
  key : List Value
  frame : Frame

/-- The rows of partitions, which are told apart by the first keys of rows. -/
def partitionsOf (ks : List KeyOrder) : List KeyedFrame → List (List KeyedFrame)
  | [] => []
  | a :: rows =>
    match rows, partitionsOf ks rows with
    | b :: _, part :: parts =>
      if compareKeys ks a.agreeing b.agreeing == .eq then (a :: part) :: parts
      else [a] :: part :: parts
    | _, _ => [[a]]

namespace WindowGroup

/-- The rows of a partition with the values of the functions. -/
def inPartition (g : WindowGroup) (outer : List Frame) (part : List KeyedFrame) :
    Except Fault (List Frame) := do
  let w := g.plan
  let p := Partition.ofKeys (w.order.map SortTerm.order) (part.map KeyedFrame.key)
  let start ← w.start.mapM fun m => do checkedOffset w.unit true (← m.value outer)
  let ending ← w.ending.mapM fun m => do checkedOffset w.unit false (← m.value outer)
  g.calls.foldlM (fun frames c => do
    let rows ← frames.mapM fun frame => do
      let arguments ← valuesOf c.arguments (frame :: outer)
      let stored := if groupsDocuments c.name then arguments else arguments.map Value.plain
      return WindowRow.mk stored (← holdAll c.filter (frame :: outer))
    let values ← windowValues c.name c.collation w p start ending rows.toArray
    return (frames.zip values).map fun (frame, v) =>
      { frame with windows := frame.windows.set c.place v }) (part.map KeyedFrame.frame)

/-- The partitions of rows, one after the other in the order of the window. -/
def partitions (g : WindowGroup) (outer : List Frame) (frames : List Frame) :
    Except Fault (List (List KeyedFrame)) := do
  let w := g.plan
  let keyed ← frames.mapM fun frame => do
    return KeyedFrame.mk (← valuesOf (w.agreeing.map SortTerm.key) (frame :: outer))
      (← valuesOf (w.order.map SortTerm.key) (frame :: outer)) frame
  let sorted := sortByKeys ((w.agreeing ++ w.order).map SortTerm.order)
    (fun r => r.agreeing ++ r.key) keyed
  return partitionsOf (w.agreeing.map SortTerm.order) sorted

/-- Rows with the values of the functions, in the order of the window. -/
def apply (g : WindowGroup) (outer : List Frame) (frames : List Frame) : Sequence Frame :=
  .ofExcept do
    return (Sequence.ofList (← g.partitions outer frames)).flatMap fun part =>
      .ofExcept do return .ofList (← g.inPartition outer part)

end WindowGroup

/-- Rows with the values of all functions that look at windows.  The first window is looked at
last, so the rows are in its order in the end. -/
def applyWindows (groups : List WindowGroup) (outer frames : List Frame) : Sequence Frame :=
  let count := groups.foldl (fun n g => n + g.calls.length) 0
  let bare := Sequence.ofList (frames.map fun frame =>
    { frame with windows := List.replicate count .null })
  groups.foldr (fun g rows => .ofExcept do return g.apply outer (← rows.toList)) bare

end Sql
end ReportQuery
