/-
# Parts of settled queries

What the parts of a query mean once the expressions in them are settled: the terms of an order
or a grouping, the sources and how they are joined, the operators and the functions.
-/

import ReportQuery.Sql.Function.Kind
import ReportQuery.Sql.Operation
import ReportQuery.Sql.Relation
import ReportQuery.Sql.Sameness
import ReportQuery.Sql.Window

namespace ReportQuery
namespace Sql

/-! ## What is known around a query -/

/-- A window with its name, if it has one, as it is written, and how its parts are settled. -/
structure WindowSettler where
  name : Option String := none
  written : Window
  agreeing : List Scope → Settling (List SortTerm)
  order : List Scope → Settling (List SortTerm)
  edges : Settling (Edge Meaning × Edge Meaning)

/-- A table that a query defines, and how its rows are settled within some scopes. -/
structure SettledDefinition where
  name : String
  settle : List Scope → Settling Relation

/-- What is known around a query. -/
structure Context where
  tables : Tables
  circumstances : Circumstances
  parameters : List Value
  defined : List SettledDefinition := []
  /-- The table whose own rows the sources of an arm may refer to. -/
  own : Option SettledDefinition := none
  /-- The windows of the arm at hand that have names. -/
  windows : List WindowSettler := []

/-- The table of a name that a query defines. -/
def Context.defined? (c : Context) (schema : Option String) (name : String) :
    Option SettledDefinition :=
  if schema.isSome then none
  else (c.own.toList ++ c.defined).find? fun d => sameName d.name name

/-- A definition of a table, and how its rows are settled, given what is known around it. -/
structure SettlingDefiner where
  definer : Definer
  settle : Context → List Scope → Settling Relation

/-- What is known within definitions; `fuel` is more than the number of them that have not been
looked at. -/
def Context.enter (definers : List SettlingDefiner) (outer : Context) : Nat → Context
  | 0 => outer
  | fuel + 1 =>
    let defined := definers.map fun d =>
      ⟨d.definer.name, fun scopes => d.settle (enter definers outer fuel) scopes⟩
    { outer with
      tables := outer.tables.within (definers.map SettlingDefiner.definer)
      own := none
      defined := defined ++ outer.defined }

/-- What is known within definitions. -/
def Context.within (outer : Context) (definers : List SettlingDefiner) : Context :=
  outer.enter definers (definers.length + 1)

/-! ## Terms -/

/-- A settled result column, with the name that was given to it. -/
structure Result where
  title : String
  given : Option String
  meaning : Meaning
  /-- Whether it has one value, as it should. -/
  isSingle : Bool := true

/-- The place among the results that an expression names by a number. -/
def Expr.position? : Expr → Option Int
  | .number text =>
    match numberValue false text with
    | .ok (.integer n) => if 0 ≤ n ∧ n ≤ 2147483647 then some n.toInt else none
    | _ => none
  | .apply .negate [e] => e.position?.map fun n => -n
  | .apply .keep [e] => e.position?
  | _ => none

/-- An expression without what it says of its collation. -/
def Expr.withoutCollation : Expr → Expr
  | .apply (.collate _) [e] => e.withoutCollation
  | e => e

/-- The collation that an expression says. -/
def Expr.saidCollation? : Expr → Option Collating
  | .apply (.collate name) _ => some ⟨name, true⟩
  | _ => none

/-- What a term refers to: a result by its place, or something else. -/
inductive TermTarget where
  | position (n : Int)
  | meaning (m : Meaning)

/-- The result that a term refers to by its given name. -/
def namedResult? (results : List Result) (e : Expr) : Option TermTarget :=
  match e.withoutCollation with
  | .column ⟨none, none, name, _⟩ =>
    (results.findIdx? fun r => r.given.any (sameName name)).map fun index =>
      .position (index + 1)
  | _ => none

/-- The result that a term refers to by its place, which is at least 1. -/
def numberedResult? (clause : TermClause) (index count : Nat) (e : Expr) :
    Except Fault (Option TermTarget) :=
  match e.withoutCollation.position? with
  | some n =>
    if n < 1 then .error (.termOutOfRange (index + 1) clause count) else .ok (some (.position n))
  | none => .ok none

/-- The meaning of a target, which is among the results if it is a place. -/
def TermTarget.settle (clause : TermClause) (results : List Result) (index : Nat) (e : Expr) :
    TermTarget → Except Fault Meaning
  | .meaning m => .ok m
  | .position n =>
    match results[n.toNat - 1]? with
    | some r =>
      .ok { r.meaning with collating := e.saidCollation?.orElse fun _ => r.meaning.collating }
    | none => .error (.termOutOfRange (index + 1) clause results.length)

/-- The key of a term. -/
def sortTerm (m : Meaning) (descending nullsFirst : Bool) : Settling SortTerm := inStage .order do
  return ⟨m, ⟨← collationOf m.collating, descending, nullsFirst⟩⟩

/-- The orders of columns, from the least value to the largest one. -/
def columnOrders (columns : List ResultColumn) : Settling (List KeyOrder) :=
  columns.mapM fun column => do return { collation := ← collationOf column.collating }

/-- How the values of a column of several arms like to be compared: like those of the first arm
that likes anything.  As numbers or texts they do so only if no other arm may have others. -/
def compoundAffinity (arms : List ResultColumn) : Affinity :=
  match arms.findIdx? fun column => column.affinity ≠ .none with
  | none => .none
  | some index =>
    let own := ((arms[index]?).map ResultColumn.affinity).getD .none
    let classes := (arms.eraseIdx index).foldl
      (fun known column => known.or column.classes) (ValueClasses.mk false false false)
    if own = .text ∧ classes.numbers then .blob
    else if own.isNumeric ∧ classes.texts then .blob
    else own

/-- The columns of several arms, by their columns: those of the first one, where values are
compared as is right for all of them. -/
def compoundColumns (arms : List (List ResultColumn)) : List ResultColumn :=
  (arms.headD []).zipIdx.map fun (column, index) =>
    { column with affinity := compoundAffinity (arms.filterMap fun columns => columns[index]?) }

/-- The columns by which the rows of arms are compared: the first arm counts that says how a
column is collated. -/
def collatedColumns (arms : List (List ResultColumn)) : List ResultColumn :=
  (arms.headD []).zipIdx.map fun (column, index) =>
    let columns := arms.filterMap fun columns => columns[index]?
    { column with collating := columns.findSome? ResultColumn.collating }

/-- The place of the result column that a term of a compound query means: by its number,
by its given name, or because it is the same expression. -/
def compoundPlace? (arms : List Arm) (e : Expr) : Option Nat :=
  arms.findSome? fun
    | .mk _ _ columns _ _ _ _ _ =>
      (columns.findIdx? fun
        | .value own given _ =>
          let own := own.withoutCollation
          match e with
          | .column ⟨none, none, name, _⟩ => given.any (sameName name) || own.same e
          | e => own.same e
        | .all _ => false)

/-- The keys of a compound query, as places of result columns.  All numbers of places are
looked at before anything else. -/
def compoundOrder (columns : List ResultColumn) (arms : List Arm) (terms : List Term) :
    Settling (List (Nat × KeyOrder)) := do
  terms.zipIdx.forM fun (.mk key _ _, index) => do
    if let some n := key.withoutCollation.position? then
      unless 1 ≤ n ∧ n ≤ columns.length do
        throw (.termOutOfRange (index + 1) .ordering columns.length)
  terms.zipIdx.mapM fun (.mk key descending nullsFirst, index) => do
    let e := key.withoutCollation
    let place := (e.position?.map fun n => n.toNat - 1).orElse fun _ => compoundPlace? arms e
    match place with
    | none => throw (.unmatchedTerm (index + 1))
    | some place =>
      let own := columns[place]?.bind ResultColumn.collating
      let collation ← collationOf (key.saidCollation?.orElse fun _ => own)
      return (place, ⟨collation, descending, nullsFirst⟩)

/-! ## Sources -/

/-- A source whose rows are settled: those of a query, or of a table that may take arguments. -/
structure SettledSource where
  schema : Option String := none
  names : List String
  columns : List ResultColumn
  /-- What the column with the number of a row is called. -/
  numberName : Option String := none
  rows : List Meaning → DependentRows
  /-- The table that takes arguments. -/
  called : Option Table := none

/-- The rows of a table that takes some arguments. -/
def Table.rowsFor (t : Table) (arguments : List Meaning) : DependentRows := fun frames =>
  .ofExcept do return .ofStored (← t.rows (← valuesOf arguments frames))

/-- A table as a source, whose rows end with their numbers. -/
def Table.settled (t : Table) (name : Option String) : SettledSource where
  schema := some t.schema
  names := match name with
    | some name => [name]
    | none => t.names
  columns := (t.columns ++ t.hidden).map fun column =>
    { name := column.name
      affinity := column.affinity
      classes := if column.affinity = .none then .all else .ofAffinity column.affinity
      collating := some ⟨column.collation, false⟩ }
  numberName := t.numberName
  rows := t.rowsFor
  called := if t.isCalled then some t else none

/-- The rows of a query as a source. -/
def Relation.settled (r : Relation) (name : Option String) : SettledSource where
  names := name.toList
  columns := r.columns
  rows := fun _ frames => (r.rows frames).map fun row => row.map fun v => Value.plain <$> v

/-- Puts off the fault of a table that takes too many arguments. -/
def SettledSource.checkArguments (s : SettledSource) (arguments : List Meaning) :
    Settling Unit := do
  if let some t := s.called then
    if t.hidden.length < arguments.length then
      later (.tooManyTableArguments t.ownName t.hidden.length)

/-- How many values the rows of a source have. -/
def SettledSource.width (s : SettledSource) : Nat :=
  s.columns.length + if s.numberName.isSome then 1 else 0

/-- The sources of a scope, from a place on. -/
def scopeSources (start : Nat) :
    List (SettledSource × SourceHeading × Source) → List ScopeSource
  | [] => []
  | (s, heading, .mk _ _ join _ _) :: sources =>
    { schema := s.schema
      names := s.names
      columns := s.columns.zipIdx.map fun (column, index) =>
        { column with
          name := (heading.columns[index]?).getD column.name
          collating := some ⟨(column.collating.map Collating.name).getD "BINARY", false⟩ }
      common := heading.common
      join
      start
      numberName := s.numberName } :: scopeSources (start + s.width) sources

/-- The conditions that a source's columns in common make, each with a column of the
sources before it: the first one, or the first one that is not null (`gathers`). -/
def commonConditions (gathers : Bool) (before : List ScopeSource) (s : ScopeSource) :
    Settling (List Meaning) :=
  s.common.mapM fun column => do
    let n : Name := ⟨none, none, column, false⟩
    let found := before.filterMap fun other => other.find? n
    match found, s.find? n with
    | left :: more, some right =>
      comparisonMeaning .equal [if gathers then more.foldl eitherOf left else left] [right]
    | _, _ => return .constant .null

/-- Tells the conditions of a join that hold for the rows so far from those that look at
sources behind it.  The latter hold for the rows of the query, unless rows are kept
without a partner: then they are a fault. -/
def placeConditions (keepsRows : Bool) (behind : Nat) (conditions : List Meaning) :
    Settling (List Meaning × List Meaning) := do
  let (ahead, here) := conditions.partition (Meaning.looksBeyond behind)
  if keepsRows && !ahead.isEmpty then later .conditionAhead
  return (here, ahead)

/-- A source with its arguments and the conditions of its join. -/
structure PlacedSource where
  settled : SettledSource
  inScope : ScopeSource
  arguments : List Meaning
  conditions : List Meaning

/-- The sources as they are joined, behind some others. -/
def joinedSources (gathers : Bool) (before : List ScopeSource) :
    List PlacedSource → Settling (List JoinedSource)
  | [] => return []
  | ⟨s, own, arguments, conditions⟩ :: sources => do
    let common ← commonConditions gathers before own
    let joined : JoinedSource :=
      { rows := s.rows arguments
        looksBack := s.called.isSome
        width := s.width
        join := own.join
        conditions := common ++ conditions }
    return joined :: (← joinedSources gathers (before ++ [own]) sources)

/-- Whether the rows of a source at some place may be missing because of a source behind
it that keeps its own, which has a column in common with it. -/
def isJoinedBehind (scope : Scope) (place : Place) : Bool :=
  let behind := scope.sources.drop (place.source + 1)
  (behind.any fun s => s.join.keepsRight) && behind.any fun s => hasName s.common place.name

/-- The meaning of a column that `*` stands for.  It is looked up by the name of its source,
which may be that of several ones. -/
def starMeaning (scope : Scope) (place : Place) : Except Fault Meaning :=
  if isJoinedBehind scope place then lookup [scope] ⟨none, none, place.name, false⟩
  else match scope.sources[place.source]? with
    | none => .error .noTables
    | some s =>
      let others := scope.sources.filter fun other =>
        other.schema = s.schema &&
          (other.columns.any fun column => sameName column.name place.name) &&
          s.names.head?.any fun name => other.names.any (sameName name)
      let n : Name := ⟨some (s.schema.getD "*"), s.names.head?, place.name, false⟩
      if (others.drop 1).any fun other => !hasName other.common place.name then
        .error (.ambiguousColumn n.text)
      else .ok ((s.slot? place.column).getD (.constant .null))

/-! ## Operators -/

/-- How many values an expression has. -/
def Expr.width (tables : Tables) : Expr → Except Fault Nat
  | .apply .row operands => .ok operands.length
  | .subquery .value _ query => List.length <$> query.heading tables
  | _ => .ok 1

/-- The name behind `IS`, which may be that of a truth value, and is looked up first. -/
def Operator.firstLookedUp? (operator : Operator) (operands : List Expr) : Option Name :=
  match operator, operands.map Expr.withoutCollation with
  | .same, [_, .column ⟨none, none, name, quotation⟩]
  | .different, [_, .column ⟨none, none, name, quotation⟩] =>
    some ⟨none, none, name, quotation⟩
  | _, _ => none

/-- Whether all widths are the same. -/
def haveOneWidth (widths : List Nat) : Bool := widths.all (some · == widths.head?)

/-- Whether an operator compares rows of one width. -/
def Operator.isComparison (operator : Operator) : Bool :=
  [.equal, .unequal, .less, .atMost, .greater, .atLeast, .same, .different,
    .between].contains operator

/-- Whether a comparison asks for a truth value by its name. -/
def truthAsked? (operator : Operator) (tuples : List Tuple) : Option (Bool × Tuple) :=
  match operator, tuples with
  | .same, [left, ⟨[m], _⟩] | .different, [left, ⟨[m], _⟩] =>
    m.truth.map fun truth => (truth, left)
  | _, _ => none

/-- The meaning of an operator, whose operands may be rows where it compares them. -/
def tuplesMeaning (operator : Operator) (tuples : List Tuple) : Settling Meaning := do
  match truthAsked? operator tuples with
  | some (truth, left) =>
    return .map [← left.single] fun values =>
      .ok (.ofTruth (((values.headD .null).truth? == some truth) == (operator == .same)))
  | none =>
    match operator.isComparison, tuples with
    | true, [left, right] => comparisonMeaning operator left.members right.members
    | true, [value, least, largest] =>
      return connective false bothTrue
        (← comparisonMeaning .atLeast value.members least.members)
        (← comparisonMeaning .atMost value.members largest.members)
    | _, _ => operatorMeaning operator (← tuples.mapM Tuple.single)

/-- Whether a row is among others: unknown if that hangs on a null. -/
def rowAmong (cs : List Comparer) (frames : List Frame) (rows : List OutcomeRow) :
    Except Fault (Option Bool) :=
  rows.foldlM (fun known row => return oneTrue known (← rowsEqual cs ({ row } :: frames)))
    (some false)

/-- The values of a query within an expression: those of its first row, or whether it has
rows, or whether some values are one of them. -/
def queryMeanings (use : SubqueryUse) (tested : List Meaning) (r : Relation) :
    Settling (List Meaning) := do
  match use with
  | .value =>
    return r.results.zipIdx.map fun (column, index) =>
      { value := fun frames => do
          match ← (r.rows frames).head? with
          | some row => (row[index]?).getD (.ok .null)
          | none => return .null
        affinity := column.affinity
        classes := .ofAffinity column.affinity }
  | .existence =>
    return [{ value := fun frames => do return .ofTruth (← (r.rows frames).head?).isSome }]
  | .membership =>
    if tested.length ≠ r.results.length then
      later (.subqueryColumns r.results.length tested.length)
    let cs ← (tested.zip r.results.zipIdx).mapM fun (m, column, index) =>
      Comparer.of (m.within 1) (.ofSlot index column)
    return [.ofParts tested fun frames => do
      return .ofTruth? (← rowAmong cs frames (← (r.rows frames).toList))]

/-! ## Functions -/

/-- Puts off the fault of an aggregate where rows are not grouped. -/
def misused (aggregate : Option String) : Settling Unit :=
  match aggregate with
  | some function => later (.misusedAggregate function)
  | none => return ()

/-- The parts of a call of an aggregate. -/
structure AggregateCall where
  name : String
  distinct : Option Collation
  collation : Collation
  arguments : List Meaning
  order : List SortTerm
  filter : List Meaning

namespace AggregateCall

/-- The query whose rows are made one: the innermost one of those looked at. -/
def level (c : AggregateCall) : Nat :=
  let looked := (c.arguments ++ c.order.map SortTerm.key ++ c.filter).flatMap Meaning.looks
  (looked.map (·.1)).min?.getD 0

/-- The value for the group at hand. -/
def value (c : AggregateCall) : Dependent := fun frames => do
  let group := ((frames[c.level]?).map Frame.group).getD []
  let framesOf := fun row => frames.take c.level ++ { row } :: frames.drop (c.level + 1)
  let rows ← group.filterM fun row => holdAll c.filter (framesOf row)
  let keyed ← rows.mapM fun row => do
    return (← valuesOf c.arguments (framesOf row),
      ← valuesOf (c.order.map SortTerm.key) (framesOf row))
  let keyed := match c.distinct with
    | some collation => distinctByKeys [{ collation }] (·.1) keyed
    | none => keyed
  let sorted := sortByKeys (c.order.map SortTerm.order) (·.2) keyed
  aggregateValue c.name c.collation (sorted.map (·.1))

/-- How the least or the largest value is found, if the aggregate is one of them. -/
def extreme? (c : AggregateCall) : Option Extreme :=
  let ofOrdering := fun wanted (m : Meaning) =>
    Extreme.mk wanted c.collation m.value (c.filter.map Meaning.value)
  match c.name, c.arguments with
  | "max", [m] => some (ofOrdering .gt m)
  | "min", [m] => some (ofOrdering .lt m)
  | _, _ => none

end AggregateCall

/-- Whether an expression is a probability as it is written: a real that is not above one. -/
def Expr.isProbability : Expr → Bool
  | .number digits =>
    match numberValue false digits with
    | .ok (.real x) => x ≤ 1.0
    | _ => false
  | _ => false

/-- What is known of a call of a function: whether it may be an aggregate or look at a window
where it stands, and what it has besides its arguments. -/
structure CallSite where
  allowsAggregates : Bool
  allowsWindows : Bool
  hasWindow : Bool
  isFiltered : Bool
  isOrdered : Bool

/-- The fault of a function, if it cannot be called like this. -/
def CallSite.fault? (s : CallSite) (function : String) (kind : FunctionKind) : Option Fault :=
  match kind with
  | .unknown => some (.unknownFunction function)
  | .wrongCount => some (.argumentCount function)
  | .aggregate =>
    if s.hasWindow then
      if s.allowsAggregates && s.allowsWindows then none else some (.misplacedWindow function)
    else if s.allowsAggregates then none
    else some (.misplacedAggregate function)
  | .window =>
    if s.allowsAggregates && s.allowsWindows && s.hasWindow then none
    else some (.misplacedWindow function)
  | .scalar =>
    if s.hasWindow then some (.noWindowFunction function)
    else if s.isFiltered then some (.filterOnScalar function)
    else if s.isOrdered then some (.orderOnScalar function)
    else none

/-- The scopes as they are for what a function is made of that makes one value of rows. -/
def withinFunction (hasWindow : Bool) : List Scope → List Scope
  | [] => []
  | scope :: scopes =>
    { scope with
      allowsAggregates := scope.allowsAggregates && hasWindow
      allowsWindows := false } :: scopes

/-- The aggregates of the innermost query that have been found. -/
def foundAggregates : Settling (List Aggregate) := do
  return (← get).aggregates.filter fun a => a.level = 0

/-- Takes the aggregates that have been found since some others for those of a query, and
gives the others back. -/
def takeAggregates (outer : List Aggregate) : Settling (List Aggregate) := do
  let found := (← get).aggregates
  modify fun p => { p with
    aggregates := outer ++ (found.filter fun a => 0 < a.level).map Aggregate.outward }
  return found.filter fun a => a.level = 0

/-- Settles a query within another one, and tells where it looks at the rows around it. -/
def lookingOut {α : Type} (part : Settling α) : Settling (α × List (Nat × Nat)) := do
  let before := (← get).looks
  modify fun p => { p with looks := [] }
  let result ← part
  let outer := (← get).looks.filter fun (level, _) => 0 < level
  let own := outer.map fun (level, index) => (level - 1, index)
  modify fun p => { p with looks := before ++ own }
  return (result, own)

/-- Settles a query that has one more row around it, whose columns have no names. -/
def behindRow {α : Type} (part : Settling α) : Settling α := do
  let known := (← get).aggregates
  modify fun p => { p with aggregates := [] }
  let (result, _) ← lookingOut part
  modify fun p => { p with aggregates := known ++ p.aggregates.map Aggregate.outward }
  return result

/-- Settles a part to see what comes of it, without anything that is found on the way. -/
def trying {α : Type} (part : Settling α) : Settling α := fun p =>
  (part p).map fun (result, _) => (result, p)

/-! ## Windows -/

/-- The frame of a window that says nothing of it. -/
def usualFrame : WindowFrame := .mk .range .unbounded .currentRow .nothing

/-- The frame of a function that looks at the same rows whatever the frame of its window is. -/
def ownFrame? (function : String) : Option WindowFrame :=
  match function with
  | "row_number" | "lag" => some (.mk .rows .unbounded .currentRow .nothing)
  | "rank" | "dense_rank" => some usualFrame
  | "percent_rank" => some (.mk .groups .currentRow .unbounded .nothing)
  | "cume_dist" => some (.mk .groups (.following (.number "1")) .unbounded .nothing)
  | "ntile" => some (.mk .rows .currentRow .unbounded .nothing)
  | "lead" => some (.mk .rows .unbounded .unbounded .nothing)
  | _ => none

/-- Whether a bound is told by an offset. -/
def FrameBound.hasOffset : FrameBound → Bool
  | .preceding _ | .following _ => true
  | .unbounded | .currentRow => false

/-- The fault of a window for a function, if it may not look at it. -/
def windowFault? (kind : FunctionKind) (isFiltered : Bool) (order : List Term) :
    WindowFrame → Option Fault
  | .mk unit start ending _ =>
    if unit == .range && (start.hasOffset || ending.hasOffset) && order.length != 1 then
      some .rangeWithoutKey
    else if kind = .window ∧ isFiltered then some .filterOnWindowFunction
    else none

namespace WindowSettler

/-- The window of a name. -/
def named? (windows : List WindowSettler) (name : String) : Option WindowSettler :=
  windows.reverse.find? fun w => w.name.any (sameName name)

/-- The window that is meant, with what it takes over from the one that it is based on. -/
def among (windows : List WindowSettler) (w : WindowSettler) : Except Fault WindowSettler := do
  let known := windows.filterMap fun w => w.name.map fun name => NamedWindow.mk name w.written
  let written ← w.written.among known
  match w.written with
  | .named name => return (named? windows name).getD w
  | .mk (some base) _ _ _ =>
    match named? windows base with
    | none => return w
    | some base =>
      let (_, order, _) := base.written.parts
      return { w with
        written
        agreeing := base.agreeing
        order := if order.isEmpty then w.order else base.order }
  | .mk none _ _ _ => return w

end WindowSettler

/-- An edge of a frame that a function has of its own, where an offset is one. -/
def FrameBound.ownEdge : FrameBound → Edge Meaning
  | .unbounded => .unbounded
  | .currentRow => .currentRow
  | .preceding _ => .preceding (.constant (.integer 1))
  | .following _ => .following (.constant (.integer 1))

/-- The meaning of a function that looks at a window, the only member of a list.  Its value has
a place among those of the windows of the query. -/
def windowMeaning (c : Context) (scopes : List Scope) (name : String) (kind : FunctionKind)
    (collation : Collation) (arguments : List Meaning) (isFiltered : Bool)
    (filters : Settling (List Meaning)) (windows : List WindowSettler) : Settling Meaning := do
  match windows with
  | [] => return .constant .null
  | own :: _ =>
    let w := (own.among c.windows).toOption.getD own
    let (agreeing, order, frames) := w.written.parts
    let frame := frames.headD usualFrame
    if let .error fault := own.among c.windows then note fault
    if !w.written.isNamed then
      if let some fault := windowFault? kind isFiltered order frame then note fault
    let keys ← noting [] (w.agreeing scopes)
    let terms ← noting [] (w.order scopes)
    let filter ← filters
    let edges ← match ownFrame? name with
      | some (.mk _ start ending _) => pure (start.ownEdge, ending.ownEdge)
      | none => w.edges
    let frame := (ownFrame? name).getD frame
    let (unit, exclusion) := match frame with
      | .mk unit _ _ exclusion => (unit, exclusion)
    let plan : WindowPlan :=
      { agreeing := keys, order := terms, unit, start := edges.1, ending := edges.2, exclusion }
    let place := (← get).windows.length
    let call : WindowCall := { place, name, collation, arguments, filter }
    modify fun p => { p with
      windows := p.windows ++ [{ written := .mk none agreeing order [frame], plan, call }] }
    let m := Meaning.ofParts (arguments ++ filter) fun frames =>
      .ok (((frames.head?.bind fun frame => frame.windows[place]?)).getD .null)
    return { m with classes := .all, collating := none, windows := [place] }

/-- The meaning of a result that an order refers to, whose functions look at their windows again,
before those of the result do. -/
def repeatWindows (m : Meaning) : Settling Meaning := do
  let known := (← get).windows
  let repeated := m.windows.zipIdx.filterMap fun (place, index) =>
    known[place]?.map fun (w : FoundWindow) =>
      (place, { w with
        isRepeated := true
        call := { w.call with place := known.length + index } })
  modify fun p => { p with windows := p.windows ++ repeated.map (·.2) }
  let moved := fun (frame : Frame) =>
    { frame with windows := repeated.foldl (fun values (place, w) =>
        values.set place ((frame.windows[w.call.place]?).getD .null)) frame.windows }
  return { m with
    value := fun
      | [] => m.value []
      | frame :: frames => m.value (moved frame :: frames) }

/-- The functions that look at each window.  Windows that are the same are one. -/
def groupAlike (found : List FoundWindow) : List WindowGroup :=
  let groups := found.foldl (fun groups w =>
    match groups.findIdx? fun (known, _) => Window.same known w.written with
    | some index => groups.modify index fun (known, g) =>
      (known, { g with calls := g.calls ++ [w.call] })
    | none => groups ++ [(w.written, ⟨w.plan, [w.call]⟩)])
    ([] : List (Window × WindowGroup))
  groups.map (·.2)

/-- The functions that look at each window.  What is repeated does not belong to the first
window. -/
def groupWindows (found : List FoundWindow) : List WindowGroup :=
  match found with
  | [] => []
  | first :: _ =>
    let (own, others) := found.partition fun w =>
      !w.isRepeated && Window.same first.written w.written
    ⟨first.plan, own.map FoundWindow.call⟩ :: groupAlike others

/-! ## Arms -/

/-- An arm that is settled. -/
structure SettledArm where
  columns : List ResultColumn
  rows : DependentRows
  aggregates : Bool
  hasWindows : Bool

/-- The order of rows, and the meanings by which results are ordered that are used for these
results, too. -/
structure ResultOrder where
  terms : List SortTerm := []
  repeated : List (Nat × Meaning) := []

/-- How an order is settled behind an arm, by its context, its scopes and its results. -/
abbrev OrderSettler := Context → List Scope → List Result → Settling ResultOrder

/-- How an arm is settled: within a context and scopes, and with an order behind it. -/
abbrev ArmSettler := Context → List Scope → OrderSettler → Settling SettledArm

/-- The keys that an order refers to. -/
def orderKeys (results : List Result) (targets : List (TermTarget × Term)) :
    Settling ResultOrder := do
  let keys ← targets.zipIdx.mapM fun ((target, .mk key _ _), index) => do
    match target with
    | .meaning m => pure m
    | .position _ => repeatWindows (← liftM (target.settle .ordering results index key))
  let terms ← (keys.zip targets).mapM fun (m, _, .mk _ descending nullsFirst) =>
    sortTerm m descending nullsFirst
  let repeated := (targets.zip keys).filterMap fun ((target, _), m) =>
    match target with
    | .position n => if m.windows.isEmpty then none else some (n.toNat - 1, m)
    | .meaning _ => none
  return { terms, repeated }

/-- The meanings of arms, the last of which comes first; all have as many columns. -/
def settleInTurn : List (Arm × Settling SettledArm) → Settling (List SettledArm)
  | [] => return []
  | (_, settle) :: more => do
    let settled ← settleInTurn more
    let own ← settle
    match more, settled with
    | (next, _) :: _, other :: _ =>
      if own.columns.length ≠ other.columns.length then
        throw (if next.isRow then .unevenRows else .unevenColumns next.operator.keywords)
    | _, _ => pure ()
    return own :: settled

/-- The rows of arms, joined by their operators. -/
def armRows (ks : List KeyOrder) (arms : List (Arm × SettledArm)) : DependentRows := fun frames =>
  match arms with
  | [] => .done
  | (_, first) :: more =>
    combineAll ks frames (first.rows frames)
      (more.map fun (arm, settled) => (arm.operator, settled.rows))

/-- The meaning of several arms with the order of their columns, and a limit. -/
def compoundRelation (onlyFirst : Bool) (limit : List Meaning) (order : List Term)
    (arms : List (Arm × SettledArm)) : Settling Relation := do
  let columns := arms.map fun (_, settled) => settled.columns
  let collated := collatedColumns columns
  let ks ← inStage .order (columnOrders collated)
  let places ← compoundOrder collated (arms.map (·.1)) order
  let rows : DependentRows := fun frames => orderedBy places (armRows ks arms frames)
  return ⟨compoundColumns columns, columns.getLastD [], limited onlyFirst limit rows⟩

/-- The meaning of arms whose last ones add rows to those of the ones before them. -/
def recursiveRelation (limit : List Meaning) (order : List Term) (first : Nat)
    (arms : List (Arm × SettledArm)) : Settling Relation := do
  let columns := arms.map fun (_, settled) => settled.columns
  let collated := collatedColumns columns
  let (base, more) := arms.splitAt first
  if more.getLast?.any fun (_, settled) => settled.hasWindows then later .recursiveWindow
  else if more.any fun (_, settled) => settled.aggregates then later .recursiveAggregate
  let ks ← inStage .order (columnOrders collated)
  let places ← compoundOrder collated (arms.map (·.1)) order
  let plan : RecursivePlan :=
    { first := armRows ks base
      more := more.map fun (_, settled) => settled.rows
      distinct := if more.any fun (arm, _) => arm.operator = .union then some ks else none
      order := places }
  return ⟨compoundColumns columns, columns.getLastD [], limited false limit plan.rows⟩

/-- Columns with other names, if some are given. -/
def renamed (names : List String) (columns : List ResultColumn) : List ResultColumn :=
  columns.zipIdx.map fun (column, index) =>
    { column with name := (names[index]?).getD column.name }

/-- The arms of a query. -/
def Select.arms : Select → List Arm
  | .mk _ arms _ _ => arms

/-- A table that is being defined: its name, those of its columns, and the place of the first arm
that refers to its own rows. -/
structure OwnHeading where
  name : String
  names : List String
  first : Nat

/-- What is known within the arms that refer to the rows of the table that is being defined. -/
def Context.withOwn (c : Context) (own : OwnHeading) (columns : List ResultColumn) : Context :=
  let row : SettledDefinition :=
    { name := own.name
      settle := fun _ => return ⟨columns, columns, fun frames =>
        .ofList (frames.head?.map Frame.row).toList⟩ }
  { c with
    tables := { c.tables with own := some ⟨own.name, fun noted => .ok (own.names, noted)⟩ }
    own := some row }

end Sql
end ReportQuery
