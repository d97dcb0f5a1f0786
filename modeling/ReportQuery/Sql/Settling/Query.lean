/-
# Settling queries

The names in a statement are settled part by part, and each part gives a meaning.  The
order of parts is the order in which faults are found: of a query first its limit, then
its sources, its results, `HAVING`, `WHERE` with the conditions of joins, the arguments of
sources, `ORDER BY` and `GROUP BY`; of several arms the last one first.  A fault in the
arguments of a function comes before one of the function itself.

A table that a query defines is settled where it is a source, so that it may look at the rows
around that source.
-/

import ReportQuery.Sql.Settling.Basic

namespace ReportQuery
namespace Sql

mutual

/-- The meaning of an expression of one or several values. -/
def settle (c : Context) (scopes : List Scope) : Expr → Settling Tuple
  | .literal value => do
    proceed
    return ⟨[.constant value], false⟩
  | .truth value => do
    proceed
    return ⟨[.ofTruth value], false⟩
  | .number text => do
    proceed
    return ⟨[← numberMeaning false text], false⟩
  | .column n => do
    let m ← liftM (lookup scopes n)
    modify fun p => { p with looks := p.looks ++ m.looks }
    return ⟨[← repeatWindows m], false⟩
  | .parameter number => do
    proceed
    let m := Meaning.constant ((c.parameters[number - 1]?).getD .null)
    return ⟨[{ m with classes := .all }], false⟩
  | .raised => do
    proceed
    later .raisedOutside
    return ⟨[.constant .null], false⟩
  | .apply .negate [.number text] => do
    proceed
    return ⟨[← numberMeaning true text], false⟩
  | .apply .row operands => do
    proceed
    let members ← settleAll c scopes operands
    return ⟨← members.mapM Tuple.single, false⟩
  | .apply .isNull operands => do
    let tuples ← noting [] (settleAll c scopes operands)
    return ⟨[← tuplesMeaning .isNull tuples], false⟩
  | .apply .notNull operands => do
    let tuples ← noting [] (settleAll c scopes operands)
    return ⟨[← tuplesMeaning .notNull tuples], false⟩
  | .apply operator operands => do
    let first ← (operator.firstLookedUp? operands).mapM fun n => liftM (lookup scopes n)
    if first.all fun m => m.truth.isNone then
      let widths ← operands.mapM fun e => liftM (e.width c.tables)
      if operator.isComparison && !haveOneWidth widths then throw .misusedRow
      proceed
    let tuples ← settleAll c scopes operands
    if first.isSome then proceed
    return ⟨[← tuplesMeaning operator tuples], false⟩
  | .call function distinct arguments order filter around => do
    let name := String.ofList (function.toList.map Char.toLower)
    let kind := FunctionKind.find name arguments.length
    let site : CallSite :=
      { allowsAggregates := scopes.head?.any Scope.allowsAggregates
        allowsWindows := scopes.head?.any Scope.allowsWindows
        hasWindow := !around.isEmpty
        isFiltered := !filter.isEmpty
        isOrdered := !order.isEmpty }
    let fault := site.fault? function kind
    let makesOne := fault.isNone && (kind == .aggregate || kind == .window)
    let inner := if makesOne then withinFunction site.hasWindow scopes else scopes
    if name == "likelihood" && (arguments[1]?.any fun e => !e.isProbability) then
      note (.improbable function)
    if let some fault := fault then note fault
    let arguments ← noting [] do (← settleAll c inner arguments).mapM Tuple.single
    let collation ← collationOf ((arguments.filterMap Meaning.collating).head?)
    if !makesOne then
      let m := Meaning.map arguments (scalarValue c.circumstances name collation)
      return ⟨[{ m with classes := .all }], false⟩
    else if site.hasWindow then
      if (← get).noted.isSome then return ⟨[.constant .null], false⟩
      let filters := noting [] do (← settleAll c inner filter).mapM Tuple.single
      let windows := windowSettlers c around
      let m ← windowMeaning c inner name kind collation arguments site.isFiltered filters windows
      return ⟨[m], false⟩
    else
      let order ← noting [] (settleTerms c inner order)
      let filter ← noting [] do (← settleAll c inner filter).mapM Tuple.single
      if distinct && arguments.length != 1 then inStage .limit (later .distinctArguments)
      let call : AggregateCall :=
        { name, collation, arguments, order, filter
          distinct := if distinct then some collation else none }
      modify fun p => { p with
        aggregates := p.aggregates ++ [⟨function, call.level, call.extreme?⟩] }
      return ⟨[{ value := call.value
                 classes := .all
                 looks := [(call.level, 0)]
                 aggregate := if call.level = 0 then some function else none }], false⟩
  | .subquery use tested query => do
    let known ← foundAggregates
    let (relation, looks) ← lookingOut (settleSelect c scopes (use != .membership) none query)
    proceed
    let aggregate := ((← foundAggregates).drop known.length).getLast?.map Aggregate.name
    let tuples ← settleAll c scopes tested
    let meanings ← queryMeanings use (tuples.flatMap Tuple.members) relation
    let aggregate := if use = .existence then none else aggregate
    return ⟨meanings.map fun m => { m with
      looks := m.looks ++ looks
      aggregate := aggregate.orElse fun _ => m.aggregate }, true⟩

/-- The meanings of expressions. -/
def settleAll (c : Context) (scopes : List Scope) : List Expr → Settling (List Tuple)
  | [] => return []
  | e :: es => do return (← settle c scopes e) :: (← settleAll c scopes es)

/-- The meanings of conditions that are looked at one after the other, and hold for a row. -/
def settleConjuncts (c : Context) (scopes : List Scope) : List Expr → Settling (List Meaning)
  | [] => return []
  | e :: es => do
    let own ← keepingFirst do
      let m ← (← settle c scopes e).single
      misused m.aggregate
      return m
    return own :: (← settleConjuncts c scopes es)

/-- The keys of terms that refer to no results. -/
def settleTerms (c : Context) (scopes : List Scope) : List Term → Settling (List SortTerm)
  | [] => return []
  | .mk key descending nullsFirst :: terms => do
    let m ← (← settle c scopes key).single
    return (← sortTerm m descending nullsFirst) :: (← settleTerms c scopes terms)

/-- The keys of values in which rows agree. -/
def settleKeys (c : Context) (scopes : List Scope) : List Expr → Settling (List SortTerm)
  | [] => return []
  | e :: es => do
    let m ← (← settle c scopes e).single
    return (← sortTerm m false true) :: (← settleKeys c scopes es)

/-- How a window is settled. -/
def windowSettler (c : Context) : Window → WindowSettler
  | .named name =>
    { written := .named name
      agreeing := fun _ => pure []
      order := fun _ => pure []
      edges := pure (.unbounded, .currentRow) }
  | .mk base agreeing order frame =>
    { written := .mk base agreeing order frame
      agreeing := fun scopes => settleKeys c scopes agreeing
      order := fun scopes => settleTerms c scopes order
      edges := settleFrames c frame }

/-- How windows are settled. -/
def windowSettlers (c : Context) : List Window → List WindowSettler
  | [] => []
  | w :: windows => windowSettler c w :: windowSettlers c windows

/-- How the windows of an arm that have names are settled. -/
def namedSettlers (c : Context) : List NamedWindow → List WindowSettler
  | [] => []
  | .mk name window :: windows =>
    { windowSettler c window with name := some name } :: namedSettlers c windows

/-- The edges of the first one of frames, or of the usual frame. -/
def settleFrames (c : Context) : List WindowFrame → Settling (Edge Meaning × Edge Meaning)
  | [] => return (.unbounded, .currentRow)
  | .mk _ start ending _ :: _ => do return (← settleBound c start, ← settleBound c ending)

/-- An edge of a frame. -/
def settleBound (c : Context) : FrameBound → Settling (Edge Meaning)
  | .unbounded => return .unbounded
  | .currentRow => return .currentRow
  | .preceding offset => do return .preceding (← (← settle c [] offset).single)
  | .following offset => do return .following (← (← settle c [] offset).single)

/-- What the terms of an order refer to; `index` is the place of the first one. -/
def orderTargets (c : Context) (scopes : List Scope) (results : List Result) (index : Nat) :
    List Term → Settling (List TermTarget)
  | [] => return []
  | .mk key _ _ :: terms => do
    let target ← match namedResult? results key with
      | some target => pure target
      | none => match ← numberedResult? .ordering index results.length key with
        | some target => pure target
        | none => do pure (.meaning (← (← settle c scopes key).single))
    proceed
    return target :: (← orderTargets c scopes results (index + 1) terms)

/-- What the terms of a grouping refer to. -/
def groupTargets (c : Context) (scopes : List Scope) (results : List Result) (index : Nat) :
    List Expr → Settling (List TermTarget)
  | [] => return []
  | e :: es => do
    let target ← match ← numberedResult? .grouping index results.length e with
      | some target => pure target
      | none => do pure (.meaning (← (← settle c scopes e).single))
    proceed
    return target :: (← groupTargets c scopes results (index + 1) es)

/-- The results that columns give. -/
def settleColumns (c : Context) (scopes : List Scope) (scope : Scope)
    (headings : List SourceHeading) (index : Nat) : List Column → Settling (List Result)
  | [] => return []
  | .all table :: columns => do
    let places ← liftM (starPlaces headings table)
    let own ← places.mapM fun place => do
      let m ← liftM (starMeaning scope place)
      proceed
      return { title := place.name, given := some place.name, meaning := m : Result }
    return own ++ (← settleColumns c scopes scope headings (index + own.length) columns)
  | .value e given written :: columns => do
    let width ← liftM (e.width c.tables)
    let m ← (← settle c (scope :: scopes) e).single
    proceed
    let title := (given.orElse fun _ => m.column.orElse fun _ => written).getD (numberedName index)
    let more ← settleColumns c scopes scope headings (index + 1) columns
    return ⟨title, given, m, width = 1⟩ :: more

/-- Where the rows of sources come from. -/
def settleSources (c : Context) (scopes : List Scope) :
    List Source → Settling (List SettledSource)
  | [] => return []
  | .mk (.table schema table called _ index) name _ _ _ :: sources => do
    let own ← match c.defined? schema table with
      | some d => do
        let relation ← d.settle scopes
        proceed
        pure (relation.settled (name.getD d.name))
      | none => do pure ((← liftM (c.tables.catalog.find schema table called index)).settled name)
    return own :: (← settleSources c scopes sources)
  | .mk (.rows query) name _ _ _ :: sources => do
    let relation ← settleSelect c scopes false none query
    proceed
    return relation.settled name :: (← settleSources c scopes sources)

/-- The conditions of joins, for each source. -/
def settleConditions (c : Context) (scopes : List Scope) :
    List Source → Settling (List (List Meaning))
  | [] => return []
  | .mk _ _ _ condition _ :: sources => do
    let own ← settleConjuncts c scopes condition
    return own :: (← settleConditions c scopes sources)

/-- The arguments of each source. -/
def settleArguments (c : Context) (scopes : List Scope) :
    List Source → Settling (List (List Meaning))
  | [] => return []
  | .mk (.table _ _ _ arguments _) _ _ _ _ :: sources => do
    let own ← (← settleAll c scopes arguments).mapM Tuple.single
    return own :: (← settleArguments c scopes sources)
  | .mk (.rows _) _ _ _ _ :: sources => do return [] :: (← settleArguments c scopes sources)

/-- The meaning of an arm; `orderBy` settles the order, which stands behind it. -/
def settleArm (c : Context) (scopes : List Scope)
    (orderBy : OrderSettler) : Arm → Settling SettledArm
  | .mk _ distinct columns sources condition groups having windows => do
    let headings ← liftM (headingsOf c.tables sources)
    let settled ← inStage .sources (settleSources c scopes sources)
    let c := { c with windows := namedSettlers c windows }
    let scope : Scope :=
      { sources := scopeSources 0 (settled.zip (headings.zip sources))
        allowsWindows := true }
    let outer ← get
    modify fun p => { p with aggregates := [], windows := [] }
    let results ← settleColumns c scopes scope headings 0 columns
    let aggregates := !groups.isEmpty || !(← foundAggregates).isEmpty
    let scope := { scope with
      results := results.filterMap fun r => r.given.map fun name =>
        ⟨name, r.meaning, r.isSingle⟩
      allowsAggregates := aggregates
      allowsWindows := false }
    if !having.isEmpty && !aggregates then throw .havingWithoutGroups
    let having ← (← settleAll c (scope :: scopes) having).mapM Tuple.single
    proceed
    let condition ← inStage .condition (settleConjuncts c (scope :: scopes) condition)
    let conditions ← inStage .condition (settleConditions c (scope :: scopes) sources)
    proceed
    let arguments ← inStage .condition (settleArguments c (scope :: scopes) sources)
    proceed
    inStage .condition ((settled.zip arguments).forM fun (s, own) => s.checkArguments own)
    let gathers := scope.sources.any fun s => s.join.keepsRight
    let placed ← (scope.sources.zip (settled.zip conditions)).mapM fun (s, own, conditions) =>
      inStage .condition
        (placeConditions (gathers || s.join.keepsLeft) (s.start + own.width) conditions)
    let alone := { scope with allowsAggregates := true }
    let ⟨order, repeated⟩ ← orderBy c [{ alone with allowsWindows := true }] results
    if !aggregates then order.forM fun term => misused term.key.aggregate
    let targets ← groupTargets c [alone] results 0 groups
    let keys ← (targets.zip groups).zipIdx.mapM fun ((target, e), index) =>
      liftM (target.settle .grouping results index e)
    if keys.any fun m => m.aggregate.isSome then throw .groupingByAggregate
    let found := (← get).windows
    let sorting := match (groupWindows found).getLast? with
      | some g => g.plan.agreeing ++ g.plan.order
      | none => order
    let downwards :=
      if sorting.length = keys.length then sorting.map fun t => t.order.descending else []
    let groups ← keys.zipIdx.mapM fun (m, index) =>
      let descending := downwards[index]?.getD false
      sortTerm m descending !descending
    let joined ← joinedSources gathers []
      ((settled.zip scope.sources).zip (arguments.zip placed) |>.map
        fun ((settled, inScope), arguments, conditions, _) =>
          { settled, inScope, arguments, conditions })
    let own ← takeAggregates outer.aggregates
    modify fun p => { p with windows := outer.windows }
    let columns := results.map fun r : Result =>
      { name := r.title
        affinity := r.meaning.affinity
        classes := r.meaning.classes
        collating := r.meaning.collating : ResultColumn }
    let orders ← inStage .order do
      if distinct then some <$> columnOrders columns else pure none
    let plan : ArmPlan :=
      { sources := joined
        conditions := condition ++ placed.flatMap (·.2)
        aggregates
        groups
        extremes := own.filterMap Aggregate.extreme
        having
        windows := groupWindows found
        order
        results := results.zipIdx.map fun (r, index) =>
          ((repeated.find? fun (place, _) => place == index).map (·.2)).getD r.meaning
        distinct := orders }
    return ⟨columns, plan.rows, aggregates, !found.isEmpty⟩

/-- How arms are settled. -/
def armSettlers : List Arm → List (Arm × ArmSettler)
  | [] => []
  | arm :: arms =>
    (arm, fun c scopes orderBy => settleArm c scopes orderBy arm) :: armSettlers arms

/-- The meaning of a query, of which all rows are used or only the first one.  If it defines a
table, its last arms may refer to its own rows; what these are like is told by all arms, for
which they are first taken to like nothing. -/
def settleSelect (c : Context) (scopes : List Scope) (onlyFirst : Bool)
    (defined : Option OwnHeading) : Select → Settling Relation
  | .mk definitions arms order limit => do
    let c := c.within (definitionSettlers definitions)
    let withLimit := !limit.isEmpty
    let limit ← inStage .limit do (← settleAll c [] limit).mapM Tuple.single
    if withLimit then proceed
    let settlers := armSettlers arms
    let unordered : OrderSettler := fun _ _ _ => pure {}
    match settlers, defined with
    | [(_, settle)], _ =>
      let orderBy := fun c scopes results => do
        let targets ← orderTargets c scopes results 0 order
        orderKeys results (targets.zip order)
      let own ← settle c scopes orderBy
      return ⟨own.columns, own.columns, limited onlyFirst limit own.rows⟩
    | settlers, none =>
      let settled ← settleInTurn (settlers.map fun (arm, settle) =>
        (arm, settle c scopes unordered))
      compoundRelation onlyFirst limit order (arms.zip settled)
    | settlers, some own =>
      let (base, more) := settlers.splitAt own.first
      let settlersWith := fun columns =>
        base.map (fun (arm, settle) => (arm, settle c scopes unordered)) ++
        more.map fun (arm, settle) =>
          (arm, behindRow (settle (c.withOwn own columns) ({ sources := [] } :: scopes) unordered))
      let tried ← trying (settleInTurn (settlersWith (own.names.map fun name => { name })))
      let columns := renamed own.names (compoundColumns (tried.map SettledArm.columns))
      let settled ← settleInTurn (settlersWith columns)
      recursiveRelation limit order own.first (arms.zip settled)

/-- How a definition of a table is settled. -/
def definitionSettler : Definition → SettlingDefiner
  | .mk name columns query =>
    let definer := (Definition.mk name columns query).definer
    { definer
      settle := fun c scopes => do
        let first := query.arms.length - recursiveArms name query.arms
        let own ← if first = query.arms.length then pure none else do
          let names ← liftM (definer.heading fun _ => c.tables).outcome
          pure (some { name, names, first : OwnHeading })
        let relation ← settleSelect c scopes false own query
        return { relation with columns := renamed columns relation.columns } }

/-- How definitions of tables are settled. -/
def definitionSettlers : List Definition → List SettlingDefiner
  | [] => []
  | d :: definitions => definitionSettler d :: definitionSettlers definitions

end

/-- Settles a query, and all that is wrong with it before it is run. -/
def prepare (c : Context) (query : Select) : Except Fault Relation := do
  let _ ← query.heading c.tables
  let (relation, progress) ← (settleSelect c [] false none query).run {}
  match progress.late with
  | some late => throw late.fault
  | none => return relation

end Sql
end ReportQuery
