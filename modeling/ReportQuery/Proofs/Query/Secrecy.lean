/-
# Values stay out of the text

Two scripts are alike if they make the same calls with the same raw texts, and
may bind other values: another value in an equation, other values in a list of as
many, and filters that restrict the dimensions that have a place in a query to as
many identifiers each.  The scripts inside of them are alike in turn.

Alike scripts build queries that look alike: the texts of their clauses are the
same, and each clause binds as many values.  A call keeps this up whatever values
it binds (`Step.Alike.apply`), so nobody who sees the text of a query, prepared
for whichever database, learns more of its values than how many there are
(`sql_eq_of_alike`).
-/

import ReportQuery.Proofs.Query.Script

namespace ReportQuery

/-- Filters that restrict the dimensions that have a place in a query to as many
identifiers each.  Other dimensions do not matter. -/
def Filter.Alike (f g : Filter) : Prop :=
  ∀ d : Dimension, d.target?.isSome →
    (f.restrictions d).map IdSet.size = (g.restrictions d).map IdSet.size

namespace Query

/-! ## Alike scripts -/

mutual

/-- Calls that may differ in the values they bind, and in nothing else. -/
inductive Step.Alike : Step → Step → Prop
  | same (s : Step) : Step.Alike s s
  | equalTo (expr : String) (value value' : BoundValue) :
    Step.Alike (.equalTo expr value) (.equalTo expr value')
  | isIn (expr : String) {values values' : List BoundValue}
    (h : values.length = values'.length) : Step.Alike (.isIn expr values) (.isIn expr values')
  | filteredBy {f g : Filter} (h : f.Alike g) : Step.Alike (.filteredBy f) (.filteredBy g)
  | inSubquery (expr : String) {sub sub' : List Step} (h : Alike sub sub') :
    Step.Alike (.inSubquery expr sub) (.inSubquery expr sub')
  | leftJoinDerived {derived derived' : List Step} (h : Alike derived derived') (name : String)
    (condition : Option String) :
    Step.Alike (.leftJoinDerived derived name condition) (.leftJoinDerived derived' name condition)

/-- Scripts whose calls are alike one by one. -/
inductive Alike : List Step → List Step → Prop
  | nil : Alike [] []
  | cons {s s' : Step} {steps steps' : List Step} (hs : s.Alike s') (h : Alike steps steps') :
    Alike (s :: steps) (s' :: steps')

end

/-! ## Queries that look alike -/

/-- Queries with the same texts that bind as many values in each clause. -/
structure LooksLike (q q' : Query) : Prop where
  fields : q.fields = q'.fields
  tables : q.tables = q'.tables
  predicates : q.predicates = q'.predicates
  grouping : q.grouping = q'.grouping
  ordering : q.ordering = q'.ordering
  limit : q.limit = q'.limit
  tableBinds : q.tableBinds.length = q'.tableBinds.length
  predicateBinds : q.predicateBinds.length = q'.predicateBinds.length

namespace LooksLike

variable {q q' : Query}

theorem refl (q : Query) : q.LooksLike q := ⟨rfl, rfl, rfl, rfl, rfl, rfl, rfl, rfl⟩

theorem sql (h : q.LooksLike q') : q.sql = q'.sql := by
  rw [Query.sql, Query.sql, h.fields, h.tables, h.predicates, h.grouping, h.ordering, h.limit]

theorem length_binds (h : q.LooksLike q') : q.binds.length = q'.binds.length := by
  rw [Query.binds, Query.binds, List.length_append, List.length_append, h.tableBinds,
    h.predicateBinds]

theorem addPredicate (h : q.LooksLike q') (text : String) {binds binds' : List BoundValue}
    (hb : binds.length = binds'.length) :
    (q.addPredicate text binds).LooksLike (q'.addPredicate text binds') :=
  { h with
    predicates := congrArg (appendPiece " AND " · text) h.predicates
    predicateBinds := by
      rw [Query.addPredicate, Query.addPredicate, List.length_append, List.length_append,
        h.predicateBinds, hb] }

theorem oneOf (h : q.LooksLike q') (expr : String) {values values' : List BoundValue}
    (hv : values.length = values'.length) :
    ((q.predicate expr).oneOf values).LooksLike ((q'.predicate expr).oneOf values') := by
  rw [PendingPredicate.oneOf, PendingPredicate.oneOf, hv]
  exact h.addPredicate _ hv

/-- Lists of the same length are both refused or both accepted. -/
theorem isIn (h : q.LooksLike q') (expr : String) {values values' : List BoundValue}
    (hv : values.length = values'.length) :
    ((Step.isIn expr values).apply q).LooksLike ((Step.isIn expr values').apply q') := by
  cases values with
  | nil =>
    obtain rfl := List.eq_nil_of_length_eq_zero hv.symm
    exact h
  | cons value values =>
    cases values' with
    | nil => exact nomatch hv
    | cons value' values' => exact h.oneOf expr hv

theorem inSubquery (h : q.LooksLike q') (expr : String) {sub sub' : Query}
    (hs : sub.LooksLike sub') :
    ((q.predicate expr).inSubquery sub).LooksLike ((q'.predicate expr).inSubquery sub') := by
  rw [PendingPredicate.inSubquery, PendingPredicate.inSubquery, hs.sql]
  exact h.addPredicate _ hs.length_binds

theorem finish (h : q.LooksLike q') (join : String) {binds binds' : List BoundValue}
    (hb : binds.length = binds'.length) (condition : Option String) :
    (PendingJoin.finish ⟨q, join, binds⟩ condition).LooksLike
      (PendingJoin.finish ⟨q', join, binds'⟩ condition) := by
  cases condition with
  | none => exact h
  | some on =>
    refine { h with tables := ?_, tableBinds := ?_ }
    · exact congrArg (· ++ join ++ " ON (" ++ on ++ ") ") h.tables
    · rw [PendingJoin.finish, PendingJoin.finish, PendingJoin.complete, PendingJoin.complete,
        List.length_append, List.length_append, h.tableBinds, hb]

theorem leftJoinDerived (h : q.LooksLike q') {derived derived' : Query}
    (hd : derived.LooksLike derived') (name : String) (condition : Option String) :
    ((q.leftJoinDerived derived name).finish condition).LooksLike
      ((q'.leftJoinDerived derived' name).finish condition) := by
  rw [Query.leftJoinDerived, Query.leftJoinDerived, hd.sql]
  exact h.finish _ hd.length_binds condition

/-! ## Calls on queries that look alike -/

theorem restrictedBy (h : q.LooksLike q') (d : Dimension) {ids ids' : IdSet}
    (hi : ids.size = ids'.size) : (q.restrictedBy d ids).LooksLike (q'.restrictedBy d ids') := by
  have hv : (ids.ids.map BoundValue.int32).length = (ids'.ids.map BoundValue.int32).length := by
    rw [List.length_map, List.length_map]
    exact hi
  rw [Query.restrictedBy, Query.restrictedBy]
  cases d.target? with
  | none => exact h
  | some target =>
    cases target with
    | column name => exact h.oneOf name hv
    | adminEntity => exact h.inSubquery _ ((refl _).oneOf _ hv)

/-- A dimension that has no place in a query may be restricted or not. -/
theorem elim_restrictedBy (h : q.LooksLike q') (d : Dimension) {ids ids' : Option IdSet}
    (hi : d.target?.isSome → ids.map IdSet.size = ids'.map IdSet.size) :
    (ids.elim q (q.restrictedBy d)).LooksLike (ids'.elim q' (q'.restrictedBy d)) := by
  cases ht : d.target? with
  | none =>
    have hn : ∀ (q : Query) (ids : Option IdSet), ids.elim q (q.restrictedBy d) = q := by
      intro q ids
      cases ids with
      | none => rfl
      | some ids => rw [Option.elim, Query.restrictedBy, ht]
    rw [hn, hn]
    exact h
  | some target =>
    have he := hi (ht ▸ rfl)
    cases ids with
    | none =>
      cases ids' with
      | none => exact h
      | some ids' => exact nomatch he
    | some ids =>
      cases ids' with
      | none => exact nomatch he
      | some ids' => exact h.restrictedBy d (Option.some.inj he)

theorem filteredBy (h : q.LooksLike q') {f g : Filter} (hf : f.Alike g) :
    (q.filteredBy f).LooksLike (q'.filteredBy g) := by
  have hall : ∀ (q : Query) (f : Filter), q.filteredBy f =
      Dimension.all.foldl (fun q d => (f.restrictions d).elim q (q.restrictedBy d)) q := by
    intro q f
    rw [Query.filteredBy, Filter.restrictedDimensions, List.foldl_filterMap]
    congr 1
    funext q d
    cases f.restrictions d <;> rfl
  rw [hall, hall]
  induction Dimension.all generalizing q q' with
  | nil => exact h
  | cons d ds ih => exact ih (h.elim_restrictedBy d (hf d))

theorem apply (h : q.LooksLike q') (s : Step) : (s.apply q).LooksLike (s.apply q') := by
  cases s with
  | appendField expr => exact { h with fields := congrArg (appendPiece ", " · expr) h.fields }
  | addTables tables => exact { h with tables := congrArg (· ++ tables) h.tables }
  | leftJoin table condition => exact h.finish _ rfl condition
  | leftJoinDerived derived name condition => exact h.leftJoinDerived (refl _) name condition
  | begin expr => exact h
  | equalTo expr value => exact h.addPredicate _ rfl
  | isIn expr values => exact h.isIn expr rfl
  | inSubquery expr sub => exact h.inSubquery expr (refl _)
  | whereTrue expr => exact h.addPredicate _ rfl
  | andRaw expr => exact h.addPredicate _ rfl
  | filteredBy f => exact h.filteredBy fun _ _ => rfl
  | groupBy expr => exact { h with grouping := congrArg (appendPiece ", " · expr) h.grouping }
  | orderBy expr => exact { h with ordering := congrArg (appendPiece ", " · expr) h.ordering }
  | setLimit clause => exact { h with limit := rfl }

end LooksLike

/-! ## Alike scripts build queries that look alike -/

mutual

/-- **Alike calls keep queries looking alike.** -/
theorem Step.Alike.apply : ∀ {s s' : Step}, s.Alike s' → ∀ {q q' : Query}, q.LooksLike q' →
    (s.apply q).LooksLike (s'.apply q')
  | _, _, .same s, _, _, h => h.apply s
  | _, _, .equalTo _ _ _, _, _, h => h.addPredicate _ rfl
  | _, _, .isIn expr hv, _, _, h => h.isIn expr hv
  | _, _, .filteredBy hf, _, _, h => h.filteredBy hf
  | _, _, .inSubquery expr hs, _, _, h => h.inSubquery expr (hs.runFrom (.refl _))
  | _, _, .leftJoinDerived hd name condition, _, _, h =>
    h.leftJoinDerived (hd.runFrom (.refl _)) name condition

theorem Alike.runFrom : ∀ {steps steps' : List Step}, Alike steps steps' → ∀ {q q' : Query},
    q.LooksLike q' → (runFrom steps q).LooksLike (runFrom steps' q')
  | _, _, .nil, _, _, h => h
  | _, _, .cons hs hr, _, _, h => hr.runFrom (hs.apply h)

end

/-- **The text of a query does not depend on its values.**  Scripts that make the
same calls with the same raw texts, and bind other values, build queries of the
same text, also when they are prepared for a database of any kind, and with the
same number of values. -/
theorem sql_eq_of_alike {steps steps' : List Step} (h : Alike steps steps') :
    (run steps).sql = (run steps').sql ∧
      (∀ database, ((run steps).prepare database).sql = ((run steps').prepare database).sql) ∧
      (run steps).binds.length = (run steps').binds.length := by
  have hq : (run steps).LooksLike (run steps') := h.runFrom (.refl empty)
  refine ⟨hq.sql, fun database => ?_, hq.length_binds⟩
  rw [prepare, prepare, hq.sql]

/-- The sites of some partners and projects that have a value of some label. -/
def labelledSites (label : String) (partners projects : List Int32) : List Step :=
  [.appendField "Site.SiteId", .addTables "Site",
    .filteredBy ((Filter.empty.restrict .partner partners).restrict .project projects),
    .inSubquery "Site.SiteId" [.appendField "Value.SiteId", .addTables "Value",
      .equalTo "Value.Label" (.string label)]]

theorem sql_eq_of_alike_labelledSites :
    Alike (labelledSites "x" [1, 2] [5]) (labelledSites "' OR '?' = '$1" [4, 3] []) ∧
      (run (labelledSites "x" [1, 2] [5])).sql =
        (run (labelledSites "' OR '?' = '$1" [4, 3] [])).sql := by
  have hf : Filter.Alike ((Filter.empty.restrict .partner [1, 2]).restrict .project [5])
      ((Filter.empty.restrict .partner [4, 3]).restrict .project []) := by
    intro d
    cases d <;> decide
  have h : Alike (labelledSites "x" [1, 2] [5]) (labelledSites "' OR '?' = '$1" [4, 3] []) :=
    .cons (.same _) (.cons (.same _) (.cons (.filteredBy hf) (.cons (.inSubquery _
      (.cons (.same _) (.cons (.same _) (.cons (.equalTo _ _ _) .nil)))) .nil)))
  exact ⟨h, (sql_eq_of_alike h).1⟩

end Query
end ReportQuery
