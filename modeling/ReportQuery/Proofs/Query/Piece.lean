/-
# What calls add to a query

Every call on a query adds pieces to its clauses (`Step.pieces`), each piece to
one clause, and a query is what its pieces make of the empty one
(`run_eq_foldl_add`).  Whatever is true of all queries is shown for one piece
and carried along the pieces.

In a piece a bound value is a mark at the place of its `?`.  So the pieces of a
script also make a text of the whole query in which every value stands where its
placeholder is written: its `rendering`.  The query that the script builds says
what the rendering spells, and binds what it marks (`sql_run`, `binds_run`).
-/

import ReportQuery.Proofs.Query.MarkedText
import ReportQuery.Proofs.Query.Script

namespace ReportQuery

open MarkedText

/-- A clause of a query. -/
inductive Clause where
  | fields
  | tables
  | predicates
  | grouping
  | ordering
  | limit
deriving DecidableEq

/-- The text of a clause after a piece is added to it. -/
def Clause.extend {α : Type} : Clause → MarkedText α → MarkedText α → MarkedText α
  | .fields, t, piece | .grouping, t, piece | .ordering, t, piece => behind ", " t piece
  | .tables, t, piece => t ++ piece
  | .predicates, t, piece => behind " AND " t piece
  | .limit, _, piece => piece

/-- What a call adds to a clause; only tables and predicates come with values. -/
inductive Piece where
  | field (expr : String)
  | table (text : MarkedText BoundValue)
  | predicate (text : MarkedText BoundValue)
  | group (expr : String)
  | order (expr : String)
  | limit (clause : String)

namespace Piece

/-- The clause that a piece is added to. -/
def clause : Piece → Clause
  | .field _ => .fields
  | .table _ => .tables
  | .predicate _ => .predicates
  | .group _ => .grouping
  | .order _ => .ordering
  | .limit _ => .limit

/-- The text of a piece, with its values as marks. -/
def text : Piece → MarkedText BoundValue
  | .field s | .group s | .order s | .limit s => plain s
  | .table t | .predicate t => t

end Piece

namespace Query

/-! ## Texts with their values in them -/

/-- Some values with commas between them. -/
def listed (values : List BoundValue) : MarkedText BoundValue :=
  separated ", " (values.map fun v => [.mark v])

/-- Being one of some values: an equation for one value, else a list. -/
def oneOfText (values : List BoundValue) : MarkedText BoundValue :=
  if values.length = 1 then plain " = " ++ listed values
  else plain " IN (" ++ listed values ++ plain ")"

/-- Being among the rows of a query. -/
def amongText (query : MarkedText BoundValue) : MarkedText BoundValue :=
  plain " IN (" ++ query ++ plain ") "

/-- A join with its condition. -/
def joinText (join : MarkedText BoundValue) (condition : String) : MarkedText BoundValue :=
  join ++ plain (" ON (" ++ condition ++ ") ")

/-- The text that some pieces make of a clause. -/
def clauseOf (ps : List Piece) (c : Clause) : MarkedText BoundValue :=
  (ps.filter fun p => p.clause = c).foldl (fun t p => c.extend t p.text) []

/-- The text of a query made of some pieces, with its values in it. -/
def rendering (ps : List Piece) : MarkedText BoundValue :=
  plain "SELECT " ++ clauseOf ps .fields ++ plain " FROM " ++ clauseOf ps .tables ++
    optional " WHERE " (clauseOf ps .predicates) ++
    optional " GROUP BY " (clauseOf ps .grouping) ++
    optional " ORDER BY " (clauseOf ps .ordering) ++ plain " " ++ clauseOf ps .limit

/-! ## The pieces of a call -/

/-- The pieces of the query for the locations linked to administrative entities. -/
def linkedLocationPieces (values : List BoundValue) : List Piece :=
  [.field "Link.LocationId", .table (plain "LocationAdminLink Link"),
    .predicate (plain "Link.AdminEntityId" ++ oneOfText values)]

/-- The pieces of one restricted dimension. -/
def restrictionPieces (d : Dimension) (ids : IdSet) : List Piece :=
  let values := ids.ids.map BoundValue.int32
  match d.target? with
  | some (.column name) => [.predicate (plain name ++ oneOfText values)]
  | some .adminEntity =>
    [.predicate (plain "Site.LocationId" ++ amongText (rendering (linkedLocationPieces values)))]
  | none => []

mutual

/-- What a call adds to a query. -/
def Step.pieces : Step → List Piece
  | .appendField expr => [.field expr]
  | .addTables tables => [.table (plain tables)]
  | .leftJoin table condition =>
    condition.toList.map fun on => .table (joinText (plain (" LEFT JOIN " ++ table)) on)
  | .leftJoinDerived derived name condition =>
    let join := plain " LEFT JOIN (" ++ rendering (pieces derived) ++ plain (") AS " ++ name)
    condition.toList.map fun on => .table (joinText join on)
  | .begin _ => []
  | .equalTo expr value => [.predicate (plain (expr ++ " = ") ++ [.mark value] ++ plain " ")]
  | .isIn expr values =>
    if values.isEmpty then [] else [.predicate (plain expr ++ oneOfText values)]
  | .inSubquery expr sub => [.predicate (plain expr ++ amongText (rendering (pieces sub)))]
  | .whereTrue expr => [.predicate (plain expr)]
  | .andRaw expr => [.predicate (plain ("(" ++ expr ++ ") "))]
  | .filteredBy f => f.restrictedDimensions.flatMap fun (d, ids) => restrictionPieces d ids
  | .groupBy expr => [.group expr]
  | .orderBy expr => [.order expr]
  | .setLimit clause => [.limit clause]

/-- What the calls of a script add to a query. -/
def pieces : List Step → List Piece
  | [] => []
  | s :: steps => s.pieces ++ pieces steps

end

theorem pieces_eq_flatMap (steps : List Step) : pieces steps = steps.flatMap Step.pieces := by
  induction steps with
  | nil => rfl
  | cons s steps ih => rw [pieces, ih, List.flatMap_cons]

theorem pieces_append (steps₁ steps₂ : List Step) :
    pieces (steps₁ ++ steps₂) = pieces steps₁ ++ pieces steps₂ := by
  induction steps₁ with
  | nil => rfl
  | cons s steps₁ ih => rw [List.cons_append, pieces, pieces, ih, List.append_assoc]

theorem pieces_snoc (steps : List Step) (s : Step) :
    pieces (steps ++ [s]) = pieces steps ++ s.pieces := by
  rw [pieces_append, pieces, pieces, List.append_nil]

/-! ## A query and the pieces it is made of -/

/-- What stands for a bound value in the text of a query. -/
def placeholder (_ : BoundValue) : String := "?"

theorem placeholder_ne_empty (value : BoundValue) : placeholder value ≠ "" := by
  rw [placeholder]
  decide

/-- The text of a clause of a query. -/
def clauseText (q : Query) : Clause → String
  | .fields => q.fields
  | .tables => q.tables
  | .predicates => q.predicates
  | .grouping => q.grouping
  | .ordering => q.ordering
  | .limit => q.limit

/-- The values that a clause of a query binds. -/
def clauseBinds (q : Query) : Clause → List BoundValue
  | .tables => q.tableBinds
  | .predicates => q.predicateBinds
  | _ => []

/-- The query with one more piece. -/
def add (q : Query) : Piece → Query
  | .field expr => q.appendField expr
  | .table text =>
    { q with
      tables := q.tables ++ spell placeholder text
      tableBinds := q.tableBinds ++ marks text }
  | .predicate text => q.addPredicate (spell placeholder text) (marks text)
  | .group expr => q.groupBy expr
  | .order expr => q.orderBy expr
  | .limit clause => q.setLimit clause

/-- A query is made of some pieces: each clause says what they spell and binds
what they mark. -/
def MadeOf (q : Query) (ps : List Piece) : Prop :=
  ∀ c, q.clauseText c = spell placeholder (clauseOf ps c) ∧ q.clauseBinds c = marks (clauseOf ps c)

theorem clauseOf_snoc (ps : List Piece) (p : Piece) (c : Clause) :
    clauseOf (ps ++ [p]) c =
      if p.clause = c then c.extend (clauseOf ps c) p.text else clauseOf ps c := by
  by_cases h : p.clause = c <;> simp [clauseOf, List.filter_append, h]

/-- What an empty clause has and every piece keeps, every clause has. -/
theorem clauseOf_induction {motive : Clause → MarkedText BoundValue → Prop}
    (nil : ∀ c, motive c [])
    (extend : ∀ c t piece, motive c t → motive c piece → motive c (c.extend t piece))
    {ps : List Piece} (h : ∀ p ∈ ps, motive p.clause p.text) (c : Clause) :
    motive c (clauseOf ps c) := by
  induction ps using List.reverseRecOn with
  | nil => exact nil c
  | append_singleton ps p ih =>
    have hps := ih fun q hq => h q (List.mem_append_left _ hq)
    rw [clauseOf_snoc]
    split
    · next hc => exact extend c _ _ hps (hc ▸ h p (by simp))
    · exact hps

/-- A piece changes its own clause, as `Clause.extend` says, and no other one. -/
theorem MadeOf.add {q : Query} {ps : List Piece} (h : MadeOf q ps) (p : Piece) :
    MadeOf (q.add p) (ps ++ [p]) := by
  intro c
  obtain ⟨ht, hb⟩ := h c
  rw [clauseOf_snoc]
  cases p <;> cases c <;>
    simp_all [Query.add, clauseText, clauseBinds, Piece.clause, Piece.text, Clause.extend,
      appendField, groupBy, orderBy, setLimit, addPredicate, marks_behind,
      spell_behind placeholder_ne_empty]

theorem madeOf_foldl_add (ps : List Piece) : MadeOf (ps.foldl add empty) ps := by
  induction ps using List.reverseRecOn with
  | nil =>
    intro c
    cases c <;> exact ⟨rfl, rfl⟩
  | append_singleton ps p ih =>
    rw [List.foldl_append]
    exact ih.add p

theorem MadeOf.sql {q : Query} {ps : List Piece} (h : MadeOf q ps) :
    q.sql = spell placeholder (rendering ps) := by
  have ht : ∀ c, q.clauseText c = spell placeholder (clauseOf ps c) := fun c => (h c).1
  simp only [rendering, spell_append, spell_plain, spell_optional placeholder_ne_empty, ← ht]
  rfl

theorem MadeOf.binds {q : Query} {ps : List Piece} (h : MadeOf q ps) :
    q.binds = marks (rendering ps) := by
  have hb : ∀ c, q.clauseBinds c = marks (clauseOf ps c) := fun c => (h c).2
  simp only [rendering, marks_append, marks_plain, marks_optional, ← hb, clauseBinds,
    List.nil_append, List.append_nil]
  rfl

/-! ## What a call adds is its pieces -/

theorem spell_listed (values : List BoundValue) :
    spell placeholder (listed values) = ", ".intercalate (List.replicate values.length "?") := by
  rw [listed, spell_separated, List.map_map, List.map_eq_replicate_iff.2]
  intro value _
  simp [placeholder]

theorem marks_listed (values : List BoundValue) : marks (listed values) = values := by
  rw [listed, marks_separated, List.flatMap_map]
  exact List.flatMap_singleton' values

theorem spell_oneOfText (values : List BoundValue) :
    spell placeholder (oneOfText values) = PendingPredicate.membership values.length := by
  rw [oneOfText, PendingPredicate.membership]
  split
  · next h => simp [spell_listed, h]
  · simp [spell_listed, String.append_assoc]

theorem marks_oneOfText (values : List BoundValue) : marks (oneOfText values) = values := by
  rw [oneOfText]
  split <;> simp [marks_listed]

theorem add_oneOfText (q : Query) (expr : String) (values : List BoundValue) :
    q.add (.predicate (plain expr ++ oneOfText values)) = (q.predicate expr).oneOf values := by
  rw [add, spell_append, marks_append, spell_plain, marks_plain, spell_oneOfText, marks_oneOfText]
  rfl

theorem MadeOf.add_amongText {sub : Query} {ps : List Piece} (h : MadeOf sub ps) (q : Query)
    (expr : String) :
    q.add (.predicate (plain expr ++ amongText (rendering ps))) =
      (q.predicate expr).inSubquery sub := by
  simp only [Query.add, amongText, spell_append, marks_append, spell_plain, marks_plain, ← h.sql,
    ← h.binds, List.nil_append, List.append_nil, PendingPredicate.inSubquery, predicate,
    String.append_assoc]

theorem madeOf_linkedLocations (values : List BoundValue) :
    MadeOf (linkedLocations values) (linkedLocationPieces values) := by
  have h : linkedLocations values = (linkedLocationPieces values).foldl add empty := by
    simp only [linkedLocationPieces, List.foldl_cons, List.foldl_nil, add_oneOfText]
    simp [linkedLocations, select, add, addTables]
  exact h ▸ madeOf_foldl_add _

theorem restrictedBy_eq_foldl_add (q : Query) (d : Dimension) (ids : IdSet) :
    q.restrictedBy d ids = (restrictionPieces d ids).foldl add q := by
  rw [restrictedBy, restrictionPieces]
  rcases d.target? with _ | ⟨name⟩ | _
  · rfl
  · exact (add_oneOfText ..).symm
  · exact ((madeOf_linkedLocations _).add_amongText ..).symm

theorem filteredBy_eq_foldl_add (q : Query) (f : Filter) :
    q.filteredBy f = (Step.filteredBy f).pieces.foldl add q := by
  rw [filteredBy, Step.pieces, List.foldl_flatMap]
  congr 1
  funext q r
  exact restrictedBy_eq_foldl_add q r.1 r.2

/-- **A call adds its pieces.**  The scripts inside the call have to build what
their pieces make. -/
theorem Step.apply_eq_foldl_add (s : Step) (q : Query)
    (h : ∀ sub ∈ s.subs, MadeOf (run sub) (Query.pieces sub)) :
    s.apply q = s.pieces.foldl add q := by
  cases s with
  | addTables tables => simp [apply, pieces, add, Query.addTables]
  | leftJoin table condition =>
    cases condition with
    | none => rfl
    | some on =>
      simp [apply, pieces, add, Query.leftJoin, PendingJoin.finish, PendingJoin.complete, joinText,
        String.append_assoc]
  | leftJoinDerived derived name condition =>
    cases condition with
    | none => rfl
    | some on =>
      have hd : MadeOf (runFrom derived empty) (Query.pieces derived) := h derived (by simp [subs])
      simp [apply, pieces, add, Query.leftJoinDerived, PendingJoin.finish, PendingJoin.complete,
        joinText, ← hd.sql, ← hd.binds, String.append_assoc]
  | equalTo expr value =>
    simp [apply, pieces, add, predicate, PendingPredicate.equalTo, placeholder,
      show " = ? " = " = " ++ ("?" ++ " ") by decide]
  | isIn expr values =>
    rw [apply, pieces, PendingPredicate.isIn]
    cases values with
    | nil => rfl
    | cons value values => exact (add_oneOfText ..).symm
  | inSubquery expr sub => exact ((h sub (by simp [subs])).add_amongText q expr).symm
  | whereTrue expr => simp [apply, pieces, add, Query.whereTrue]
  | andRaw expr => simp [apply, pieces, add, Query.andRaw, String.append_assoc]
  | filteredBy f => exact filteredBy_eq_foldl_add q f
  | appendField | begin | groupBy | orderBy | setLimit => rfl

/-- **A query is what the pieces of its script make of the empty one.** -/
theorem run_eq_foldl_add (steps : List Step) : run steps = (pieces steps).foldl add empty := by
  induction steps using script_induction with
  | nil => rfl
  | snoc steps s ih hs =>
    rw [run_snoc, pieces_snoc, List.foldl_append, ← ih]
    refine s.apply_eq_foldl_add (run steps) fun sub hsub => ?_
    rw [hs sub hsub]
    exact madeOf_foldl_add _

theorem madeOf_run (steps : List Step) : MadeOf (run steps) (pieces steps) := by
  rw [run_eq_foldl_add]
  exact madeOf_foldl_add _

theorem sql_run (steps : List Step) :
    (run steps).sql = spell placeholder (rendering (pieces steps)) :=
  (madeOf_run steps).sql

theorem binds_run (steps : List Step) : (run steps).binds = marks (rendering (pieces steps)) :=
  (madeOf_run steps).binds

end Query
end ReportQuery
