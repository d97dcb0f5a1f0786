/-
# The printed query

What the arguments of a command say about a query is a text in which every
identifier of the filter stands where its placeholder is written
(`QueryArguments.text`):

    SELECT fields FROM tables
    [WHERE predicates of the filter AND raw predicates]
    [GROUP BY expressions] [ORDER BY expressions] [LIMIT n]

Building the query fails only if the filter cannot be read, and else gives what
the text spells and marks.  `render` prints the query without the blanks at its
end, and the identifiers; for PostgreSQL the placeholder that is printed as `$k`
belongs to the `k`-th one (`render_prints_text`).

The query is that of a script, so what is known of the renderings of scripts is
known of the text.  The blanks that are cut off do not hide a placeholder: none
of them is a digit, a quote or a `$`.
-/

import ReportQuery.CommandLine.Outcome
import ReportQuery.Proofs.Filter.Document
import ReportQuery.Proofs.Query.Prepared
import ReportQuery.Proofs.Query.Restriction

namespace ReportQuery

open MarkedText

namespace CommandLine
namespace QueryArguments

open Query

/-! ## What the arguments say -/

/-- The filter of the arguments; the empty one if none is given. -/
def readFilter (a : QueryArguments) : Except Json.Fault Filter :=
  match a.filter with
  | none => .ok .empty
  | some json => Filter.ofJson json

/-- The clause that limits the number of rows. -/
def limitText (rows : Nat) : String := "LIMIT " ++ toString rows

/-- The query that the arguments describe, with the identifiers of the filter in it. -/
def text (a : QueryArguments) (f : Filter) : MarkedText BoundValue :=
  plain "SELECT " ++ separated ", " (a.fields.map plain) ++ plain " FROM " ++ plain a.tables ++
    headed " WHERE " " AND " (f.predicateTexts ++ a.predicates.map plain) ++
    headed " GROUP BY " ", " (a.grouping.map plain) ++
    headed " ORDER BY " ", " (a.ordering.map plain) ++
    plain " " ++ plain (a.limit.elim "" limitText)

/-- The texts of the arguments between which separators are written. -/
def separatedTexts (a : QueryArguments) : List String :=
  a.fields ++ a.predicates ++ a.grouping ++ a.ordering

/-- The texts of the arguments that are written into the query as they are. -/
def rawTexts (a : QueryArguments) : List String := a.tables :: a.separatedTexts

/-- The calls that build the query, with the filter that was read. -/
def script (a : QueryArguments) (f : Filter) : List Step :=
  a.fields.map .appendField ++ [.addTables a.tables, .filteredBy f] ++
    a.predicates.map .whereTrue ++ a.grouping.map .groupBy ++ a.ordering.map .orderBy ++
    a.limit.toList.map fun rows => .setLimit (limitText rows)

variable {a : QueryArguments} {f : Filter}

/-! ## The built query -/

theorem readFilter_eq_error_iff {fault : Json.Fault} : a.readFilter = .error fault ↔
    ∃ json, a.filter = some json ∧ Filter.ofJson json = .error fault := by
  rw [readFilter]
  cases a.filter <;> simp

theorem filtered_of_ok (h : a.readFilter = .ok f) (q : Query) :
    filtered q a.filter = .ok (q.filteredBy f) := by
  rw [readFilter] at h
  cases hj : a.filter with
  | none =>
    rw [hj] at h
    cases h
    rfl
  | some json =>
    rw [hj] at h
    rw [filtered, show Filter.ofJson json = .ok f from h]

/-- A query whose filter can be read is the one that the script builds. -/
theorem build_of_ok (h : a.readFilter = .ok f) : a.build = .ok (run (a.script f)) := by
  rw [build, filtered_of_ok h, script, run, runFrom_eq_foldl]
  simp only [List.foldl_append, List.foldl_map]
  cases a.limit <;> rfl

theorem build_of_error {json : String} {fault : Json.Fault} (hj : a.filter = some json)
    (h : Filter.ofJson json = .error fault) : a.build = .error (.invalidFilter json fault) := by
  rw [build, hj, filtered, h]
  rfl

/-- Building a query fails only on a filter that cannot be read. -/
theorem exists_build_eq_error_iff : (∃ e, a.build = .error e) ↔
    ∃ json fault, a.filter = some json ∧ Filter.ofJson json = .error fault := by
  constructor
  · rintro ⟨e, he⟩
    cases hr : a.readFilter with
    | ok f =>
      rw [build_of_ok hr] at he
      cases he
    | error fault =>
      obtain ⟨json, hj⟩ := readFilter_eq_error_iff.1 hr
      exact ⟨json, fault, hj⟩
  · rintro ⟨json, fault, hj, hf⟩
    exact ⟨_, build_of_error hj hf⟩

/-! ## What the query says -/

theorem pieces_script (a : QueryArguments) (f : Filter) :
    pieces (a.script f) = a.fields.map .field ++
      (.table (plain a.tables) :: f.predicateTexts.map .predicate) ++
      (a.predicates.map fun s => .predicate (plain s)) ++ a.grouping.map .group ++
      a.ordering.map .order ++ a.limit.toList.map fun rows => .limit (limitText rows) := by
  simpa [pieces_eq_flatMap, script, List.flatMap_map, Step.pieces, ← List.map_eq_flatMap]
    using pieces_filteredBy f

/-- The texts that a clause of the query is made of. -/
def clauseTexts (a : QueryArguments) (f : Filter) : Clause → List (MarkedText BoundValue)
  | .fields => a.fields.map plain
  | .tables => [plain a.tables]
  | .predicates => f.predicateTexts ++ a.predicates.map plain
  | .grouping => a.grouping.map plain
  | .ordering => a.ordering.map plain
  | .limit => a.limit.toList.map fun rows => plain (limitText rows)

theorem clauseOf_script (a : QueryArguments) (f : Filter) (c : Clause) :
    clauseOf (pieces (a.script f)) c = (a.clauseTexts f c).foldl c.extend [] := by
  rw [pieces_script, clauseOf, ← List.foldl_map]
  congr 1
  cases c <;>
    simp [clauseTexts, List.filter_append, List.filter_map, Function.comp_def, Piece.clause,
      Piece.text]

theorem rendering_script (h : ∀ s ∈ a.separatedTexts, s ≠ "") :
    rendering (pieces (a.script f)) = a.text f := by
  have hn : ∀ ss : List String, (∀ s ∈ ss, s ∈ a.separatedTexts) →
      ∀ t ∈ ss.map (plain (α := BoundValue)), t ≠ [] := by
    intro ss hss t ht
    obtain ⟨s, hs, rfl⟩ := List.mem_map.1 ht
    rw [ne_eq, plain_eq_nil_iff]
    exact h s (hss s hs)
  have hfields := hn a.fields fun s hs => by simp [separatedTexts, hs]
  have hpredicates : ∀ t ∈ f.predicateTexts ++ a.predicates.map plain, t ≠ [] :=
    List.forall_mem_append.2 ⟨fun t => predicateTexts_ne_nil,
      hn a.predicates fun s hs => by simp [separatedTexts, hs]⟩
  have hgrouping := hn a.grouping fun s hs => by simp [separatedTexts, hs]
  have hordering := hn a.ordering fun s hs => by simp [separatedTexts, hs]
  have hl : (a.clauseTexts f .limit).foldl Clause.limit.extend [] =
      plain (a.limit.elim "" limitText) := by
    rw [clauseTexts]
    cases a.limit with
    | none => exact plain_empty.symm
    | some rows => rfl
  rw [text, ← foldl_behind hfields, ← optional_foldl_behind hpredicates,
    ← optional_foldl_behind hgrouping, ← optional_foldl_behind hordering, rendering]
  simp only [clauseOf_script, hl]
  rfl

/-- The values of the text are the identifiers. -/
theorem marks_text (a : QueryArguments) (f : Filter) :
    marks (a.text f) = f.placedIds.map .int32 := by
  have hp : ∀ ss : List String, (ss.map (plain (α := BoundValue))).flatMap marks = [] := by simp
  simp [text, marks_headed, marks_separated, hp, flatMap_marks_predicateTexts]

/-! ## What is printed -/

/-- A query and its values as they are printed in a dialect. -/
structure Prints (a : QueryArguments) (f : Filter) (d : Dialect) (line list : String) : Prop where
  /-- Only blanks of the query are left out, at its end. -/
  query : ∃ blanks, (d.write (spell placeholder (a.text f))).toList = line.toList ++ blanks ∧
    ∀ c ∈ blanks, Text.isBlank c
  /-- No blank is left at the end. -/
  trimmed : ∀ c ∈ line.toList.getLast?, Text.isBlank c = false
  /-- The identifiers are printed as a JSON list. -/
  list_eq : list = Json.list (f.placedIds.map fun id => toString id.toInt)
  /-- The list is read as one of these identifiers. -/
  list_read : ∃ rest, Filter.takeIdList list.toList = .ok (f.placedIds, rest) ∧
    Json.skipSpace rest = []
  /-- There are as many numbers as identifiers, each one once and in this order. -/
  numbers : d = .postgres → (∀ s ∈ a.rawTexts, Closed s) →
    marks (readNumbers false line.toList) = (List.range' 1 f.placedIds.length).map toString
  /-- The placeholder with the number of an identifier stands in its place. -/
  places : d = .postgres → (∀ s ∈ a.rawTexts, Closed s) → ∀ k id, f.placedIds[k]? = some id →
    ∃ place : Nat, (a.text f)[place]? = some (.mark (.int32 id)) ∧
      (readNumbers false line.toList)[place]? = some (.mark (toString (k + 1)))

/-- A blank is no part of a placeholder and does not quote anything. -/
theorem quiet_of_isBlank {c : Char} (h : Text.isBlank c) :
    c.isDigit = false ∧ c ≠ '\'' ∧ c ≠ '$' := by
  refine ⟨?_, ?_, ?_⟩
  · by_contra hd
    rw [Text.isBlank_of_isDigit (Bool.not_eq_false _ ▸ hd)] at h
    exact Bool.false_ne_true h
  · rintro rfl
    exact absurd h (by decide)
  · rintro rfl
    exact absurd h (by decide)

theorem closed_limitText (rows : Nat) : Closed (limitText rows) := by
  refine Quiet.closed fun c hc => ?_
  rw [limitText, String.toList_append, List.mem_append] at hc
  rcases hc with hc | hc
  · have hl : Quiet "LIMIT " := by decide
    exact hl c hc
  · have hd := isDigit_of_mem_toString hc
    refine ⟨?_, ?_, ?_⟩ <;> rintro rfl <;> exact absurd hd (by decide)

theorem closed_rawTexts_script (h : ∀ s ∈ a.rawTexts, Closed s) :
    ∀ s ∈ Query.rawTexts (a.script f), Closed s := by
  intro s hs
  simp only [rawTexts_eq_flatMap, script, List.flatMap_append, List.flatMap_map, List.mem_append,
    List.mem_flatMap, List.mem_cons, List.not_mem_nil, or_false, or_assoc, Step.rawTexts,
    Option.mem_toList, exists_eq_or_imp, exists_eq_left] at hs
  rcases hs with ⟨s, hs, rfl⟩ | rfl | ⟨s, hs, rfl⟩ | ⟨s, hs, rfl⟩ | ⟨s, hs, rfl⟩ | ⟨rows, -, rfl⟩
  · exact h s (by simp [rawTexts, separatedTexts, hs])
  · exact h a.tables (by simp [rawTexts])
  · exact h s (by simp [rawTexts, separatedTexts, hs])
  · exact h s (by simp [rawTexts, separatedTexts, hs])
  · exact h s (by simp [rawTexts, separatedTexts, hs])
  · exact closed_limitText rows

theorem listJson_int32 (ids : List Int32) : BoundValue.listJson (ids.map .int32) =
    Json.list (ids.map fun id => toString id.toInt) := by
  rw [BoundValue.listJson, List.map_map]
  rfl

/-- The printed list of some identifiers is read as a list of them. -/
theorem takeIdList_list (ids : List Int32) :
    ∃ rest, Filter.takeIdList (Json.list (ids.map fun id => toString id.toInt)).toList =
      .ok (ids, rest) ∧ Json.skipSpace rest = [] := by
  have hl : (Json.list (ids.map fun id => toString id.toInt)).toList =
      Json.compact (Filter.idLexemes ids ++ []) := by
    rw [List.append_nil]
    exact Json.toList_list (fun id : Int32 => by simp) ids
  obtain ⟨rest, hr, hs⟩ :=
    Filter.accepts_idLexemes ids [] _ Json.closing_nil (hl ▸ Json.spells_compact _)
  exact ⟨rest, hr, hs.skipSpace_nil⟩

/-- A numbered text without some blanks at its end is read with all its numbers in their places. -/
theorem marks_readNumbers_of_append {t : MarkedText BoundValue} {read : MarkedText String}
    {blanks : List Char} (h : read ++ blanks.map .char = numbered 0 t) :
    marks read = (List.range' 1 (marks t).length).map toString ∧
      ∀ k value, (marks t)[k]? = some value → ∃ place : Nat,
        t[place]? = some (.mark value) ∧ read[place]? = some (.mark (toString (k + 1))) := by
  constructor
  · have hm := marks_numbered 0 t
    have hb : marks (blanks.map (Symbol.char (α := String))) = [] := by simp [marks]
    rwa [← h, marks_append, hb, List.append_nil, Nat.zero_add] at hm
  · intro k value hk
    obtain ⟨place, ht, hn⟩ := exists_getElem?_numbered hk 0
    refine ⟨place, ht, ?_⟩
    rw [← h, List.getElem?_append, Nat.zero_add] at hn
    split at hn
    · exact hn
    · simp at hn

theorem sql_run_script (hn : ∀ s ∈ a.separatedTexts, s ≠ "") :
    (run (a.script f)).sql = spell placeholder (a.text f) := by
  rw [sql_run, rendering_script hn]

theorem binds_run_script (hn : ∀ s ∈ a.separatedTexts, s ≠ "") :
    (run (a.script f)).binds = f.placedIds.map .int32 := by
  rw [binds_run, rendering_script hn, marks_text]

/-- What is read in the numbered query is its text with its values numbered. -/
theorem readNumbers_write (hn : ∀ s ∈ a.separatedTexts, s ≠ "") (h : ∀ s ∈ a.rawTexts, Closed s) :
    readNumbers false (Dialect.postgres.write (spell placeholder (a.text f))).toList =
      numbered 0 (a.text f) := by
  have hc := closed_rawTexts_script (f := f) h
  have hw : Dialect.postgres.write (run (a.script f)).sql =
      ((run (a.script f)).prepare .postgres).sql := rfl
  rw [← sql_run_script hn, hw, sql_prepare_postgres hc, ← rendering_script hn]
  exact readNumbers_spell (settled_rendering hc) (spaced_rendering _) 0

theorem prints (hn : ∀ s ∈ a.separatedTexts, s ≠ "") (d : Dialect) :
    a.Prints f d (Text.trimEnd (d.write (spell placeholder (a.text f))))
      (Json.list (f.placedIds.map fun id => toString id.toInt)) := by
  obtain ⟨blanks, hw, hblanks, hended⟩ :=
    Text.exists_toList_eq_trimEnd (d.write (spell placeholder (a.text f)))
  have hread : d = .postgres → (∀ s ∈ a.rawTexts, Closed s) →
      readNumbers false (Text.trimEnd (d.write (spell placeholder (a.text f)))).toList ++
        blanks.map .char = numbered 0 (a.text f) := by
    rintro rfl hc
    rw [← readNumbers_append fun c hc => quiet_of_isBlank (hblanks c hc), ← hw]
    exact readNumbers_write hn hc
  refine ⟨⟨blanks, hw, hblanks⟩, hended, rfl, takeIdList_list _, fun hd hc => ?_,
    fun hd hc k id hk => ?_⟩
  · rw [(marks_readNumbers_of_append (hread hd hc)).1, marks_text, List.length_map]
  · refine (marks_readNumbers_of_append (hread hd hc)).2 k (.int32 id) ?_
    rw [marks_text, List.getElem?_map, hk]
    rfl

/-- **A command prints the query that its arguments describe.**  Let no text
among them be empty between which separators are written.  Building the query
fails just when a filter is given that cannot be read.  Otherwise the query says
what the text of the arguments spells; it binds the identifiers of the restricted
dimensions that have a place in it, in the order of dimensions and ascending for
each, and these are the values in the text; and `render` prints this query
without the blanks at its end and the identifiers as a list. -/
theorem render_prints_text (a : QueryArguments) (hn : ∀ s ∈ a.separatedTexts, s ≠ "") :
    ((∃ e, a.build = .error e) ↔
        ∃ json fault, a.filter = some json ∧ Filter.ofJson json = .error fault) ∧
      ∀ f, a.readFilter = .ok f →
        (f.restrictedDimensions.map Prod.fst).Pairwise (fun d e => d.ctorIdx < e.ctorIdx) ∧
        (∀ r ∈ f.restrictedDimensions, r.2.ids.Pairwise (· < ·)) ∧
        ∃ q, a.build = .ok q ∧ q.sql = spell placeholder (a.text f) ∧
          q.binds = f.placedIds.map .int32 ∧ marks (a.text f) = q.binds ∧
          ∀ connect d, ∃ line list,
            (Command.render a d).execute connect = { output := [line, list] } ∧
              a.Prints f d line list := by
  refine ⟨exists_build_eq_error_iff, fun f hf => ⟨f.ascending_restrictedDimensions,
    fun r _ => r.2.ascending, run (a.script f), build_of_ok hf, sql_run_script hn,
    binds_run_script hn, ?_, fun connect d => ⟨_, _, ?_, prints hn d⟩⟩⟩
  · rw [binds_run_script hn, marks_text]
  · rw [Command.execute, build_of_ok hf]
    show renderOutcome (run (a.script f)) d = _
    rw [renderOutcome, sql_run_script hn, binds_run_script hn, listJson_int32]

/-- The lists of a filter for two partners and an entity, with no sites. -/
def partnerLists : List (Dimension × List Int32) :=
  [(.partner, [2, 1]), (.adminLevel, [7]), (.site, [])]

/-- A document with these lists. -/
def partnerDocument : String :=
  "\x7b\"restrictions\":" ++
    "\x7b\"Partner\":[2,1],\"AdminLevel\":[7],\"Site\":[]\x7d" ++ "\x7d"

/-- Sites restricted by such a filter; their names are compared with a text that has a `?`. -/
def sitesOfPartners : QueryArguments where
  fields := ["Site.SiteId", "Site.Name"]
  tables := "Site"
  filter := some partnerDocument
  predicates := ["Site.Name <> 'Why?'"]
  ordering := ["Site.Name", "Site.SiteId"]
  limit := some 10

theorem render_prints_text_sitesOfPartners :
    (∀ s ∈ sitesOfPartners.separatedTexts, s ≠ "") ∧
      sitesOfPartners.readFilter = .ok (Filter.empty.setEntries partnerLists) ∧
      (∀ s ∈ sitesOfPartners.rawTexts, Closed s) ∧
      ∃ q, sitesOfPartners.build = .ok q ∧
        q.sql = "SELECT Site.SiteId, Site.Name FROM Site WHERE Site.LocationId IN (SELECT " ++
          "Link.LocationId FROM LocationAdminLink Link WHERE Link.AdminEntityId = ? )  AND " ++
          "Site.PartnerId IN (?, ?) AND Site.Name <> 'Why?' ORDER BY Site.Name, Site.SiteId " ++
          "LIMIT 10" ∧
        q.binds = [.int32 7, .int32 1, .int32 2] ∧
        ∀ connect, ∃ line,
          (Command.render sitesOfPartners .postgres).execute connect =
              { output := [line, "[7,1,2]"] } ∧
            marks (readNumbers false line.toList) = ["1", "2", "3"] := by
  have hn : ∀ s ∈ sitesOfPartners.separatedTexts, s ≠ "" := by decide
  have hc : ∀ s ∈ sitesOfPartners.rawTexts, Closed s := by decide
  have hf : sitesOfPartners.readFilter = .ok (Filter.empty.setEntries partnerLists) := by
    refine Filter.ofJson_documentLexemes ?_
    have ht : partnerDocument.toList = Json.compact (Filter.documentLexemes partnerLists) := by
      decide +kernel
    exact ht ▸ Json.spells_compact _
  have hids : (Filter.empty.setEntries partnerLists).placedIds = [7, 1, 2] := by decide +kernel
  obtain ⟨-, -, q, hq, hsql, hbinds, -, hrender⟩ :=
    (render_prints_text sitesOfPartners hn).2 _ hf
  refine ⟨hn, hf, hc, q, hq, hsql.trans (by decide +kernel), ?_, fun connect => ?_⟩
  · rw [hbinds, hids]
    rfl
  · obtain ⟨line, list, he, hp⟩ := hrender connect .postgres
    have hl : list = "[7,1,2]" := by rw [hp.list_eq, hids]; decide
    refine ⟨line, hl ▸ he, ?_⟩
    rw [hp.numbers rfl hc, hids]
    decide

end QueryArguments
end CommandLine
end ReportQuery
