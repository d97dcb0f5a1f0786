/-
# Restricting a query by a filter

A query is restricted by a filter as a caller would do it who goes through the
restricted dimensions in order and makes the public calls himself: `isIn` with
the column of the dimension, or `inSubquery` with the query for the linked
locations, for which `isIn` is called in turn.  These calls refuse an empty list
and restricting by a filter does not look for one, yet the outcome is the same,
because a dimension without identifiers is not restricted.

What is added is one predicate for each restriction that has a place in a query
(`Filter.placed`), and all is told by these: what the predicates say, which
values they bind, and that none of them has an empty list
(`filteredBy_eq_calls`).
-/

import Mathlib.Algebra.Ring.Nat
import Mathlib.Data.List.Chain
import ReportQuery.Proofs.Filter.Change
import ReportQuery.Proofs.Query.Piece

namespace ReportQuery

open MarkedText

/-! ## Restrictions that have a place in a query -/

/-- The query for the locations linked to some administrative entities. -/
def Query.linkedLocationsText (values : List BoundValue) : MarkedText BoundValue :=
  plain "SELECT Link.LocationId FROM LocationAdminLink Link WHERE Link.AdminEntityId" ++
    Query.oneOfText values ++ plain " "

/-- The predicate that restricts a query to some values, with the values in it. -/
def Target.predicateText (values : List BoundValue) : Target → MarkedText BoundValue
  | .column name => plain name ++ Query.oneOfText values
  | .adminEntity => plain "Site.LocationId" ++ Query.amongText (Query.linkedLocationsText values)

namespace Filter

/-- The restrictions that have a place in a query, in the order of dimensions. -/
def placed (f : Filter) : List (Target × IdSet) :=
  f.restrictedDimensions.filterMap fun r => r.1.target?.map fun t => (t, r.2)

/-- The identifiers that a query is restricted to, each set in ascending order. -/
def placedIds (f : Filter) : List Int32 := f.placed.flatMap fun p => p.2.ids

/-- The predicates that restrict a query, with their values in them. -/
def predicateTexts (f : Filter) : List (MarkedText BoundValue) :=
  f.placed.map fun p => p.1.predicateText (p.2.ids.map .int32)

variable {f : Filter}

/-- A restriction has an identifier at least. -/
theorem ids_ne_nil {r : Dimension × IdSet} (h : r ∈ f.restrictedDimensions) : r.2.ids ≠ [] := by
  obtain ⟨⟨id, hid⟩, hm⟩ := restrictions_eq_some_iff.1 (mem_restrictedDimensions.1 h)
  exact List.ne_nil_of_mem ((hm id).2 hid)

theorem mem_placed {p : Target × IdSet} :
    p ∈ f.placed ↔ ∃ r ∈ f.restrictedDimensions, r.1.target? = some p.1 ∧ r.2 = p.2 := by
  simp [placed, Prod.ext_iff]

/-- The restrictions of dimensions without a place do not count. -/
theorem placed_congr {g : Filter}
    (h : ∀ d : Dimension, d.target?.isSome → f.restrictions d = g.restrictions d) :
    f.placed = g.placed := by
  rw [placed, placed, restrictedDimensions, restrictedDimensions, List.filterMap_filterMap,
    List.filterMap_filterMap]
  refine List.filterMap_congr fun d _ => ?_
  cases ht : d.target? with
  | none => cases f.restrictions d <;> cases g.restrictions d <;> simp [ht]
  | some t => rw [h d (ht ▸ rfl)]

/-- There are as many identifiers as the placed dimensions have together. -/
theorem length_placedIds (f : Filter) : f.placedIds.length =
    ((f.restrictedDimensions.filter fun r => r.1.target?.isSome).map fun r => r.2.size).sum := by
  rw [placedIds, placed]
  induction f.restrictedDimensions with
  | nil => rfl
  | cons r rs ih =>
    cases ht : r.1.target? with
    | none => simpa [ht] using ih
    | some t => simpa [ht, IdSet.size] using ih

end Filter

namespace Query

/-! ## What restricting adds -/

theorem rendering_linkedLocationPieces (values : List BoundValue) :
    rendering (linkedLocationPieces values) = linkedLocationsText values := by
  have hw : (plain "SELECT Link.LocationId FROM LocationAdminLink Link WHERE Link.AdminEntityId" :
      MarkedText BoundValue) = plain "SELECT " ++ plain "Link.LocationId" ++ plain " FROM " ++
        plain "LocationAdminLink Link" ++ plain " WHERE " ++ plain "Link.AdminEntityId" := by
    decide
  rw [linkedLocationsText, hw]
  simp [rendering, linkedLocationPieces, clauseOf, Piece.clause, Piece.text, Clause.extend, behind,
    MarkedText.optional]

theorem restrictionPieces_eq (d : Dimension) (ids : IdSet) :
    restrictionPieces d ids =
      d.target?.toList.map fun t => .predicate (t.predicateText (ids.ids.map .int32)) := by
  rw [restrictionPieces]
  rcases d.target? with _ | ⟨name⟩ | _
  · rfl
  · rfl
  · rw [rendering_linkedLocationPieces]
    rfl

theorem pieces_filteredBy (f : Filter) :
    (Step.filteredBy f).pieces = f.predicateTexts.map .predicate := by
  have hp : (Step.filteredBy f).pieces =
      f.restrictedDimensions.flatMap fun r => restrictionPieces r.1 r.2 := rfl
  rw [hp, Filter.predicateTexts, Filter.placed, List.filterMap_eq_flatMap_toList,
    List.map_flatMap, List.map_flatMap]
  refine List.flatMap_congr fun r _ => ?_
  rw [restrictionPieces_eq]
  cases r.1.target? <;> rfl

/-- Restricting a query adds the predicates of the restrictions that have a place in it. -/
theorem filteredBy_eq_foldl_addPredicate (q : Query) (f : Filter) :
    q.filteredBy f =
      f.predicateTexts.foldl (fun q t => q.addPredicate (spell placeholder t) (marks t)) q := by
  rw [filteredBy_eq_foldl_add, pieces_filteredBy, List.foldl_map]
  rfl

theorem binds_foldl_addPredicate (ts : List (MarkedText BoundValue)) (q : Query) :
    (ts.foldl (fun q t => q.addPredicate (spell placeholder t) (marks t)) q).binds =
      q.binds ++ ts.flatMap marks := by
  induction ts generalizing q with
  | nil => simp
  | cons t ts ih =>
    rw [List.foldl_cons, ih, List.flatMap_cons, ← List.append_assoc]
    congr 1
    simp [binds, addPredicate]

theorem marks_predicateText (t : Target) (values : List BoundValue) :
    marks (t.predicateText values) = values := by
  cases t <;> simp [Target.predicateText, amongText, linkedLocationsText, marks_oneOfText]

theorem predicateTexts_ne_nil {f : Filter} {t : MarkedText BoundValue}
    (h : t ∈ f.predicateTexts) : t ≠ [] := by
  obtain ⟨p, hp, rfl⟩ := List.mem_map.1 h
  obtain ⟨r, hr, -, hids⟩ := Filter.mem_placed.1 hp
  have hm := marks_predicateText p.1 (p.2.ids.map .int32)
  intro he
  rw [he, marks_nil, eq_comm, List.map_eq_nil_iff, ← hids] at hm
  exact Filter.ids_ne_nil hr hm

theorem flatMap_marks_predicateTexts (f : Filter) :
    f.predicateTexts.flatMap marks = f.placedIds.map .int32 := by
  rw [Filter.predicateTexts, List.flatMap_map, Filter.placedIds, List.map_flatMap]
  exact List.flatMap_congr fun p _ => marks_predicateText ..

/-- Restricting a query binds the identifiers behind the values that are bound already. -/
theorem binds_filteredBy (q : Query) (f : Filter) :
    (q.filteredBy f).binds = q.binds ++ f.placedIds.map .int32 := by
  rw [filteredBy_eq_foldl_addPredicate, binds_foldl_addPredicate, flatMap_marks_predicateTexts]

/-! ## No list is empty -/

/-- A text without an empty pair of parentheses, which completes none behind another text. -/
structure Filled (cs : List Char) : Prop where
  inside : cs.IsChain fun a b => a = '(' → b ≠ ')'
  before : cs.head? ≠ some ')'

instance (cs : List Char) : Decidable (Filled cs) :=
  decidable_of_iff (_ ∧ _) ⟨fun h => ⟨h.1, h.2⟩, fun h => ⟨h.inside, h.before⟩⟩

theorem Filled.append {cs ds : List Char} (hc : Filled cs) (hd : Filled ds) :
    Filled (cs ++ ds) := by
  constructor
  · refine hc.inside.append hd.inside fun a _ b hb _ he => ?_
    subst he
    exact hd.before hb
  · cases cs with
    | nil => exact hd.before
    | cons c cs => exact hc.before

/-- Without an opening parenthesis there is no pair of them. -/
theorem filled_of_not_mem {cs : List Char} (h : '(' ∉ cs) (hh : cs.head? ≠ some ')') :
    Filled cs := by
  refine ⟨?_, hh⟩
  rw [List.isChain_iff_forall_rel_of_append_cons_cons]
  rintro a b before after rfl rfl
  exact absurd h (by simp)

/-- An empty list is not completed by a filled text behind it. -/
theorem Filled.infix_of_append {cs ds : List Char} (hd : Filled ds)
    (h : "IN ()".toList <:+: cs ++ ds) : "IN ()".toList <:+: cs := by
  obtain ⟨s, t, h⟩ := h
  rcases List.append_eq_append_iff.1 h with ⟨rest, hc, -⟩ | ⟨rest, hs, hr⟩
  · exact ⟨s, rest, hc.symm⟩
  -- were the empty list not complete in front of `ds`, then `)` or `()` would be in `ds`
  rcases List.eq_nil_or_concat' rest with rfl | ⟨rest, x, rfl⟩
  · exact ⟨s, [], by simpa using hs⟩
  have hs₁ : (s ++ "IN (".toList) ++ [')'] = (cs ++ rest) ++ [x] := by
    simpa [List.append_assoc] using hs
  obtain ⟨hs₂, hx⟩ := List.append_inj' hs₁ rfl
  obtain rfl : ')' = x := List.singleton_inj.1 hx
  rcases List.eq_nil_or_concat' rest with rfl | ⟨rest, y, rfl⟩
  · exact absurd (by rw [hr]; rfl) hd.before
  have hs₃ : (s ++ "IN ".toList) ++ ['('] = (cs ++ rest) ++ [y] := by
    rw [List.append_assoc s, List.append_assoc cs]
    exact hs₂
  obtain rfl : '(' = y := List.singleton_inj.1 (List.append_inj' hs₃ rfl).2
  have hds : ds = rest ++ '(' :: ')' :: t := by simpa using hr
  exact absurd rfl (List.isChain_iff_forall_rel_of_append_cons_cons.1 hd.inside hds rfl)

/-- Some placeholders begin with one, and are not put into parentheses. -/
theorem toList_placeholders (n : Nat) : (", ".intercalate (List.replicate (n + 1) "?")).toList =
    '?' :: (List.replicate n [',', ' ', '?']).flatten := by
  rw [String.toList_intercalate, List.replicate_succ, List.map_cons, Json.intercalate_cons,
    List.map_replicate, List.flatMap_replicate]
  rfl

theorem filled_membership {n : Nat} (hn : n ≠ 0) :
    Filled (PendingPredicate.membership n).toList := by
  obtain ⟨k, rfl⟩ := Nat.exists_eq_succ_of_ne_zero hn
  rw [PendingPredicate.membership]
  split
  · decide
  · rw [String.toList_append, String.toList_append, List.append_assoc, toList_placeholders]
    refine Filled.append (by decide) (filled_of_not_mem ?_ (by simp))
    simp

theorem filled_predicateText {d : Dimension} {t : Target} (ht : d.target? = some t)
    {values : List BoundValue} (hv : values ≠ []) :
    Filled (spell placeholder (t.predicateText values)).toList := by
  have hn : values.length ≠ 0 := mt List.eq_nil_of_length_eq_zero hv
  cases t with
  | column name =>
    have hname : Filled name.toList := by cases d <;> cases ht <;> decide
    rw [Target.predicateText, spell_append, spell_plain, spell_oneOfText, String.toList_append]
    exact hname.append (filled_membership hn)
  | adminEntity =>
    simp only [Target.predicateText, amongText, linkedLocationsText, spell_append, spell_plain,
      spell_oneOfText, String.toList_append, List.append_assoc]
    have hend : Filled ((PendingPredicate.membership values.length).toList ++
        (" ".toList ++ ") ".toList)) := (filled_membership hn).append (by decide)
    refine Filled.append (by decide) (Filled.append (by decide) (Filled.append ?_ hend))
    decide +kernel

theorem infix_of_addPredicate {q : Query} {text : String} {binds : List BoundValue}
    (ht : Filled text.toList)
    (h : "IN ()".toList <:+: (q.addPredicate text binds).predicates.toList) :
    "IN ()".toList <:+: q.predicates.toList := by
  rw [addPredicate, appendPiece] at h
  split at h
  · rw [String.toList_append] at h
    exact ht.infix_of_append h
  · rw [String.toList_append, String.toList_append, List.append_assoc] at h
    exact (Filled.append (by decide) ht).infix_of_append h

theorem infix_of_foldl_addPredicate {ts : List (MarkedText BoundValue)}
    (hts : ∀ t ∈ ts, Filled (spell placeholder t).toList) {q : Query}
    (h : "IN ()".toList <:+: (ts.foldl (fun q t =>
      q.addPredicate (spell placeholder t) (marks t)) q).predicates.toList) :
    "IN ()".toList <:+: q.predicates.toList := by
  induction ts generalizing q with
  | nil => exact h
  | cons t ts ih =>
    rw [List.forall_mem_cons] at hts
    exact infix_of_addPredicate hts.1 (ih hts.2 h)

/-- **No empty list is written** when a query is restricted. -/
theorem infix_of_filteredBy {q : Query} {f : Filter}
    (h : "IN ()".toList <:+: (q.filteredBy f).predicates.toList) :
    "IN ()".toList <:+: q.predicates.toList := by
  rw [filteredBy_eq_foldl_addPredicate] at h
  refine infix_of_foldl_addPredicate (fun t ht => ?_) h
  obtain ⟨p, hp, rfl⟩ := List.mem_map.1 ht
  obtain ⟨r, hr, htarget, hids⟩ := Filter.mem_placed.1 hp
  refine filled_predicateText htarget ?_
  rw [ne_eq, List.map_eq_nil_iff, ← hids]
  exact Filter.ids_ne_nil hr

/-! ## The public calls -/

/-- The public calls for one restricted dimension. -/
def restrictedByCalls (q : Query) (d : Dimension) (ids : IdSet) : Except Error Query :=
  let values := ids.ids.map BoundValue.int32
  match d.target? with
  | some (.column name) => (q.predicate name).isIn values
  | some .adminEntity => do
    let linked ← (((select ["Link.LocationId"]).addTables "LocationAdminLink Link").predicate
      "Link.AdminEntityId").isIn values
    return (q.predicate "Site.LocationId").inSubquery linked
  | none => return q

theorem isIn_of_ne_nil (p : PendingPredicate) {values : List BoundValue} (h : values ≠ []) :
    p.isIn values = .ok (p.oneOf values) := by
  rw [PendingPredicate.isIn, if_neg]
  rwa [List.isEmpty_iff]

/-- The calls for a dimension with identifiers succeed, and restrict the query by it. -/
theorem restrictedByCalls_eq (q : Query) (d : Dimension) {ids : IdSet} (h : ids.ids ≠ []) :
    q.restrictedByCalls d ids = .ok (q.restrictedBy d ids) := by
  have hv : ids.ids.map BoundValue.int32 ≠ [] := by rwa [ne_eq, List.map_eq_nil_iff]
  rw [restrictedByCalls, restrictedBy]
  rcases d.target? with _ | ⟨name⟩ | _
  · rfl
  · exact isIn_of_ne_nil _ hv
  · simp only [isIn_of_ne_nil _ hv]
    rfl

theorem foldlM_restrictedByCalls {rs : List (Dimension × IdSet)} (h : ∀ r ∈ rs, r.2.ids ≠ [])
    (q : Query) :
    rs.foldlM (fun q r => q.restrictedByCalls r.1 r.2) q =
      .ok (rs.foldl (fun q r => q.restrictedBy r.1 r.2) q) := by
  induction rs generalizing q with
  | nil => rfl
  | cons r rs ih =>
    rw [List.forall_mem_cons] at h
    rw [List.foldlM_cons, restrictedByCalls_eq q r.1 h.1]
    exact ih h.2 _

/-- **A filter restricts a query as the public calls do.**  Go through the
restricted dimensions, in their order and each with its identifiers in ascending
order, which are some, and make the public calls for each: all of them succeed,
and the query is then the one restricted by the filter.  No empty list is among
its predicates that was not there before; it binds the identifiers of the
restricted dimensions that have a place in a query behind the values that it
bound before, so as many more as those are together; and only these restrictions
count, however the filter was made and whatever else it holds. -/
theorem filteredBy_eq_calls :
    (∀ (q : Query) (f : Filter),
      f.restrictedDimensions.foldlM (fun q r => q.restrictedByCalls r.1 r.2) q =
          .ok (q.filteredBy f) ∧
        (f.restrictedDimensions.map Prod.fst).Pairwise (fun d e => d.ctorIdx < e.ctorIdx) ∧
        (∀ r ∈ f.restrictedDimensions, r.2.ids ≠ [] ∧ r.2.ids.Pairwise (· < ·)) ∧
        ("IN ()".toList <:+: (q.filteredBy f).predicates.toList →
          "IN ()".toList <:+: q.predicates.toList) ∧
        (q.filteredBy f).binds = q.binds ++ f.placedIds.map .int32 ∧
        (q.filteredBy f).binds.length = q.binds.length +
          ((f.restrictedDimensions.filter fun r => r.1.target?.isSome).map fun r => r.2.size).sum) ∧
      ∀ f g : Filter, (∀ d : Dimension, d.target?.isSome → f.restrictions d = g.restrictions d) →
        ∀ q : Query, (q.filteredBy f).sql = (q.filteredBy g).sql ∧
          (q.filteredBy f).binds = (q.filteredBy g).binds := by
  refine ⟨fun q f => ⟨?_, f.ascending_restrictedDimensions,
    fun r hr => ⟨Filter.ids_ne_nil hr, r.2.ascending⟩, infix_of_filteredBy,
    binds_filteredBy q f, ?_⟩, fun f g h q => ?_⟩
  · exact foldlM_restrictedByCalls (fun r hr => Filter.ids_ne_nil hr) q
  · rw [binds_filteredBy, List.length_append, List.length_map, Filter.length_placedIds]
  · have hq : q.filteredBy f = q.filteredBy g := by
      rw [filteredBy_eq_foldl_addPredicate, filteredBy_eq_foldl_addPredicate,
        Filter.predicateTexts, Filter.predicateTexts, Filter.placed_congr h]
    rw [hq]
    exact ⟨rfl, rfl⟩

/-- Partners and an entity, restricted together with projects, which have no place in a query. -/
def partnersOfEntity : Filter :=
  ((Filter.empty.restrict .partner [2, 1]).restrict .adminLevel [7]).restrict .project [5]

/-- The same partners and entity, one after the other, beside sites without identifiers. -/
def entityWithPartners : Filter :=
  ((((Filter.empty.setEntry .site (some .empty)).addRestriction .adminLevel 7).addRestriction
    .partner 1).addRestriction .partner 2)

theorem filteredBy_eq_calls_partnersOfEntity :
    let q := (select ["Site.SiteId"]).addTables "Site"
    (∀ d : Dimension, d.target?.isSome →
        partnersOfEntity.restrictions d = entityWithPartners.restrictions d) ∧
      (q.filteredBy partnersOfEntity).sql = (q.filteredBy entityWithPartners).sql ∧
      (q.filteredBy partnersOfEntity).binds = [.int32 7, .int32 1, .int32 2] ∧
      ¬ "IN ()".toList <:+: (q.filteredBy partnersOfEntity).predicates.toList := by
  intro q
  have h : ∀ d : Dimension, d.target?.isSome →
      partnersOfEntity.restrictions d = entityWithPartners.restrictions d := by
    intro d
    cases d <;> decide
  obtain ⟨hcalls, hsame⟩ := filteredBy_eq_calls
  obtain ⟨-, -, -, hlist, hbinds, -⟩ := hcalls q partnersOfEntity
  exact ⟨h, (hsame _ _ h q).1, hbinds.trans (by decide), fun he => absurd (hlist he) (by decide)⟩

end Query
end ReportQuery
