/-
# Separators between expressions

Fields, predicates, and what to group and to order by are lists of expressions,
with a separator between any two of them.  Whether a separator is written is
decided by what stands before an expression and not by the expression itself:
empty expressions at the beginning add nothing, and an empty one behind another
expression still gets its separator.

So the text of a list joins all its expressions but the empty ones at its
beginning.  It joins those that are not empty as long as no empty one stands
behind one of them, and no longer: the separator that is too much makes the text
longer than it should be (`eq_of_intercalate_eq`).  Only raw texts can be empty; a
predicate with values, or in parentheses, never is (`expressions_separated`).
-/

import Mathlib.Algebra.Order.BigOperators.Group.List
import Mathlib.Algebra.Order.Group.Nat
import Mathlib.Data.List.TakeWhile
import ReportQuery.Proofs.Query.CallOrder
import ReportQuery.Proofs.Query.Restriction

namespace ReportQuery

open MarkedText

namespace Query

/-! ## Lists of expressions -/

/-- The clauses that are lists of expressions. -/
inductive Listing where
  | fields
  | predicates
  | grouping
  | ordering

namespace Listing

/-- The clause that a list is written in. -/
def clause : Listing → Clause
  | .fields => .fields
  | .predicates => .predicates
  | .grouping => .grouping
  | .ordering => .ordering

/-- What stands between two expressions of a list. -/
def separator : Listing → String
  | .fields | .grouping | .ordering => ", "
  | .predicates => " AND "

/-- The call that adds an expression to a list, as it is. -/
def call : Listing → String → Step
  | .fields => .appendField
  | .predicates => .whereTrue
  | .grouping => .groupBy
  | .ordering => .orderBy

end Listing

/-- The expressions that a call adds to its list, with `?` for every value. -/
def Step.expressions : Step → List String
  | .appendField expr | .whereTrue expr | .groupBy expr | .orderBy expr => [expr]
  | .andRaw expr => ["(" ++ expr ++ ") "]
  | .equalTo expr _ => [expr ++ " = ? "]
  | .isIn expr values => [expr ++ PendingPredicate.membership values.length]
  | .inSubquery expr sub => [expr ++ " IN (" ++ (run sub).sql ++ ") "]
  | .filteredBy f => f.predicateTexts.map (spell placeholder)
  | .addTables _ | .leftJoin _ _ | .leftJoinDerived _ _ _ | .begin _ | .setLimit _ => []

/-- The expressions of a list that the completed calls of a script add, in their order. -/
def expressions (l : Listing) (steps : List Step) : List String :=
  (steps.filter fun s => s.clause? = some l.clause).flatMap Step.expressions

theorem expressions_append (l : Listing) (steps₁ steps₂ : List Step) :
    expressions l (steps₁ ++ steps₂) = expressions l steps₁ ++ expressions l steps₂ := by
  rw [expressions, List.filter_append, List.flatMap_append]
  rfl

theorem expressions_call_cons (l : Listing) (expr : String) (steps : List Step) :
    expressions l (l.call expr :: steps) = expr :: expressions l steps := by
  cases l <;> rfl

variable {l : Listing}

/-- The pieces of a call on a list are its expressions. -/
theorem Step.map_spell_pieces {s : Step} (h : s.clause? = some l.clause) :
    s.pieces.map (fun p => spell placeholder p.text) = s.expressions := by
  cases s with
  | appendField expr | whereTrue expr | groupBy expr | orderBy expr | andRaw expr =>
    simp [pieces, expressions, Piece.text, String.append_assoc]
  | equalTo expr value =>
    simp [pieces, expressions, Piece.text, placeholder,
      show " = ? " = " = " ++ ("?" ++ " ") by decide]
  | isIn expr values =>
    have hv : values.isEmpty = false := by
      rw [clause?] at h
      split at h
      · cases h
      · exact Bool.not_eq_true _ ▸ ‹_›
    simp [pieces, expressions, Piece.text, hv, spell_oneOfText]
  | inSubquery expr sub =>
    simp [pieces, expressions, Piece.text, amongText, ← sql_run, String.append_assoc]
  | filteredBy f =>
    rw [pieces_filteredBy, List.map_map]
    rfl
  | leftJoin _ condition | leftJoinDerived _ _ condition =>
    cases condition <;> cases l <;> cases h
  | addTables | begin | setLimit => cases l <;> cases h

theorem Step.map_spell_filter_pieces (l : Listing) (s : Step) :
    (s.pieces.filter fun p => p.clause = l.clause).map (fun p => spell placeholder p.text) =
      if s.clause? = some l.clause then s.expressions else [] := by
  split
  · next h =>
    have hp : ∀ p ∈ s.pieces, p.clause = l.clause := fun p hp =>
      Option.some.inj ((clause?_of_mem_pieces hp).symm.trans h)
    rw [List.filter_eq_self.2 (by simpa using hp), map_spell_pieces h]
  · next h =>
    have hp : ∀ p ∈ s.pieces, p.clause ≠ l.clause := fun p hp hc =>
      h ((clause?_of_mem_pieces hp).trans (congrArg some hc))
    rw [List.filter_eq_nil_iff.2 (by simpa using hp), List.map_nil]

theorem map_spell_filter_pieces (l : Listing) (steps : List Step) :
    ((pieces steps).filter fun p => p.clause = l.clause).map (fun p => spell placeholder p.text) =
      expressions l steps := by
  induction steps with
  | nil => rfl
  | cons s steps ih =>
    rw [pieces, List.filter_append, List.map_append, ih, s.map_spell_filter_pieces, expressions,
      expressions, List.filter_cons]
    by_cases h : s.clause? = some l.clause <;> simp [h]

/-! ## The text of a list -/

/-- Texts put behind each other, where those that are empty may come first. -/
theorem foldl_behind_eq_separated {α : Type} (separator : String) (ts : List (MarkedText α)) :
    ts.foldl (behind separator) [] = separated separator (ts.dropWhile List.isEmpty) := by
  induction ts with
  | nil => rfl
  | cons t ts ih =>
    cases t with
    | nil => exact ih
    | cons symbol t => exact foldl_behind_of_ne_nil separator (List.cons_ne_nil symbol t) ts

theorem clauseOf_listing (l : Listing) (ps : List Piece) :
    clauseOf ps l.clause = separated l.separator
      (((ps.filter fun p => p.clause = l.clause).map Piece.text).dropWhile List.isEmpty) := by
  rw [← foldl_behind_eq_separated, List.foldl_map]
  cases l <;> rfl

/-- **A list is written without the empty expressions at its beginning.** -/
theorem clauseText_run (l : Listing) (steps : List Step) :
    (run steps).clauseText l.clause =
      l.separator.intercalate ((expressions l steps).dropWhile String.isEmpty) := by
  have he : String.isEmpty ∘ spell placeholder = List.isEmpty := by
    funext t
    rw [Bool.eq_iff_iff]
    simpa using spell_eq_empty_iff placeholder_ne_empty
  rw [(madeOf_run steps l.clause).1, clauseOf_listing, spell_separated, ← he,
    ← List.dropWhile_map, List.map_map, ← map_spell_filter_pieces]
  rfl

/-! ## Which expressions a joined text is made of -/

theorem Listing.separator_ne_empty (l : Listing) : l.separator ≠ "" := by
  cases l <;> decide

/-- Every text that is joined is followed by a separator, save for the last one. -/
theorem length_intercalate_add (sep : String) {es : List String} (h : es ≠ []) :
    (sep.intercalate es).length + sep.length =
      (es.map String.length).sum + es.length * sep.length := by
  induction es with
  | nil => exact absurd rfl h
  | cons e es ih =>
    cases es with
    | nil => simp
    | cons e' es =>
      have hi := ih (List.cons_ne_nil e' es)
      rw [String.intercalate_cons_cons, String.length_append, String.length_append, List.map_cons,
        List.sum_cons, List.length_cons, Nat.succ_mul]
      omega

/-- Leaving out a text makes a joined text shorter, were it by a separator only. -/
theorem eq_of_intercalate_eq {sep : String} (hs : sep ≠ "") {es es' : List String} (he : es ≠ [])
    (h : es.Sublist es') (hi : sep.intercalate es = sep.intercalate es') : es = es' := by
  have he' : es' ≠ [] := fun hn => he (List.sublist_nil.1 (hn ▸ h))
  have hl := length_intercalate_add sep he
  have hl' := length_intercalate_add sep he'
  have hsum : (es.map String.length).sum ≤ (es'.map String.length).sum :=
    (h.map String.length).sum_le_sum fun _ _ => Nat.zero_le _
  have hmul : es'.length * sep.length ≤ es.length * sep.length := by
    rw [hi] at hl
    omega
  have hpos : 0 < sep.length := Nat.pos_of_ne_zero fun hz => hs (String.length_eq_zero_iff.1 hz)
  exact h.eq_of_length_le (Nat.le_of_mul_le_mul_right hmul hpos)

theorem dropWhile_isEmpty_eq_nil_iff {es : List String} :
    es.dropWhile String.isEmpty = [] ↔ ∀ e ∈ es, e = "" := by
  simp [List.dropWhile_eq_nil_iff]

/-- No text that is not empty is dropped at the beginning. -/
theorem filter_sublist_dropWhile (es : List String) :
    (es.filter fun e => e ≠ "").Sublist (es.dropWhile String.isEmpty) := by
  induction es with
  | nil => exact .slnil
  | cons e es ih =>
    by_cases h : e = ""
    · simpa [h] using ih
    · simp [h]

/-- All empty texts are at the beginning if none of them stands behind one that is not. -/
theorem dropWhile_eq_filter_iff {es : List String} :
    es.dropWhile String.isEmpty = es.filter (fun e => e ≠ "") ↔
      es.Pairwise fun e e' => e' = "" → e = "" := by
  induction es with
  | nil => simp
  | cons e es ih =>
    by_cases h : e = ""
    · simpa [h] using ih
    · have hne : (∀ e' ∈ es, e' ≠ "") ↔ (e :: es).Pairwise fun e e' => e' = "" → e = "" := by
        rw [List.pairwise_cons]
        refine ⟨fun hn => ⟨fun e' he' hz => absurd hz (hn e' he'), ?_⟩,
          fun hp e' he' hz => h (hp.1 e' he' hz)⟩
        exact List.pairwise_iff_forall_sublist.2 fun hs hz =>
          absurd hz (hn _ (hs.subset (List.mem_cons_of_mem _ List.mem_cons_self)))
      rw [← hne, List.dropWhile_cons_of_neg (by simpa using h),
        List.filter_cons_of_pos (by simpa using h), List.cons_inj_right, eq_comm,
        List.filter_eq_self]
      simp

theorem intercalate_dropWhile_eq_empty_iff {sep : String} {es : List String} :
    sep.intercalate (es.dropWhile String.isEmpty) = "" ↔ ∀ e ∈ es, e = "" := by
  rw [← dropWhile_isEmpty_eq_nil_iff]
  have hh := List.head?_dropWhile_not String.isEmpty es
  cases hd : es.dropWhile String.isEmpty with
  | nil => simp
  | cons e rest =>
    have he : e ≠ "" := by simpa [hd] using hh
    cases rest <;> simp [he]

/-- Leaving out the empty texts at the beginning is leaving out all empty texts if and
only if there are no others. -/
theorem intercalate_dropWhile_eq_iff {sep : String} (hs : sep ≠ "") {es : List String} :
    sep.intercalate (es.dropWhile String.isEmpty) =
        sep.intercalate (es.filter fun e => e ≠ "") ↔
      es.Pairwise fun e e' => e' = "" → e = "" := by
  rw [← dropWhile_eq_filter_iff]
  refine ⟨fun h => ?_, congrArg _⟩
  by_cases hf : (es.filter fun e => e ≠ "") = []
  · rw [hf, String.intercalate_nil, intercalate_dropWhile_eq_empty_iff] at h
    rw [hf, dropWhile_isEmpty_eq_nil_iff.2 h]
  · exact (eq_of_intercalate_eq hs hf (filter_sublist_dropWhile es) h.symm).symm

/-! ## Expressions that are empty -/

/-- Only a raw expression that stands by itself can be empty. -/
theorem Step.empty_mem_expressions_iff (s : Step) :
    "" ∈ s.expressions ↔ ∃ l : Listing, s = l.call "" := by
  constructor
  · intro h
    cases s with
    | appendField expr => exact ⟨.fields, by simpa [expressions, Listing.call, eq_comm] using h⟩
    | whereTrue expr => exact ⟨.predicates, by simpa [expressions, Listing.call, eq_comm] using h⟩
    | groupBy expr => exact ⟨.grouping, by simpa [expressions, Listing.call, eq_comm] using h⟩
    | orderBy expr => exact ⟨.ordering, by simpa [expressions, Listing.call, eq_comm] using h⟩
    | filteredBy f =>
      obtain ⟨t, ht, he⟩ := List.mem_map.1 h
      exact absurd ((spell_eq_empty_iff placeholder_ne_empty).1 he) (predicateTexts_ne_nil ht)
    | isIn expr values =>
      have hm : PendingPredicate.membership values.length ≠ "" := by
        rw [PendingPredicate.membership]
        split <;> simp
      simp [expressions, hm] at h
    | andRaw | equalTo | inSubquery => simp [expressions] at h
    | addTables | leftJoin | leftJoinDerived | begin | setLimit => cases h
  · rintro ⟨l, rfl⟩
    cases l <;> exact List.mem_singleton_self ""

/-- A list says nothing if and only if all its expressions are empty. -/
theorem clauseText_run_eq_empty_iff {steps : List Step} :
    (run steps).clauseText l.clause = "" ↔ ∀ e ∈ expressions l steps, e = "" := by
  rw [clauseText_run, intercalate_dropWhile_eq_empty_iff]

/-- **An empty expression leaves its separator** behind a list that is not empty. -/
theorem clauseText_apply_call_empty (l : Listing) (q : Query) :
    ((l.call "").apply q).clauseText l.clause =
      if q.clauseText l.clause = "" then "" else q.clauseText l.clause ++ l.separator := by
  have ha : ((l.call "").apply q).clauseText l.clause =
      appendPiece l.separator (q.clauseText l.clause) "" := by
    cases l <;> rfl
  rw [ha, appendPiece]
  split <;> simp_all

theorem apply_call_empty {q : Query} (h : q.clauseText l.clause = "") :
    (l.call "").apply q = q := by
  cases q
  cases l <;>
    simp_all [Listing.call, Listing.clause, clauseText, Step.apply, appendField, whereTrue,
      groupBy, orderBy, addPredicate, appendPiece]

/-- An empty expression behind another one is not the same as none. -/
theorem run_insert_call_empty_iff (before after : List Step) :
    run (before ++ l.call "" :: after) = run (before ++ after) ↔
      ∀ e ∈ expressions l before, e = "" := by
  constructor
  · intro h
    by_contra hne
    have hd : (expressions l before).dropWhile String.isEmpty ≠ [] :=
      mt dropWhile_isEmpty_eq_nil_iff.1 hne
    have ht := congrArg (fun q => q.clauseText l.clause) h
    simp only [clauseText_run, expressions_append, expressions_call_cons, List.dropWhile_append,
      List.isEmpty_iff, if_neg hd] at ht
    have hs : ((expressions l before).dropWhile String.isEmpty ++ expressions l after).Sublist
        ((expressions l before).dropWhile String.isEmpty ++ "" :: expressions l after) :=
      (List.sublist_cons_self "" _).append_left _
    have he := eq_of_intercalate_eq l.separator_ne_empty (by simp [hd]) hs ht.symm
    simpa using congrArg List.length he
  · intro h
    have ha := apply_call_empty (clauseText_run_eq_empty_iff.2 h)
    rw [run, run, runFrom_append, runFrom_append, runFrom, ← run, ha]

/-- **Separators stand between expressions that are not empty, save for an empty one
behind another.**  An empty expression comes only from a call that takes it as it is.
The text of each list joins the expressions of the script, in their order, without the
empty ones at the beginning.  It joins just those that are not empty if and only if no
empty one stands behind one of them: an empty expression adds a separator to a list that
says something already, so that leaving it out of a script makes no difference if and
only if all expressions before it are empty. -/
theorem expressions_separated (l : Listing) :
    (∀ s : Step, "" ∈ s.expressions ↔ ∃ l' : Listing, s = l'.call "") ∧
      (∀ steps, (run steps).clauseText l.clause =
        l.separator.intercalate ((expressions l steps).dropWhile String.isEmpty)) ∧
      (∀ steps, (run steps).clauseText l.clause =
          l.separator.intercalate ((expressions l steps).filter fun e => e ≠ "") ↔
        (expressions l steps).Pairwise fun e e' => e' = "" → e = "") ∧
      (∀ q : Query, ((l.call "").apply q).clauseText l.clause =
        if q.clauseText l.clause = "" then "" else q.clauseText l.clause ++ l.separator) ∧
      ∀ before after, run (before ++ l.call "" :: after) = run (before ++ after) ↔
        ∀ e ∈ expressions l before, e = "" := by
  refine ⟨Step.empty_mem_expressions_iff, clauseText_run l, fun steps => ?_,
    clauseText_apply_call_empty l, run_insert_call_empty_iff⟩
  rw [clauseText_run, intercalate_dropWhile_eq_iff l.separator_ne_empty]

/-- Empty expressions at the beginning leave nothing. -/
example : (run [.appendField "", .appendField "Site.SiteId", .whereTrue "",
    .equalTo "Site.PartnerId" (.int32 7)]).sql =
    "SELECT Site.SiteId FROM  WHERE Site.PartnerId = ?  " := by decide

/-- Every list with an empty expression behind another one. -/
def emptyBehindOthers : List Step :=
  [.appendField "Site.SiteId", .appendField "", .addTables "Site", .whereTrue "Site.A",
    .whereTrue "", .andRaw "Site.B", .groupBy "Site.SiteId", .groupBy "", .groupBy "Site.A",
    .orderBy "Site.SiteId", .orderBy ""]

/-- **Separators are left at the end of lists, and doubled inside of them.** -/
theorem sql_emptyBehindOthers :
    (run emptyBehindOthers).sql =
        "SELECT Site.SiteId,  FROM Site WHERE Site.A AND  AND (Site.B)  " ++
          "GROUP BY Site.SiteId, , Site.A ORDER BY Site.SiteId,  " ∧
      (run (emptyBehindOthers.filter fun s => "" ∉ s.expressions)).sql =
        "SELECT Site.SiteId FROM Site WHERE Site.A AND (Site.B)  " ++
          "GROUP BY Site.SiteId, Site.A ORDER BY Site.SiteId " ∧
      ∀ l : Listing, (run emptyBehindOthers).clauseText l.clause ≠
        l.separator.intercalate ((expressions l emptyBehindOthers).filter fun e => e ≠ "") := by
  refine ⟨by decide, by decide, fun l => ?_⟩
  cases l <;> decide

end Query
end ReportQuery
