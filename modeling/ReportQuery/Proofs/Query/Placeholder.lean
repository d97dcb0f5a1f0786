/-
# Placeholders and the values bound to them

The text of a query has a `?` for each of its values, and the values are bound
in the order of their placeholders.  The rendering of the query says which `?`
is meant: there the values themselves stand in the text, each where the call
that binds it writes its placeholder.  Writing `?` for the values gives the text
of the query, reading them from left to right gives its values
(`run_binds_in_order`).  This holds for all scripts, although the texts and the
values of the clauses are collected apart, in the order of the calls, and are
put together in the order of the clauses.

A clause without text is left out of the query, and so are its values; no
clause of that kind has any, because a mark never spells the empty text.

A `?` in a raw text is no placeholder, and counts as one.  Without any, the
number of `?` is the number of values.
-/

import ReportQuery.Proofs.Query.RawText

namespace ReportQuery
namespace Query

open MarkedText

theorem piecewise_not_questionMark : Piecewise fun t => Symbol.char '?' ∉ t where
  nil := List.not_mem_nil
  append h₁ h₂ h := (List.mem_append.1 h).elim h₁ h₂
  mark value h := by simp at h
  quiet hs h := by
    obtain ⟨c, hc, he⟩ := List.mem_map.1 h
    obtain rfl := Symbol.char.inj he
    exact (hs '?' hc).2.1 rfl

/-- A text without `?` of its own spells one for each of its marks. -/
theorem count_spell_placeholder {t : MarkedText BoundValue} (h : Symbol.char '?' ∉ t) :
    (spell placeholder t).toList.count '?' = (marks t).length := by
  induction t with
  | nil => rfl
  | cons s t ih =>
    have ht := ih fun hm => h (List.mem_cons_of_mem _ hm)
    cases s with
    | char c =>
      have hc : c ≠ '?' := fun he => h (he ▸ List.mem_cons_self)
      simp [hc, ht]
    | mark value => simp [placeholder, ht, Nat.add_comm]

theorem rendering_not_questionMark {steps : List Step}
    (h : ∀ s ∈ rawTexts steps, '?' ∉ s.toList) :
    Symbol.char '?' ∉ rendering (pieces steps) := by
  refine piecewise_not_questionMark.rendering (piecewise_not_questionMark.pieces fun s hs hm => ?_)
  obtain ⟨c, hc, he⟩ := List.mem_map.1 hm
  exact h s hs (Symbol.char.inj he ▸ hc)

/-- A query without predicates binds no values for them. -/
theorem MadeOf.predicateBinds_eq_nil {q : Query} {ps : List Piece} (h : MadeOf q ps)
    (hq : q.predicates = "") : q.predicateBinds = [] := by
  obtain ⟨ht, hb⟩ := h .predicates
  have hc : clauseOf ps .predicates = [] :=
    (spell_eq_empty_iff placeholder_ne_empty).1 (ht.symm.trans hq)
  rw [hc] at hb
  exact hb

/-- **The values of a query are those of its placeholders, in their order.**  Let
the rendering of a script have every bound value in the place where its call
writes a `?`.  Then the query says what the rendering spells with a `?` for
every value, and binds the values of the rendering from left to right; the `?`
that has `n` values before it is bound to the value at index `n`; no value is
lost with the predicates when they are left out; and where no raw text holds a
`?`, the query has as many of them as values. -/
theorem run_binds_in_order (steps : List Step) :
    (run steps).sql = spell placeholder (rendering (pieces steps)) ∧
      (run steps).binds = marks (rendering (pieces steps)) ∧
      (∀ before value after, rendering (pieces steps) = before ++ .mark value :: after →
        (run steps).sql = spell placeholder before ++ "?" ++ spell placeholder after ∧
          (run steps).binds[(marks before).length]? = some value) ∧
      ((run steps).predicates = "" → (run steps).predicateBinds = []) ∧
      ((∀ s ∈ rawTexts steps, '?' ∉ s.toList) →
        (run steps).sql.toList.count '?' = (run steps).binds.length) := by
  refine ⟨sql_run steps, binds_run steps, fun before value after h => ?_,
    (madeOf_run steps).predicateBinds_eq_nil, fun h => ?_⟩
  · rw [sql_run, binds_run, h]
    constructor
    · simp [placeholder, String.append_assoc]
    · simp
  · rw [sql_run, binds_run]
    exact count_spell_placeholder (rendering_not_questionMark h)

/-- A join with the rows of another query, completed behind a predicate: its
values come first. -/
def joinBehindPredicate : List Step :=
  [.appendField "s.SiteId", .addTables "Site s", .equalTo "s.ActivityId" (.int32 7),
    .leftJoinDerived [.appendField "v.SiteId", .addTables "Value v",
      .isIn "v.IndicatorId" [.int32 42, .int32 43]] "t" (some "t.SiteId = s.SiteId")]

theorem run_binds_in_order_joinBehindPredicate :
    (∀ s ∈ rawTexts joinBehindPredicate, '?' ∉ s.toList) ∧
      (run joinBehindPredicate).binds = [.int32 42, .int32 43, .int32 7] ∧
      (run joinBehindPredicate).sql.toList.count '?' = (run joinBehindPredicate).binds.length := by
  have h : ∀ s ∈ rawTexts joinBehindPredicate, '?' ∉ s.toList := by decide
  exact ⟨h, rfl, (run_binds_in_order joinBehindPredicate).2.2.2.2 h⟩

end Query
end ReportQuery
