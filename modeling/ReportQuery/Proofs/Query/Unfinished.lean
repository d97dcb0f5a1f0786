/-
# Calls that are not completed

A join without its condition and a predicate that is only begun leave a query as
it is, and so does a list of no values, which is refused.  What such a call has
taken in so far, the text of a join or the values of another query, is lost with
it, since only completing it adds to the query.

`prune` takes these calls out of a script and out of the scripts inside of it.
The query is built in the same state without them, text and values of every
clause, and the calls that are left give what they gave before
(`runFrom_prune`, `results_prune`).
-/

import ReportQuery.Proofs.Query.CallOrder

namespace ReportQuery
namespace Query

/-! ## Scripts without these calls -/

/-- Whether a call is completed, and so acts on a clause. -/
def Step.isCompleted (s : Step) : Bool := s.clause?.isSome

mutual

/-- A call without the calls inside of it that are not completed. -/
def Step.prune : Step → Step
  | .leftJoinDerived derived name condition => .leftJoinDerived (prune derived) name condition
  | .inSubquery expr sub => .inSubquery expr (prune sub)
  | s => s

/-- A script without the calls that are not completed, in whatever depth. -/
def prune : List Step → List Step
  | [] => []
  | s :: steps => if s.isCompleted then s.prune :: prune steps else prune steps

end

/-- What a call gives: the query after it, or why it is refused. -/
def Step.result : Step → Query → Except Error Query
  | .isIn expr values, q => (q.predicate expr).isIn values
  | s, q => .ok (s.apply q)

/-- What the calls of a script give, one after the other. -/
def results : List Step → Query → List (Except Error Query)
  | [], _ => []
  | s :: steps, q => s.result q :: results steps (s.apply q)

theorem prune_append (steps₁ steps₂ : List Step) :
    prune (steps₁ ++ steps₂) = prune steps₁ ++ prune steps₂ := by
  induction steps₁ with
  | nil => rfl
  | cons s steps₁ ih =>
    rw [List.cons_append, prune, prune, ih]
    split <;> rfl

theorem prune_singleton (s : Step) : prune [s] = if s.isCompleted then [s.prune] else [] := by
  rw [prune]
  rfl

@[simp] theorem Step.isCompleted_prune (s : Step) : s.prune.isCompleted = s.isCompleted := by
  cases s with
  | leftJoinDerived derived name condition => cases condition <;> rfl
  | _ => rfl

/-! ## What the calls leave behind -/

/-- **A call that is not completed leaves no trace.** -/
theorem Step.apply_of_not_isCompleted {s : Step} (h : s.isCompleted = false) (q : Query) :
    s.apply q = q := by
  have hs : s.clause? = none := by simpa [isCompleted] using h
  exact eq_of_sameClause fun c => sameClause_apply_of_ne (by simp [hs]) q

/-- A call does the same if the scripts inside of it build the same queries. -/
theorem Step.apply_prune {s : Step} (h : ∀ sub ∈ s.subs, run (Query.prune sub) = run sub)
    (q : Query) : s.prune.apply q = s.apply q := by
  cases s with
  | leftJoinDerived derived name condition =>
    have hd : runFrom (Query.prune derived) empty = runFrom derived empty :=
      h derived List.mem_cons_self
    rw [prune, apply, apply, hd]
  | inSubquery expr sub =>
    have hs : runFrom (Query.prune sub) empty = runFrom sub empty := h sub List.mem_cons_self
    rw [prune, apply, apply, hs]
  | _ => rfl

/-- **Without the calls that are not completed, a script builds the same query.** -/
theorem runFrom_prune (steps : List Step) (q : Query) :
    runFrom (prune steps) q = runFrom steps q := by
  induction steps using script_induction generalizing q with
  | nil => rfl
  | snoc steps s ih hs =>
    rw [prune_append, runFrom_append, runFrom_append, ih, prune_singleton]
    split
    · exact s.apply_prune (fun sub hsub => hs sub hsub empty) _
    · next hc => exact (s.apply_of_not_isCompleted (Bool.not_eq_true _ ▸ hc) _).symm

/-- Nothing is left to be taken out, in whatever depth. -/
theorem prune_prune (steps : List Step) : prune (prune steps) = prune steps := by
  induction steps using script_induction with
  | nil => rfl
  | snoc steps s ih hs =>
    rw [prune_append, prune_append, ih, prune_singleton]
    split
    · next hc =>
      have hp : s.prune.prune = s.prune := by
        cases s with
        | leftJoinDerived derived name condition =>
          rw [Step.prune, Step.prune, hs derived List.mem_cons_self]
        | inSubquery expr sub => rw [Step.prune, Step.prune, hs sub List.mem_cons_self]
        | _ => rfl
      rw [prune_singleton, s.isCompleted_prune, if_pos hc, hp]
    · rfl

/-! ## What the calls give -/

theorem Step.result_of_isCompleted {s : Step} (h : s.isCompleted) (q : Query) :
    s.result q = .ok (s.apply q) := by
  cases s with
  | isIn expr values =>
    cases values with
    | nil => exact absurd h Bool.false_ne_true
    | cons value values => rfl
  | _ => rfl

/-- Only a list of no values is refused. -/
theorem Step.result_eq_error_iff {s : Step} {q : Query} {e : Error} :
    s.result q = .error e ↔ ∃ expr, s = .isIn expr [] ∧
      e = .invalidArgument ("Cannot match '" ++ expr ++ "' against empty list.") := by
  cases s with
  | isIn expr values =>
    cases values with
    | nil => simp [result, PendingPredicate.isIn, predicate, eq_comm]
    | cons value values => simp [result, PendingPredicate.isIn]
  | _ => simp [result]

/-- The calls that are left give what they gave before. -/
theorem results_prune (steps : List Step) (q : Query) :
    results (prune steps) q =
      ((steps.zip (results steps q)).filter fun r => r.1.isCompleted).map Prod.snd := by
  induction steps generalizing q with
  | nil => rfl
  | cons s steps ih =>
    rw [prune, results, List.zip_cons_cons]
    cases hc : s.isCompleted with
    | true =>
      have ha : s.prune.apply q = s.apply q := s.apply_prune (fun sub _ => runFrom_prune sub empty) q
      rw [if_pos rfl, results, Step.result_of_isCompleted (by simpa using hc), ha, ih,
        List.filter_cons, if_pos hc, List.map_cons, Step.result_of_isCompleted hc]
    | false =>
      rw [if_neg Bool.false_ne_true, s.apply_of_not_isCompleted hc, ih,
        List.filter_cons_of_neg (by simp [hc])]

/-- **Calls that fail or are not completed leave no trace.**  Take out of a script, and
out of the scripts inside of it, every list of no values, every predicate that is begun
only, and every join without its condition.  The query is then built in the same state,
so it says and binds the same and every later call finds what it found before; each
call that is left gives the same query; and nothing more is left to be taken out.  A
list of no values is refused with the same words wherever it is tried, and no other
call is refused. -/
theorem unfinished_leave_no_trace (steps : List Step) (q : Query) :
    runFrom (prune steps) q = runFrom steps q ∧
      results (prune steps) q =
        ((steps.zip (results steps q)).filter fun r => r.1.isCompleted).map Prod.snd ∧
      prune (prune steps) = prune steps ∧
      ∀ s e, Step.result s q = .error e ↔ ∃ expr, s = .isIn expr [] ∧
        e = .invalidArgument ("Cannot match '" ++ expr ++ "' against empty list.") :=
  ⟨runFrom_prune steps q, results_prune steps q, prune_prune steps,
    fun _ _ => Step.result_eq_error_iff⟩

/-- A join with rows that are chosen by no values, given up, and one that is completed. -/
example : prune [.appendField "s.SiteId", .isIn "s.PartnerId" [],
      .leftJoinDerived [.addTables "Value v", .isIn "v.Year" []] "t" none, .begin "s.Name",
      .leftJoinDerived [.addTables "Value v", .begin "v.Year"] "t" (some "t.SiteId = s.SiteId")] =
    [.appendField "s.SiteId",
      .leftJoinDerived [.addTables "Value v"] "t" (some "t.SiteId = s.SiteId")] := rfl

end Query
end ReportQuery
