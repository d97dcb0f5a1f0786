/-
# Scripts

A script is the list of calls that build a query, from the first one on; `run`
makes them.  A call that takes another query (a join with its rows, a predicate
on them) holds the script of that query, so scripts nest to any depth, and a
query's own earlier value is the script of the calls made so far.

A join or a predicate that is begun and never completed is a call too, as is a
predicate that is refused: they leave the query as it is.

`script_induction` is the induction over scripts that the theory of queries
rests on: a script grows by one call at its end, and what is to be shown holds
of every script inside that call.
-/

import ReportQuery.Query.Basic
import Mathlib.Data.List.Induction

namespace ReportQuery
namespace Query

/-- A call on a query under construction.  The condition of a join is missing
when the join is never completed; `begin` is a predicate that is never completed. -/
inductive Step where
  | appendField (expr : String)
  | addTables (tables : String)
  | leftJoin (table : String) (condition : Option String)
  | leftJoinDerived (derived : List Step) (name : String) (condition : Option String)
  | begin (expr : String)
  | equalTo (expr : String) (value : BoundValue)
  | isIn (expr : String) (values : List BoundValue)
  | inSubquery (expr : String) (sub : List Step)
  | whereTrue (expr : String)
  | andRaw (expr : String)
  | filteredBy (f : Filter)
  | groupBy (expr : String)
  | orderBy (expr : String)
  | setLimit (clause : String)

/-- The query after a join was completed, or was left without its condition. -/
def PendingJoin.finish (j : PendingJoin) : Option String → Query
  | some condition => j.complete condition
  | none => j.query

mutual

/-- The query after a call. -/
def Step.apply : Step → Query → Query
  | .appendField expr, q => q.appendField expr
  | .addTables tables, q => q.addTables tables
  | .leftJoin table condition, q => (q.leftJoin table).finish condition
  | .leftJoinDerived derived name condition, q =>
    (q.leftJoinDerived (runFrom derived empty) name).finish condition
  | .begin expr, q => (q.predicate expr).query
  | .equalTo expr value, q => (q.predicate expr).equalTo value
  | .isIn expr values, q =>
    match (q.predicate expr).isIn values with
    | .ok q => q
    | .error _ => q
  | .inSubquery expr sub, q => (q.predicate expr).inSubquery (runFrom sub empty)
  | .whereTrue expr, q => q.whereTrue expr
  | .andRaw expr, q => q.andRaw expr
  | .filteredBy f, q => q.filteredBy f
  | .groupBy expr, q => q.groupBy expr
  | .orderBy expr, q => q.orderBy expr
  | .setLimit clause, q => q.setLimit clause

/-- The query after the calls of a script, made on another query. -/
def runFrom : List Step → Query → Query
  | [], q => q
  | s :: steps, q => runFrom steps (s.apply q)

end

/-- The query that a script builds. -/
def run (steps : List Step) : Query := runFrom steps empty

@[simp] theorem run_nil : run [] = empty := rfl

theorem runFrom_append (steps₁ steps₂ : List Step) (q : Query) :
    runFrom (steps₁ ++ steps₂) q = runFrom steps₂ (runFrom steps₁ q) := by
  induction steps₁ generalizing q with
  | nil => rfl
  | cons s steps₁ ih => exact ih (s.apply q)

/-- The calls of a script are made one after the other. -/
theorem runFrom_eq_foldl (steps : List Step) (q : Query) :
    runFrom steps q = steps.foldl (fun q s => s.apply q) q := by
  induction steps generalizing q with
  | nil => rfl
  | cons s steps ih => exact ih (s.apply q)

theorem run_snoc (steps : List Step) (s : Step) : run (steps ++ [s]) = s.apply (run steps) :=
  runFrom_append steps [s] empty

/-- The query for some fields is that of the script that appends them. -/
theorem run_map_appendField (fields : List String) :
    run (fields.map .appendField) = select fields := by
  have h : ∀ q, runFrom (fields.map .appendField) q = fields.foldl appendField q := by
    induction fields with
    | nil => exact fun q => rfl
    | cons expr fields ih => exact fun q => ih (q.appendField expr)
  exact h empty

/-! ## Scripts inside scripts -/

/-- The scripts of the queries that a call takes. -/
def Step.subs : Step → List (List Step)
  | .leftJoinDerived derived _ _ => [derived]
  | .inSubquery _ sub => [sub]
  | _ => []

/-- **Induction over scripts.**  What holds of the empty script, and of a script
with one more call if it holds of the script and of the scripts inside the call,
holds of every script. -/
@[elab_as_elim]
theorem script_induction {motive : List Step → Prop} (nil : motive [])
    (snoc : ∀ steps s, motive steps → (∀ sub ∈ s.subs, motive sub) → motive (steps ++ [s]))
    (steps : List Step) : motive steps := by
  -- the calls of a script come one by one once their inner scripts are settled
  have grow : ∀ steps : List Step, (∀ s ∈ steps, ∀ sub ∈ s.subs, motive sub) → motive steps := by
    intro steps
    induction steps using List.reverseRecOn with
    | nil => exact fun _ => nil
    | append_singleton steps s ih =>
      intro h
      exact snoc steps s (ih fun t ht => h t (List.mem_append_left _ ht)) (h s (by simp))
  have inner : ∀ s : Step, ∀ sub ∈ s.subs, motive sub := by
    intro s
    induction s using Step.rec
      (motive_2 := fun steps => ∀ s ∈ steps, ∀ sub ∈ s.subs, motive sub) with
    | leftJoinDerived derived name condition ih | inSubquery expr sub ih =>
      intro sub hsub
      obtain rfl := List.mem_singleton.1 hsub
      exact grow _ ih
    | nil s hs => exact absurd hs List.not_mem_nil
    | cons t steps iht ihsteps s hs sub hsub =>
      rcases List.mem_cons.1 hs with rfl | hs
      · exact iht sub hsub
      · exact ihsteps s hs sub hsub
    | _ => exact fun sub hsub => absurd hsub List.not_mem_nil
  exact grow steps fun s _ => inner s

end Query
end ReportQuery
