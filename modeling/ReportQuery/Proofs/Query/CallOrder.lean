/-
# The order of calls

A completed call acts on one clause of a query (`Step.clause?`): it leaves the
others as they are, and what it makes of its own one depends on that one alone.
Tables and predicates keep their values apart for this reason, since a join that
is completed behind a predicate still has its values before those of the
predicate.

| calls | clause |
| --- | --- |
| fields | fields |
| tables, completed joins | tables |
| completed predicates, raw ones, filters | predicates |
| grouping, ordering, limit | each its own |

So a query is told by the calls on each clause, in their order; how the calls on
different clauses are interleaved does not matter.  The limit is set anew by
each of its calls, of which therefore the last one counts
(`run_eq_of_callsOn_eq`).
-/

import ReportQuery.Proofs.Query.Piece

namespace ReportQuery
namespace Query

/-! ## Clauses of queries and of calls -/

/-- The clause that a call acts on, if it is completed. -/
def Step.clause? : Step → Option Clause
  | .appendField _ => some .fields
  | .addTables _ | .leftJoin _ (some _) | .leftJoinDerived _ _ (some _) => some .tables
  | .equalTo _ _ | .inSubquery _ _ | .whereTrue _ | .andRaw _ | .filteredBy _ => some .predicates
  | .isIn _ values => if values.isEmpty then none else some .predicates
  | .groupBy _ => some .grouping
  | .orderBy _ => some .ordering
  | .setLimit _ => some .limit
  | .begin _ | .leftJoin _ none | .leftJoinDerived _ _ none => none

/-- What the calls of a script on a clause do to a query, in their order.  A call is
known by what it does, so a query that it takes counts as a value, whichever
script it was built by. -/
def callsOn (c : Clause) (steps : List Step) : List (Query → Query) :=
  (steps.filter fun s => s.clause? = some c).map Step.apply

/-- A clause that has the same text in two queries, and binds the same values. -/
structure SameClause (c : Clause) (q q' : Query) : Prop where
  text : q.clauseText c = q'.clauseText c
  binds : q.clauseBinds c = q'.clauseBinds c

variable {c : Clause} {q q' : Query}

theorem SameClause.refl (c : Clause) (q : Query) : SameClause c q q := ⟨rfl, rfl⟩

theorem SameClause.trans {q'' : Query} (h : SameClause c q q') (h' : SameClause c q' q'') :
    SameClause c q q'' := ⟨h.text.trans h'.text, h.binds.trans h'.binds⟩

theorem SameClause.symm (h : SameClause c q q') : SameClause c q' q := ⟨h.text.symm, h.binds.symm⟩

/-- Queries that have all clauses in common are equal. -/
theorem eq_of_sameClause (h : ∀ c, SameClause c q q') : q = q' := by
  have ht : ∀ c, q.clauseText c = q'.clauseText c := fun c => (h c).text
  have hb : ∀ c, q.clauseBinds c = q'.clauseBinds c := fun c => (h c).binds
  cases q; cases q'
  congr 1
  · exact ht .fields
  · exact ht .tables
  · exact ht .predicates
  · exact ht .grouping
  · exact ht .ordering
  · exact ht .limit
  · exact hb .tables
  · exact hb .predicates

/-! ## What one call does to the clauses -/

/-- A piece that is added to one clause leaves the others as they are. -/
theorem sameClause_add_of_ne {p : Piece} (h : p.clause ≠ c) (q : Query) :
    SameClause c (q.add p) q := by
  cases p <;> cases c <;> first | exact absurd rfl h | exact ⟨rfl, rfl⟩

/-- What a piece makes of a clause depends on this clause alone. -/
theorem SameClause.add (h : SameClause c q q') (p : Piece) :
    SameClause c (q.add p) (q'.add p) := by
  obtain ⟨ht, hb⟩ := h
  by_cases hp : p.clause = c
  · subst hp
    cases p <;> constructor <;>
      simp_all [Query.add, clauseText, clauseBinds, Piece.clause, appendField, groupBy, orderBy,
        setLimit, addPredicate]
  · exact (sameClause_add_of_ne hp q).trans (.trans ⟨ht, hb⟩ (sameClause_add_of_ne hp q').symm)

theorem SameClause.foldl_add (h : SameClause c q q') (ps : List Piece) :
    SameClause c (ps.foldl Query.add q) (ps.foldl Query.add q') := by
  induction ps generalizing q q' with
  | nil => exact h
  | cons p ps ih => exact ih (h.add p)

theorem sameClause_foldl_add_of_ne {ps : List Piece} (h : ∀ p ∈ ps, p.clause ≠ c) (q : Query) :
    SameClause c (ps.foldl Query.add q) q := by
  induction ps generalizing q with
  | nil => exact .refl c q
  | cons p ps ih =>
    rw [List.forall_mem_cons] at h
    exact (ih h.2 _).trans (sameClause_add_of_ne h.1 q)

/-- What a call makes of a query are its pieces. -/
theorem Step.apply_eq_pieces (s : Step) (q : Query) : s.apply q = s.pieces.foldl Query.add q :=
  s.apply_eq_foldl_add q fun sub _ => madeOf_run sub

theorem clause_restrictionPieces {d : Dimension} {ids : IdSet} {p : Piece}
    (h : p ∈ restrictionPieces d ids) : p.clause = .predicates := by
  rw [restrictionPieces] at h
  split at h
  · exact List.mem_singleton.1 h ▸ rfl
  · exact List.mem_singleton.1 h ▸ rfl
  · exact absurd h List.not_mem_nil

/-- All pieces of a call are for its clause. -/
theorem Step.clause?_of_mem_pieces {s : Step} {p : Piece} (h : p ∈ s.pieces) :
    s.clause? = some p.clause := by
  cases s with
  | leftJoin table condition | leftJoinDerived derived name condition =>
    obtain ⟨on, ho, rfl⟩ := List.mem_map.1 h
    rw [Option.mem_toList.1 ho]
    rfl
  | isIn expr values =>
    rw [pieces] at h
    rw [clause?]
    split at h
    · exact absurd h List.not_mem_nil
    · rw [if_neg ‹_›, List.mem_singleton.1 h]
      rfl
  | filteredBy f =>
    obtain ⟨r, -, hp⟩ := List.mem_flatMap.1 h
    rw [clause_restrictionPieces hp]
    rfl
  | begin expr => exact absurd h List.not_mem_nil
  | _ => exact List.mem_singleton.1 h ▸ rfl

/-- **A call leaves the clauses of other calls as they are.** -/
theorem sameClause_apply_of_ne {s : Step} (h : s.clause? ≠ some c) (q : Query) :
    SameClause c (s.apply q) q := by
  rw [s.apply_eq_pieces]
  refine sameClause_foldl_add_of_ne (fun p hp hc => h ?_) q
  rw [Step.clause?_of_mem_pieces hp, hc]

/-- **What a call makes of a clause depends on this clause alone.** -/
theorem SameClause.apply (h : SameClause c q q') (s : Step) :
    SameClause c (s.apply q) (s.apply q') := by
  rw [s.apply_eq_pieces, s.apply_eq_pieces]
  exact h.foldl_add s.pieces

/-- A call for the limit sets it anew, whatever it was. -/
theorem sameClause_apply_limit {s : Step} (h : s.clause? = some .limit) (q q' : Query) :
    SameClause .limit (s.apply q) (s.apply q') := by
  cases s with
  | setLimit clause => exact ⟨rfl, rfl⟩
  | leftJoin _ condition | leftJoinDerived _ _ condition => cases condition <;> cases h
  | isIn expr values => rw [Step.clause?] at h; split at h <;> cases h
  | _ => cases h

/-! ## What the calls of a script do to the clauses -/

/-- Some calls on a query, one after the other. -/
def makeCalls (calls : List (Query → Query)) (q : Query) : Query :=
  calls.foldl (fun q call => call q) q

theorem callsOn_cons (c : Clause) (s : Step) (steps : List Step) :
    callsOn c (s :: steps) =
      if s.clause? = some c then s.apply :: callsOn c steps else callsOn c steps := by
  by_cases h : s.clause? = some c <;> simp [callsOn, h]

/-- **A clause is made by the calls on it.**  The calls on the other clauses may
be left out. -/
theorem SameClause.runFrom (h : SameClause c q q') (steps : List Step) :
    SameClause c (runFrom steps q) (makeCalls (callsOn c steps) q') := by
  induction steps generalizing q q' with
  | nil => exact h
  | cons s steps ih =>
    rw [callsOn_cons]
    split
    · exact ih (h.apply s)
    · next hs => exact ih ((sameClause_apply_of_ne hs q).trans h)

/-- The last one of some calls for the limit settles it. -/
theorem sameClause_makeCalls_limit {steps steps' : List Step}
    (h : (callsOn .limit steps).getLast? = (callsOn .limit steps').getLast?) (q : Query) :
    SameClause .limit (makeCalls (callsOn .limit steps) q)
      (makeCalls (callsOn .limit steps') q) := by
  cases hcall : (callsOn .limit steps).getLast? with
  | none =>
    have hcall' : (callsOn .limit steps').getLast? = none := h ▸ hcall
    rw [List.getLast?_eq_none_iff.1 hcall, List.getLast?_eq_none_iff.1 hcall']
    exact .refl _ q
  | some call =>
    obtain ⟨s, hs, rfl⟩ := List.mem_map.1 (List.mem_of_getLast? hcall)
    obtain ⟨before, hb⟩ := List.getLast?_eq_some_iff.1 hcall
    obtain ⟨before', hb'⟩ := List.getLast?_eq_some_iff.1 (h ▸ hcall)
    rw [hb, hb', makeCalls, makeCalls, List.foldl_append, List.foldl_append]
    exact sameClause_apply_limit (of_decide_eq_true (List.mem_filter.1 hs).2) _ _

/-- **The order of calls on different clauses does not matter.**  If two scripts
make the same calls on each clause, in the same order, and the same last call for
the limit, then they make the same text and the same values of a query, also when
it is prepared for a database. -/
theorem run_eq_of_callsOn_eq {steps steps' : List Step}
    (h : ∀ c : Clause, c ≠ .limit → callsOn c steps = callsOn c steps')
    (hl : (callsOn .limit steps).getLast? = (callsOn .limit steps').getLast?) (q : Query) :
    (runFrom steps q).sql = (runFrom steps' q).sql ∧
      (runFrom steps q).binds = (runFrom steps' q).binds ∧
      ∀ database, (runFrom steps q).prepare database = (runFrom steps' q).prepare database := by
  have hq : runFrom steps q = runFrom steps' q := by
    refine eq_of_sameClause fun c => ((SameClause.refl c q).runFrom steps).trans ?_
    refine SameClause.trans ?_ ((SameClause.refl c q).runFrom steps').symm
    by_cases hc : c = .limit
    · subst hc
      exact sameClause_makeCalls_limit hl q
    · rw [h c hc]
      exact .refl c _
  rw [hq]
  exact ⟨rfl, rfl, fun _ => rfl⟩

/-- A predicate with values, and behind it a join whose value is bound before them. -/
def joinedLast : List Step :=
  [.setLimit "LIMIT 1", .isIn "s.ActivityId" [.int32 7, .int32 8], .addTables "Site s",
    .leftJoinDerived [.appendField "v.SiteId", .addTables "Value v",
      .equalTo "v.Label" (.string "rain")] "t" (some "t.SiteId = s.SiteId"),
    .setLimit "LIMIT 5", .appendField "s.SiteId", .begin "s.Name"]

/-- The same query, in the order of its text; the joined rows are built in another order. -/
def joinedInOrder : List Step :=
  [.appendField "s.SiteId", .addTables "Site s",
    .leftJoinDerived [.equalTo "v.Label" (.string "rain"), .appendField "v.SiteId",
      .addTables "Value v"] "t" (some "t.SiteId = s.SiteId"),
    .isIn "s.ActivityId" [.int32 7, .int32 8], .setLimit "LIMIT 5"]

theorem run_eq_of_callsOn_eq_joinedLast :
    (∀ c : Clause, c ≠ .limit → callsOn c joinedLast = callsOn c joinedInOrder) ∧
      (callsOn .limit joinedLast).getLast? = (callsOn .limit joinedInOrder).getLast? ∧
      (run joinedLast).sql = (run joinedInOrder).sql ∧
      (run joinedLast).binds = [.string "rain", .int32 7, .int32 8] := by
  have h : ∀ c : Clause, c ≠ .limit → callsOn c joinedLast = callsOn c joinedInOrder := by
    intro c hc
    cases c with
    | limit => exact absurd rfl hc
    | _ => rfl
  obtain ⟨hsql, hbinds, -⟩ := run_eq_of_callsOn_eq h rfl empty
  exact ⟨h, rfl, hsql, hbinds.trans rfl⟩

end Query
end ReportQuery
