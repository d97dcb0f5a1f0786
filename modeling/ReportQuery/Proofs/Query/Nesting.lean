/-
# Balanced queries

A text is balanced if it closes its literals and, outside of them, its
parentheses: each is closed, and none is closed that is not open.  `depthAfter`
follows the parentheses of a text; a word of a query such as ` IN (` is not
balanced, yet it says by how much it changes the depth (`Nests`), and a balanced
text may stand at any depth (`Nests.deeper`).

If the raw texts of a script are balanced, all clauses of the query that it
builds are, whatever calls are made in whatever order (`Step.wellNested_apply`,
`wellNested_run`): a clause grows by balanced pieces, and what stands in
parentheses, a list of values or another query, is balanced itself.
-/

import ReportQuery.Proofs.Database.Segments
import ReportQuery.Proofs.Query.RawText

namespace ReportQuery

open Database

/-! ## Balanced texts -/

/-- How deep in parentheses a text ends that begins at some depth; `none` if it closes
a parenthesis that is not open. -/
def depthAfter (depth : Nat) : List Char → Option Nat
  | [] => some depth
  | c :: cs =>
    if c = '(' then depthAfter (depth + 1) cs
    else if c = ')' then if depth = 0 then none else depthAfter (depth - 1) cs
    else depthAfter depth cs

/-- A text that closes its literals and leads from one depth in parentheses to another. -/
def Nests (depth depth' : Nat) (s : String) : Prop :=
  endsQuoted false s.toList = false ∧ depthAfter depth (unquoted false s.toList) = some depth'

/-- A text that closes its literals, and its parentheses outside of them. -/
def Balanced (s : String) : Prop := Nests 0 0 s

instance (depth depth' : Nat) (s : String) : Decidable (Nests depth depth' s) :=
  inferInstanceAs (Decidable (_ ∧ _))

instance (s : String) : Decidable (Balanced s) := inferInstanceAs (Decidable (Nests 0 0 s))

theorem depthAfter_append (depth : Nat) (cs ds : List Char) :
    depthAfter depth (cs ++ ds) = (depthAfter depth cs).bind fun depth => depthAfter depth ds := by
  induction cs generalizing depth with
  | nil => rfl
  | cons c cs ih =>
    simp only [List.cons_append, depthAfter, ih]
    split
    · rfl
    split
    · split <;> rfl
    · rfl

/-- What a text does to the depth, it does at every greater depth. -/
theorem depthAfter_add {depth depth' : Nat} {cs : List Char}
    (h : depthAfter depth cs = some depth') (more : Nat) :
    depthAfter (depth + more) cs = some (depth' + more) := by
  induction cs generalizing depth with
  | nil => exact congrArg (·.map (· + more)) h
  | cons c cs ih =>
    rw [depthAfter] at h ⊢
    split at h
    · next hc =>
      rw [if_pos hc, ← ih h]
      congr 1
      omega
    · next hc =>
      rw [if_neg hc]
      split at h
      · next hd =>
        split at h
        · cases h
        · rw [if_pos hd, if_neg (by omega), ← ih h]
          congr 1
          omega
      · next hd => rw [if_neg hd, ih h]

theorem unquoted_append (quoted : Bool) (cs ds : List Char) :
    unquoted quoted (cs ++ ds) = unquoted quoted cs ++ unquoted (endsQuoted quoted cs) ds := by
  induction cs generalizing quoted with
  | nil => rw [endsQuoted_nil, unquoted, List.nil_append, List.nil_append]
  | cons c cs ih =>
    rw [List.cons_append, unquoted, unquoted, endsQuoted_cons]
    by_cases hc : c = '\''
    · simp [hc, ih]
    · cases quoted <;> simp [hc, ih]

section

variable {s t : String} {depth depth₁ depth₂ : Nat}

theorem Nests.append (hs : Nests depth depth₁ s) (ht : Nests depth₁ depth₂ t) :
    Nests depth depth₂ (s ++ t) := by
  obtain ⟨hs, hsd⟩ := hs
  obtain ⟨ht, htd⟩ := ht
  rw [Nests, String.toList_append, endsQuoted_append, unquoted_append, depthAfter_append, hs, hsd]
  exact ⟨ht, htd⟩

theorem Nests.deeper (hs : Nests depth depth₁ s) (more : Nat) :
    Nests (depth + more) (depth₁ + more) s :=
  ⟨hs.1, depthAfter_add hs.2 more⟩

theorem Balanced.append (hs : Balanced s) (ht : Balanced t) : Balanced (s ++ t) :=
  Nests.append hs ht

section

variable {opening closing : String} (ho : Nests 0 1 opening) (hc : Nests 1 0 closing)
include ho hc

/-- A balanced text may stand in parentheses. -/
theorem Balanced.within (hs : Balanced s) : Balanced (opening ++ s ++ closing) :=
  (ho.append (hs.deeper 1)).append hc

theorem Balanced.append_within (hs : Balanced s) (ht : Balanced t) :
    Balanced (s ++ opening ++ t ++ closing) :=
  ((Nests.append hs ho).append (ht.deeper 1)).append hc

end

theorem balanced_empty : Balanced "" := by decide

theorem Balanced.intercalate {separator : String} (hsep : Balanced separator) {ss : List String}
    (hs : ∀ s ∈ ss, Balanced s) : Balanced (separator.intercalate ss) := by
  induction ss with
  | nil => exact balanced_empty
  | cons s ss ih =>
    rw [List.forall_mem_cons] at hs
    cases ss with
    | nil => exact hs.1
    | cons t ss =>
      rw [String.intercalate_cons_cons]
      exact (hs.1.append hsep).append (ih hs.2)

theorem Balanced.appendPiece {separator : String} (hsep : Balanced separator) (hs : Balanced s)
    (ht : Balanced t) : Balanced (appendPiece separator s t) := by
  rw [ReportQuery.appendPiece]
  split
  · exact hs.append ht
  · exact (hs.append hsep).append ht

theorem Balanced.optionalClause {keyword : String} (hk : Balanced keyword) (hs : Balanced s) :
    Balanced (optionalClause keyword s) := by
  rw [ReportQuery.optionalClause]
  split
  · exact balanced_empty
  · exact hk.append hs

end

namespace Query

/-! ## Queries all of whose clauses are balanced -/

/-- A query all of whose clauses are balanced. -/
structure WellNested (q : Query) : Prop where
  fields : Balanced q.fields
  tables : Balanced q.tables
  predicates : Balanced q.predicates
  grouping : Balanced q.grouping
  ordering : Balanced q.ordering
  limit : Balanced q.limit

theorem wellNested_empty : WellNested empty := by
  constructor <;> decide

theorem balanced_membership (count : Nat) : Balanced (PendingPredicate.membership count) := by
  have hlist : Balanced (", ".intercalate (List.replicate count "?")) := by
    refine Balanced.intercalate (by decide) fun s hs => ?_
    obtain rfl := List.eq_of_mem_replicate hs
    decide
  rw [PendingPredicate.membership]
  split
  · decide
  · exact hlist.within (by decide) (by decide)

namespace WellNested

variable {q : Query} (h : q.WellNested)
include h

/-- The clauses make up a balanced text. -/
theorem sql : Balanced q.sql := by
  have hw : ∀ {keyword}, Balanced keyword → Balanced (optionalClause keyword q.predicates) :=
    fun hk => hk.optionalClause h.predicates
  have hg : Balanced (optionalClause " GROUP BY " q.grouping) :=
    Balanced.optionalClause (by decide) h.grouping
  have ho : Balanced (optionalClause " ORDER BY " q.ordering) :=
    Balanced.optionalClause (by decide) h.ordering
  have hselect : Balanced ("SELECT " ++ q.fields) := Balanced.append (by decide) h.fields
  have hfrom : Balanced ("SELECT " ++ q.fields ++ " FROM " ++ q.tables) :=
    (hselect.append (by decide)).append h.tables
  exact ((((hfrom.append (hw (by decide))).append hg).append ho).append (by decide)).append h.limit

theorem addPredicate {text : String} (ht : Balanced text) (binds : List BoundValue) :
    (q.addPredicate text binds).WellNested :=
  { h with predicates := Balanced.appendPiece (by decide) h.predicates ht }

theorem oneOf {expr : String} (he : Balanced expr) (values : List BoundValue) :
    ((q.predicate expr).oneOf values).WellNested :=
  h.addPredicate (he.append (balanced_membership _)) values

theorem inSubquery {expr : String} (he : Balanced expr) {sub : Query} (hs : sub.WellNested) :
    ((q.predicate expr).inSubquery sub).WellNested :=
  h.addPredicate (he.append_within (by decide) (by decide) hs.sql) sub.binds

/-- A join with its condition, or without one. -/
theorem finish {join : String} (hj : Balanced join) (binds : List BoundValue)
    {condition : Option String} (hc : ∀ on ∈ condition, Balanced on) :
    (PendingJoin.finish ⟨q, join, binds⟩ condition).WellNested := by
  cases condition with
  | none => exact h
  | some on =>
    exact { h with
      tables := (h.tables.append hj).append_within (by decide) (by decide) (hc on rfl) }

theorem restrictedBy (d : Dimension) (ids : IdSet) : (q.restrictedBy d ids).WellNested := by
  rw [Query.restrictedBy]
  cases ht : d.target? with
  | none => exact h
  | some target =>
    cases target with
    | column name =>
      have hname : Balanced name := by cases d <;> cases ht <;> decide
      exact h.oneOf hname _
    | adminEntity =>
      have hlinked : ((select ["Link.LocationId"]).addTables "LocationAdminLink Link").WellNested :=
        { wellNested_empty with fields := by decide, tables := by decide }
      exact h.inSubquery (by decide) (hlinked.oneOf (by decide) _)

theorem filteredBy (f : Filter) : (q.filteredBy f).WellNested := by
  rw [Query.filteredBy]
  induction f.restrictedDimensions generalizing q with
  | nil => exact h
  | cons r rs ih => exact ih (h.restrictedBy r.1 r.2)

end WellNested

/-! ## Scripts of balanced texts -/

/-- **A call with balanced texts keeps the clauses balanced**, if the scripts inside of it
build queries with balanced clauses. -/
theorem Step.wellNested_apply {s : Step} (hr : ∀ r ∈ s.rawTexts, Balanced r)
    (hs : ∀ sub ∈ s.subs, (run sub).WellNested) {q : Query} (h : q.WellNested) :
    (s.apply q).WellNested := by
  cases s with
  | appendField expr =>
    exact { h with
      fields := Balanced.appendPiece (by decide) h.fields (hr expr List.mem_cons_self) }
  | addTables tables => exact { h with tables := h.tables.append (hr tables List.mem_cons_self) }
  | leftJoin table condition =>
    refine h.finish (Balanced.append (by decide) (hr table List.mem_cons_self)) _ fun on hon => ?_
    exact hr on (List.mem_cons_of_mem _ (Option.mem_toList.2 hon))
  | leftJoinDerived derived name condition =>
    have hd : (run derived).WellNested := hs derived List.mem_cons_self
    have hjoin : Balanced (" LEFT JOIN (" ++ (run derived).sql ++ ") AS ") :=
      hd.sql.within (by decide) (by decide)
    refine h.finish (hjoin.append (hr name ?_)) _ fun on hon => hr on ?_
    · exact List.mem_append_right _ List.mem_cons_self
    · exact List.mem_append_right _ (List.mem_cons_of_mem _ (Option.mem_toList.2 hon))
  | begin expr => exact h
  | equalTo expr value =>
    exact h.addPredicate ((hr expr List.mem_cons_self).append (by decide)) _
  | isIn expr values =>
    cases values with
    | nil => exact h
    | cons value values => exact h.oneOf (hr expr List.mem_cons_self) _
  | inSubquery expr sub =>
    exact h.inSubquery (hr expr List.mem_cons_self) (hs sub List.mem_cons_self)
  | whereTrue expr => exact h.addPredicate (hr expr List.mem_cons_self) _
  | andRaw expr =>
    exact h.addPredicate ((hr expr List.mem_cons_self).within (by decide) (by decide)) _
  | filteredBy f => exact h.filteredBy f
  | groupBy expr =>
    exact { h with
      grouping := Balanced.appendPiece (by decide) h.grouping (hr expr List.mem_cons_self) }
  | orderBy expr =>
    exact { h with
      ordering := Balanced.appendPiece (by decide) h.ordering (hr expr List.mem_cons_self) }
  | setLimit clause => exact { h with limit := hr clause List.mem_cons_self }

/-- **A script of balanced texts builds a query with balanced clauses.** -/
theorem wellNested_run {steps : List Step} (hr : ∀ r ∈ rawTexts steps, Balanced r) :
    (run steps).WellNested := by
  induction steps using script_induction with
  | nil => exact wellNested_empty
  | snoc steps s ih hs =>
    rw [rawTexts_snoc, List.forall_mem_append] at hr
    rw [run_snoc]
    refine Step.wellNested_apply hr.2 (fun sub hsub => ?_) (ih hr.1)
    exact hs sub hsub fun r h => hr.2 r (mem_rawTexts_of_sub hsub h)

end Query
end ReportQuery
