/-
# Queries prepared for PostgreSQL

If the raw texts of a script close their literals and hold neither `?` nor `$`
outside of them, the query that it builds is prepared for PostgreSQL as one would
hope: its placeholders, as the database reads them, are `$1`, `$2`, … up to the
number of its values, in this order, and each stands in the place of its value
(`prepare_postgres`).

Two facts about the rendering of the query give this.  It is settled, since this
goes through `++` and so is shown for the pieces of the query alone.  And it is
spaced: no digit of a raw text follows a value.  This does not go through `++`.
The text of the tables never ends with a value, but that of the predicates may,
and what comes behind the predicates begins with a blank, be it the next one of
them, the next clause or the end of the query.
-/

import ReportQuery.Proofs.Query.Numbering
import ReportQuery.Proofs.Query.RawText

namespace ReportQuery

open MarkedText

/-! ## Texts that end with no mark -/

variable {α : Type} {t t₁ t₂ : MarkedText α}

/-- A text in which no digit follows a mark, and that does not end with a mark. -/
structure Tidy (t : MarkedText α) : Prop where
  spaced : Spaced t
  ended : ∀ a, t.getLast? ≠ some (.mark a)

theorem Tidy.nil : Tidy ([] : MarkedText α) := ⟨List.IsChain.nil, fun a h => by simp at h⟩

theorem Tidy.spaced_append (h₁ : Tidy t₁) (h₂ : Spaced t₂) : Spaced (t₁ ++ t₂) := by
  refine h₁.spaced.append h₂ fun s hs _ _ => ?_
  cases s with
  | char c => trivial
  | mark a => exact absurd hs (h₁.ended a)

theorem Tidy.append (h₁ : Tidy t₁) (h₂ : Tidy t₂) : Tidy (t₁ ++ t₂) := by
  refine ⟨h₁.spaced_append h₂.spaced, fun a h => ?_⟩
  rw [List.getLast?_append, Option.or_eq_some_iff] at h
  rcases h with h | ⟨-, h⟩
  · exact h₂.ended a h
  · exact h₁.ended a h

theorem tidy_plain (s : String) : Tidy (plain s : MarkedText α) := by
  constructor
  · rw [Spaced, plain, List.isChain_map]
    exact (List.pairwise_of_forall fun _ _ => trivial).isChain
  · intro a h
    obtain ⟨c, -, hc⟩ := List.mem_map.1 (List.mem_of_getLast? h)
    cases hc

/-- A word that begins with no digit. -/
def Breaks (s : String) : Prop := s.toList.head?.any fun c => !c.isDigit

instance (s : String) : Decidable (Breaks s) := inferInstanceAs (Decidable (_ = true))

/-- A word that begins with no digit may follow a mark. -/
theorem Spaced.tidy_append_plain (ht : Spaced t) {s : String} (hs : Breaks s) :
    Tidy (t ++ plain s) := by
  have hw : Tidy (plain s : MarkedText α) := tidy_plain s
  rw [Breaks, Option.any_eq_true] at hs
  obtain ⟨c, hc, hd⟩ := hs
  obtain ⟨cs, hcs⟩ := List.head?_eq_some_iff.1 hc
  rw [plain, hcs, List.map_cons] at hw ⊢
  constructor
  · refine ht.append hw.spaced fun x _ y hy => ?_
    obtain rfl := Option.some.inj hy
    cases x with
    | char c => trivial
    | mark a =>
      show c.isDigit = false
      simpa using hd
  · intro a h
    rw [List.getLast?_append, Option.or_eq_some_iff] at h
    rcases h with h | ⟨h, -⟩
    · exact hw.ended a h
    · simp at h

theorem Spaced.append_optional (h₁ : Spaced t₁) (h₂ : Spaced t₂) (keyword : String)
    (hk : Breaks keyword) : Spaced (t₁ ++ optional keyword t₂) := by
  rw [MarkedText.optional]
  split
  · rwa [List.append_nil]
  · rw [← List.append_assoc]
    exact (h₁.tidy_append_plain hk).spaced_append h₂

/-- What a clause may be: the predicates may end with a value, the other clauses may not. -/
def Clause.Proper : Clause → MarkedText α → Prop
  | .predicates, t => Spaced t
  | _, t => Tidy t

theorem Clause.Proper.nil (c : Clause) : c.Proper ([] : MarkedText α) := by
  cases c with
  | predicates => exact List.IsChain.nil
  | _ => exact Tidy.nil

theorem Clause.Proper.extend {c : Clause} (h₁ : c.Proper t₁) (h₂ : c.Proper t₂) :
    c.Proper (c.extend t₁ t₂) := by
  cases c with
  | limit => exact h₂
  | tables => exact Tidy.append h₁ h₂
  | predicates =>
    rw [Clause.extend, behind]
    split
    · exact h₂
    · exact (Spaced.tidy_append_plain h₁ (by decide)).spaced_append h₂
  | fields | grouping | ordering =>
    rw [Clause.extend, behind]
    split
    · exact h₂
    · exact (Tidy.append h₁ (tidy_plain _)).append h₂

namespace Query

/-! ## The rendering of a query is spaced -/

theorem spaced_listed (values : List BoundValue) : Spaced (listed values) := by
  rw [listed, separated]
  induction values with
  | nil => exact List.IsChain.nil
  | cons value values ih =>
    have hv : Spaced [Symbol.mark value] := List.IsChain.singleton _
    cases values with
    | nil => exact hv
    | cons value' values =>
      rw [List.map_cons, List.map_cons, List.intercalate_cons_cons]
      exact (hv.tidy_append_plain (by decide)).spaced_append ih

theorem spaced_oneOfText (expr : String) (values : List BoundValue) :
    Spaced (plain expr ++ oneOfText values) := by
  refine (tidy_plain expr).spaced_append ?_
  have hl := fun s => (tidy_plain (α := BoundValue) s).spaced_append (spaced_listed values)
  rw [oneOfText]
  split
  · exact hl _
  · exact ((hl _).tidy_append_plain (by decide)).spaced

theorem tidy_amongText (expr : String) {t : MarkedText BoundValue} (ht : Spaced t) :
    Tidy (plain expr ++ amongText t) :=
  (tidy_plain expr).append (((tidy_plain _).spaced_append ht).tidy_append_plain (by decide))

theorem tidy_rendering {ps : List Piece} (h : ∀ p ∈ ps, p.clause.Proper p.text) :
    Tidy (rendering ps) := by
  have hc := clauseOf_induction (motive := Clause.Proper) Clause.Proper.nil
    (fun c _ _ => Clause.Proper.extend) h
  have hf : Tidy (clauseOf ps .fields) := hc .fields
  have hg : Tidy (clauseOf ps .grouping) := hc .grouping
  have ho : Tidy (clauseOf ps .ordering) := hc .ordering
  have hl : Tidy (clauseOf ps .limit) := hc .limit
  have ht : Tidy (plain "SELECT " ++ clauseOf ps .fields ++ plain " FROM " ++
      clauseOf ps .tables) :=
    (((tidy_plain _).append hf).append (tidy_plain _)).append (hc .tables)
  have hp := ht.spaced.append_optional (hc .predicates) " WHERE " (by decide)
  have hpg := hp.append_optional hg.spaced " GROUP BY " (by decide)
  have hpgo := hpg.append_optional ho.spaced " ORDER BY " (by decide)
  exact (hpgo.tidy_append_plain (by decide)).append hl

theorem proper_restrictionPieces (d : Dimension) (ids : IdSet) :
    ∀ p ∈ restrictionPieces d ids, p.clause.Proper p.text := by
  have hl : ∀ values, ∀ p ∈ linkedLocationPieces values, p.clause.Proper p.text := by
    intro values p hp
    simp only [linkedLocationPieces, List.mem_cons, List.not_mem_nil, or_false] at hp
    rcases hp with rfl | rfl | rfl
    · exact tidy_plain _
    · exact tidy_plain _
    · exact spaced_oneOfText _ values
  intro p hp
  rw [restrictionPieces] at hp
  split at hp
  · next name _ =>
    obtain rfl := List.mem_singleton.1 hp
    exact spaced_oneOfText name _
  · obtain rfl := List.mem_singleton.1 hp
    exact (tidy_amongText _ (tidy_rendering (hl _)).spaced).spaced
  · exact absurd hp List.not_mem_nil

theorem tidy_joinText {join : MarkedText BoundValue} (hj : Tidy join) (condition : String) :
    Tidy (joinText join condition) :=
  hj.append (tidy_plain _)

theorem Step.proper_pieces (s : Step) (hs : ∀ sub ∈ s.subs, Tidy (rendering (Query.pieces sub))) :
    ∀ p ∈ s.pieces, p.clause.Proper p.text := by
  intro p hp
  cases s with
  | begin expr => exact absurd hp List.not_mem_nil
  | leftJoin table condition =>
    obtain ⟨on, -, rfl⟩ := List.mem_map.1 hp
    exact tidy_joinText (tidy_plain _) on
  | leftJoinDerived derived name condition =>
    obtain ⟨on, -, rfl⟩ := List.mem_map.1 hp
    have hd := hs derived (by simp [subs])
    exact tidy_joinText (((tidy_plain _).append hd).append (tidy_plain _)) on
  | equalTo expr value =>
    obtain rfl := List.mem_singleton.1 hp
    have hv : Spaced [Symbol.mark value] := List.IsChain.singleton _
    exact (((tidy_plain _).spaced_append hv).tidy_append_plain (by decide)).spaced
  | isIn expr values =>
    rw [pieces] at hp
    split at hp
    · exact absurd hp List.not_mem_nil
    · obtain rfl := List.mem_singleton.1 hp
      exact spaced_oneOfText expr values
  | inSubquery expr sub =>
    obtain rfl := List.mem_singleton.1 hp
    exact (tidy_amongText expr (hs sub (by simp [subs])).spaced).spaced
  | filteredBy f =>
    obtain ⟨r, -, hp⟩ := List.mem_flatMap.1 hp
    exact proper_restrictionPieces r.1 r.2 p hp
  | whereTrue expr | andRaw expr =>
    obtain rfl := List.mem_singleton.1 hp
    exact (tidy_plain _).spaced
  | appendField expr | addTables expr | groupBy expr | orderBy expr | setLimit expr =>
    obtain rfl := List.mem_singleton.1 hp
    exact tidy_plain _

/-- No digit follows a value in a query, whatever its raw texts are. -/
theorem spaced_rendering (steps : List Step) : Spaced (rendering (pieces steps)) := by
  suffices h : ∀ p ∈ pieces steps, p.clause.Proper p.text from (tidy_rendering h).spaced
  induction steps using script_induction with
  | nil => exact fun p hp => absurd hp List.not_mem_nil
  | snoc steps s ih hs =>
    rw [pieces_snoc, List.forall_mem_append]
    exact ⟨ih, s.proper_pieces fun sub hsub => tidy_rendering (hs sub hsub)⟩

/-! ## The prepared query -/

theorem Quiet.closed {s : String} (h : Quiet s) : Closed s := by
  refine ⟨?_, fun hm => (h _ (mem_of_mem_unquoted hm)).2.1 rfl,
    fun hm => (h _ (mem_of_mem_unquoted hm)).2.2 rfl⟩
  rw [List.count_eq_zero_of_not_mem fun hm => (h _ hm).1 rfl]

theorem piecewise_settled : Piecewise (Settled false) where
  nil := rfl
  append := Settled.append
  mark _ := ⟨rfl, rfl⟩
  quiet hs := hs.closed.settled

theorem settled_rendering {steps : List Step} (h : ∀ s ∈ rawTexts steps, Closed s) :
    Settled false (rendering (pieces steps)) :=
  piecewise_settled.rendering (piecewise_settled.pieces fun s hs => (h s hs).settled)

theorem sql_prepare_postgres {steps : List Step} (h : ∀ s ∈ rawTexts steps, Closed s) :
    ((run steps).prepare .postgres).sql.toList =
      (spell dollar (numbered 0 (rendering (pieces steps)))).toList := by
  rw [← numberFrom_spell (settled_rendering h), prepare, Database.numberPlaceholders, sql_run,
    String.toList_ofList]
  rfl

/-- **A query prepared for PostgreSQL has its values numbered.**  Let every raw
text of a script close its literals, and have neither `?` nor `$` outside of
them.  Then no `?` is left outside of literals; the placeholders that are read in
the prepared text are `$1`, `$2`, … up to the number of values, in this order;
with `?` in their place the text is that of the query; the values are those of
the query, in its order; and the placeholder that is read as the `n`-th one
stands where the rendering of the query has its `n`-th value. -/
theorem prepare_postgres (steps : List Step) (h : ∀ s ∈ rawTexts steps, Closed s) :
    '?' ∉ unquoted false ((run steps).prepare .postgres).sql.toList ∧
      marks (readNumbers false ((run steps).prepare .postgres).sql.toList) =
        (List.range' 1 (run steps).binds.length).map toString ∧
      spell (fun _ => "?") (readNumbers false ((run steps).prepare .postgres).sql.toList) =
        (run steps).sql ∧
      ((run steps).prepare .postgres).binds = (run steps).binds ∧
      readNumbers false ((run steps).prepare .postgres).sql.toList =
        numbered 0 (rendering (pieces steps)) := by
  have hs := settled_rendering h
  have hr : readNumbers false ((run steps).prepare .postgres).sql.toList =
      numbered 0 (rendering (pieces steps)) := by
    rw [sql_prepare_postgres h]
    exact readNumbers_spell hs (spaced_rendering steps) 0
  refine ⟨?_, ?_, ?_, rfl, hr⟩
  · rw [sql_prepare_postgres h]
    exact questionMark_not_mem_unquoted hs 0
  · rw [hr, marks_numbered, binds_run]
  · rw [hr, spell_const_numbered, sql_run]
    rfl

/-- A literal with a `?` in it before the values of a predicate, and a join behind
them whose value is numbered before theirs. -/
def literalBeforeValues : List Step :=
  [.appendField "s.SiteId", .addTables "Site s", .whereTrue "s.Name <> 'Why?'",
    .isIn "s.ActivityId" [.int32 7, .int32 8],
    .leftJoinDerived [.appendField "v.SiteId", .addTables "Value v",
      .equalTo "v.Label" (.string "$1")] "t" (some "t.SiteId = s.SiteId")]

theorem prepare_postgres_literalBeforeValues :
    (∀ s ∈ rawTexts literalBeforeValues, Closed s) ∧
      ((run literalBeforeValues).prepare .postgres).binds = [.string "$1", .int32 7, .int32 8] ∧
      marks (readNumbers false ((run literalBeforeValues).prepare .postgres).sql.toList) =
        ["1", "2", "3"] := by
  have h : ∀ s ∈ rawTexts literalBeforeValues, Closed s := by decide
  exact ⟨h, rfl, (prepare_postgres literalBeforeValues h).2.1⟩

end Query
end ReportQuery
