/-
# Queries inside queries

A query is put into another one as the rows of a join or as those that a
predicate chooses from.  In the text of the outer query it stands in parentheses,
and its values stand between others; what comes before and behind it there is
the same whatever query is put in.

This is shown for the rendering, where values stand in their places.  A function
of texts `Encloses` what it is given if it puts some text that ends with a
parenthesis before it, and one that begins with a parenthesis behind it.  The
call that takes the inner query does so (`Taker.encloses`), and all that is done
later, to the clause it stands in and to the whole query, only adds text before
and behind (`encloses_clauseOf`, `encloses_rendering`).  Texts that enclose each
other enclose what is innermost, so the same holds in any depth.

Together with balanced texts this says that a query stays inside of its
parentheses: none of its clauses, a limit as little as a predicate, reaches the
query around it (`run_encloses_balanced`).
-/

import ReportQuery.Proofs.Query.Nesting
import ReportQuery.Proofs.Query.Placeholder
import ReportQuery.Proofs.Query.Unfinished

namespace ReportQuery
namespace Query

open MarkedText

/-! ## Places of queries -/

/-- How a query is taken by a call: as those rows that a predicate chooses from, or as
the rows of a join. -/
inductive Taker where
  | among (expr : String)
  | joined (name condition : String)

/-- The call that takes the query of a script. -/
def Taker.call : Taker → List Step → Step
  | .among expr, sub => .inSubquery expr sub
  | .joined name condition, sub => .leftJoinDerived sub name (some condition)

/-- A place for a query in another one: how it is taken, and the calls before and after. -/
structure Place where
  before : List Step
  taker : Taker
  after : List Step

/-- The script with the script of a query at a place. -/
def Place.fill (p : Place) (sub : List Step) : List Step :=
  p.before ++ p.taker.call sub :: p.after

/-- The script with the script of a query at the innermost of some places, each of which is in
the query at the place before. -/
def fill (places : List Place) (sub : List Step) : List Step := places.foldr Place.fill sub

/-- A function of texts that puts texts with parentheses around what it is given. -/
def Encloses (f : MarkedText BoundValue → MarkedText BoundValue) : Prop :=
  ∃ front back, front.getLast? = some (.char '(') ∧ back.head? = some (.char ')') ∧
    ∀ t, f t = front ++ t ++ back

/-! ## What goes on around a text -/

variable {f g : MarkedText BoundValue → MarkedText BoundValue}

theorem Encloses.append_left (hf : Encloses f) (t : MarkedText BoundValue) :
    Encloses fun x => t ++ f x := by
  obtain ⟨front, back, hfront, hback, h⟩ := hf
  refine ⟨t ++ front, back, ?_, hback, fun x => by simp [h]⟩
  rw [List.getLast?_append, hfront]
  rfl

theorem Encloses.append_right (hf : Encloses f) (t : MarkedText BoundValue) :
    Encloses fun x => f x ++ t := by
  obtain ⟨front, back, hfront, hback, h⟩ := hf
  refine ⟨front, back ++ t, hfront, ?_, fun x => by simp [h]⟩
  rw [List.head?_append, hback]
  rfl

theorem Encloses.comp (hf : Encloses f) (hg : Encloses g) : Encloses fun x => f (g x) := by
  obtain ⟨front, back, hfront, hback, h⟩ := hf
  obtain ⟨front', back', hfront', hback', h'⟩ := hg
  refine ⟨front ++ front', back' ++ back, ?_, ?_, fun x => by simp [h, h']⟩
  · rw [List.getLast?_append, hfront']
    rfl
  · rw [List.head?_append, hback']
    rfl

/-- What is enclosed is not left out, and stands behind a separator if something comes before. -/
theorem Encloses.ne_nil (hf : Encloses f) (t : MarkedText BoundValue) : f t ≠ [] := by
  obtain ⟨front, back, hfront, -, h⟩ := hf
  intro he
  have hnil : front = [] := by simp_all
  rw [hnil] at hfront
  cases hfront

theorem Encloses.optional (hf : Encloses f) (keyword : String) :
    Encloses fun x => optional keyword (f x) := by
  have h : (fun x => MarkedText.optional keyword (f x)) = fun x => plain keyword ++ f x := by
    funext x
    simp [MarkedText.optional, hf.ne_nil x]
  rw [h]
  exact hf.append_left _

/-- A clause that encloses a text goes on doing so with every further piece. -/
theorem Encloses.extend (hf : Encloses f) {c : Clause} (hc : c ≠ .limit)
    (piece : MarkedText BoundValue) : Encloses fun x => c.extend (f x) piece := by
  have hbehind : ∀ separator, Encloses fun x => behind separator (f x) piece := by
    intro separator
    have h : (fun x => behind separator (f x) piece) =
        fun x => f x ++ plain separator ++ piece := by
      funext x
      simp [behind, hf.ne_nil x]
    rw [h]
    exact (hf.append_right _).append_right piece
  cases c with
  | limit => exact absurd rfl hc
  | tables => exact hf.append_right piece
  | _ => exact hbehind _

/-- A clause encloses a text that a further piece of it encloses. -/
theorem Encloses.extend_right (hf : Encloses f) (c : Clause) (t : MarkedText BoundValue) :
    Encloses fun x => c.extend t (f x) := by
  have hbehind : ∀ separator, Encloses fun x => behind separator t (f x) := by
    intro separator
    simp only [behind]
    split
    · exact hf
    · exact hf.append_left _
  cases c with
  | limit => exact hf
  | tables => exact hf.append_left t
  | _ => exact hbehind _

theorem encloses_clauseOf {c : Clause} (hc : c ≠ .limit)
    {piece : MarkedText BoundValue → Piece} (hp : ∀ t, (piece t).clause = c)
    (ht : Encloses fun t => (piece t).text) (ps ps' : List Piece) :
    Encloses fun t => clauseOf (ps ++ piece t :: ps') c := by
  induction ps' using List.reverseRecOn with
  | nil =>
    simp only [clauseOf_snoc, hp, if_true]
    exact ht.extend_right c _
  | append_singleton ps' p ih =>
    have h : ∀ t, ps ++ piece t :: (ps' ++ [p]) = ps ++ piece t :: ps' ++ [p] := by simp
    simp only [h, clauseOf_snoc]
    split
    · exact ih.extend hc p.text
    · exact ih

/-- A piece that changes only its own clause does not matter to the others. -/
theorem clauseOf_of_ne {c : Clause} {p : Piece} (hp : p.clause ≠ c) (ps ps' : List Piece) :
    clauseOf (ps ++ p :: ps') c = clauseOf (ps ++ ps') c := by
  simp [clauseOf, hp]

theorem encloses_rendering {c : Clause} (hc : c = .tables ∨ c = .predicates)
    {piece : MarkedText BoundValue → Piece} (hp : ∀ t, (piece t).clause = c)
    (ht : Encloses fun t => (piece t).text) (ps ps' : List Piece) :
    Encloses fun t => rendering (ps ++ piece t :: ps') := by
  have hother : ∀ k, c ≠ k → ∀ t,
      clauseOf (ps ++ piece t :: ps') k = clauseOf (ps ++ ps') k :=
    fun k h t => clauseOf_of_ne (hp t ▸ h) ps ps'
  have hown := encloses_clauseOf (by rintro rfl; simp at hc) hp ht ps ps'
  rcases hc with rfl | rfl
  · simp (disch := decide) only [rendering, hother]
    exact (((((hown.append_left _).append_right _).append_right _).append_right _).append_right
      _).append_right _
  · simp (disch := decide) only [rendering, hother]
    exact (((((hown.optional " WHERE ").append_left _).append_right _).append_right _).append_right
      _).append_right _

/-! ## What a call puts around a query -/

theorem encloses_parentheses {opening closing : String} (ho : opening.toList.getLast? = some '(')
    (hc : closing.toList.head? = some ')') :
    Encloses fun t => plain opening ++ t ++ plain closing := by
  refine ⟨plain opening, plain closing, ?_, ?_, fun t => rfl⟩
  · rw [plain, List.getLast?_map, ho]
    rfl
  · rw [plain, List.head?_map, hc]
    rfl

/-- The clause that a query is taken into. -/
def Taker.clause : Taker → Clause
  | .among _ => .predicates
  | .joined _ _ => .tables

/-- What is added to the clause, from the text of the query. -/
def Taker.piece (t : Taker) (text : MarkedText BoundValue) : Piece :=
  match t with
  | .among expr => .predicate (plain expr ++ amongText text)
  | .joined name condition =>
    .table (joinText (plain " LEFT JOIN (" ++ text ++ plain (") AS " ++ name)) condition)

theorem Taker.pieces_call (t : Taker) (sub : List Step) :
    (t.call sub).pieces = [t.piece (rendering (Query.pieces sub))] := by
  cases t <;> rfl

theorem Taker.encloses (t : Taker) : Encloses fun text => (t.piece text).text := by
  cases t with
  | among expr => exact (encloses_parentheses (by decide) (by decide)).append_left (plain expr)
  | joined name condition =>
    refine (encloses_parentheses (by decide) ?_).append_right _
    rw [String.toList_append, List.head?_append]
    rfl

/-- **A place puts its query in parentheses**, whatever calls come before and after. -/
theorem Place.encloses (p : Place) :
    ∃ f, Encloses f ∧ ∀ sub, rendering (pieces (p.fill sub)) = f (rendering (pieces sub)) := by
  have hclause : ∀ text, (p.taker.piece text).clause = p.taker.clause := by
    intro text
    cases p.taker <;> rfl
  have hc : p.taker.clause = .tables ∨ p.taker.clause = .predicates := by
    cases p.taker with
    | among expr => exact .inr rfl
    | joined name condition => exact .inl rfl
  refine ⟨_, encloses_rendering hc hclause p.taker.encloses (pieces p.before) (pieces p.after), ?_⟩
  intro sub
  rw [Place.fill, pieces_append, pieces, p.taker.pieces_call]
  rfl

theorem encloses_fill (p : Place) (places : List Place) :
    ∃ f, Encloses f ∧
      ∀ sub, rendering (pieces (fill (p :: places) sub)) = f (rendering (pieces sub)) := by
  induction places generalizing p with
  | nil => exact p.encloses
  | cons p' places ih =>
    obtain ⟨f, hf, hfill⟩ := p.encloses
    obtain ⟨g, hg, hfill'⟩ := ih p'
    exact ⟨_, hf.comp hg, fun sub => by rw [fill, List.foldr_cons, hfill, ← hfill']; rfl⟩

/-! ## Queries stay inside of their parentheses -/

theorem getLast?_spell {t : MarkedText BoundValue} {c : Char} (h : t.getLast? = some (.char c)) :
    (spell placeholder t).toList.getLast? = some c := by
  obtain ⟨t, rfl⟩ := List.getLast?_eq_some_iff.1 h
  simp

theorem head?_spell {t : MarkedText BoundValue} {c : Char} (h : t.head? = some (.char c)) :
    (spell placeholder t).toList.head? = some c := by
  obtain ⟨t, rfl⟩ := List.head?_eq_some_iff.1 h
  simp

/-- **A query stays inside of its parentheses.**  If the raw texts of all calls that are
completed are balanced, those of the queries inside included, the text of the query is
balanced.  And whatever calls come before and after the one that takes a query, and in
whatever depth this call is, what stands before the query and behind it is the same for
every query that is put there: a text that ends with a parenthesis and some values
before it, a text that begins with one and some values behind it.  If no raw text
around the query has a `?`, there are as many of these values on either side as the
text of that side has `?`. -/
theorem run_encloses_balanced :
    (∀ steps : List Step, (∀ r ∈ rawTexts (prune steps), Balanced r) →
      Balanced (run steps).sql) ∧
    ∀ (p : Place) (places : List Place),
      ∃ (front back : String) (frontBinds backBinds : List BoundValue),
        front.toList.getLast? = some '(' ∧ back.toList.head? = some ')' ∧
        (∀ sub : List Step,
          (run (fill (p :: places) sub)).sql = front ++ (run sub).sql ++ back ∧
            (run (fill (p :: places) sub)).binds = frontBinds ++ (run sub).binds ++ backBinds) ∧
        ((∀ r ∈ rawTexts (fill (p :: places) []), '?' ∉ r.toList) →
          frontBinds.length = front.toList.count '?' ∧
            backBinds.length = back.toList.count '?') := by
  constructor
  · intro steps hr
    have hrun : run (prune steps) = run steps := runFrom_prune steps empty
    exact hrun ▸ (wellNested_run hr).sql
  · intro p places
    obtain ⟨f, ⟨front, back, hfront, hback, hf⟩, hfill⟩ := encloses_fill p places
    have hrendering : ∀ sub, rendering (pieces (fill (p :: places) sub)) =
        front ++ rendering (pieces sub) ++ back := fun sub => (hfill sub).trans (hf _)
    refine ⟨spell placeholder front, spell placeholder back, marks front, marks back,
      getLast?_spell hfront, head?_spell hback, fun sub => ⟨?_, ?_⟩, fun hr => ?_⟩
    · rw [sql_run, sql_run, hrendering, spell_append, spell_append]
    · rw [binds_run, binds_run, hrendering, marks_append, marks_append]
    · have hq := rendering_not_questionMark hr
      rw [hrendering, List.mem_append, List.mem_append, not_or, not_or] at hq
      exact ⟨(count_spell_placeholder hq.1.1).symm, (count_spell_placeholder hq.2).symm⟩

/-- The sites that a query chooses; the calls on either side add to clauses before and behind it. -/
def chosenSites : Place :=
  ⟨[.addTables "Site s", .equalTo "s.Name" (.string "a (")], .among "s.SiteId",
    [.whereTrue "s.Label <> ')'", .leftJoin "Partner p" (some "p.Id = s.PartnerId")]⟩

/-- The values that are joined with the labels of a query. -/
def labelledValues : Place :=
  ⟨[.addTables "Value v"], .joined "l" "l.ValueId = v.ValueId", [.equalTo "v.Year" (.int32 7)]⟩

/-- A query with a limit, and with a predicate that is begun with a parenthesis and given up. -/
def lastLabel : List Step :=
  [.addTables "Label", .isIn "Label.Kind" [.int32 3, .int32 4], .begin "(", .orderBy "Label.Id",
    .setLimit "LIMIT 1"]

theorem run_encloses_balanced_lastLabel :
    (∀ r ∈ rawTexts (prune (fill [chosenSites, labelledValues] lastLabel)), Balanced r) ∧
      (∀ r ∈ rawTexts (fill [chosenSites, labelledValues] []), '?' ∉ r.toList) ∧
      Balanced (run (fill [chosenSites, labelledValues] lastLabel)).sql ∧
      ∃ (front back : String) (frontBinds backBinds : List BoundValue),
        (run (fill [chosenSites, labelledValues] lastLabel)).sql =
          front ++ (run lastLabel).sql ++ back ∧
        [.string "a (", .int32 3, .int32 4, .int32 7] =
          frontBinds ++ [.int32 3, .int32 4] ++ backBinds ∧
        frontBinds.length = front.toList.count '?' ∧
        backBinds.length = back.toList.count '?' := by
  obtain ⟨hbalanced, hplace⟩ := run_encloses_balanced
  have hr : ∀ r ∈ rawTexts (prune (fill [chosenSites, labelledValues] lastLabel)), Balanced r := by
    decide
  have hq : ∀ r ∈ rawTexts (fill [chosenSites, labelledValues] []), '?' ∉ r.toList := by decide
  obtain ⟨front, back, frontBinds, backBinds, -, -, hsub, hcount⟩ :=
    hplace chosenSites [labelledValues]
  exact ⟨hr, hq, hbalanced _ hr, front, back, frontBinds, backBinds, (hsub lastLabel).1,
    (hsub lastLabel).2, hcount hq⟩

end Query
end ReportQuery
