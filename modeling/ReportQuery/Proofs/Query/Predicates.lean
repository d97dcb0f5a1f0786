/-
# What the predicates of a query mean together

The predicates of a query are meant to hold all at once, and `AND` is written
between them.  They are read here as conditions whose atoms are the predicates
with values, and whatever the raw predicates are made of besides `AND`, `OR` and
parentheses (`predicates_conjoined`).

The text accepts whatever all predicates accept.  It accepts more than that as
soon as a predicate added by `whereTrue` has an `OR` outside of parentheses and
is not alone: `AND` takes hold of the alternative next to it only, so the other
alternatives accept by themselves what the other predicates reject.  A predicate
added by `andRaw` stands in parentheses and cannot do this.
-/

import ReportQuery.Proofs.Query.ConditionText
import ReportQuery.Proofs.Query.Piece

namespace ReportQuery

open MarkedText

/-! ## The predicates of a script -/

/-- What conditions do not look into: a predicate with its values, or a part of a raw one. -/
structure Atom where
  text : MarkedText BoundValue
  text_ne_nil : text ≠ []
deriving DecidableEq

namespace Query

/-- How an atom is written in a query. -/
def Atom.sql (a : Atom) : String := spell placeholder a.text

theorem Atom.sql_ne_empty (a : Atom) : Atom.sql a ≠ "" :=
  fun h => a.text_ne_nil ((spell_eq_empty_iff placeholder_ne_empty).1 h)

/-- What a predicate adds to the text of a query. -/
def Piece.predicateSql? : Piece → Option String
  | .predicate text => some (spell placeholder text)
  | _ => none

/-- A predicate as one atom. -/
def Piece.atom? : Piece → Option Atom
  | .predicate text => if h : text = [] then none else some ⟨text, h⟩
  | _ => none

/-- The raw predicates that a call adds. -/
def Step.rawPredicates : Step → List String
  | .whereTrue expr | .andRaw expr => [expr]
  | _ => []

/-- The texts of the predicates that a call adds, with their atoms as marks.  It is
said by `cut` what the atoms of raw predicates are; any other predicate is an atom. -/
def Step.predicateTexts (cut : String → MarkedText Atom) : Step → List (MarkedText Atom)
  | .whereTrue expr => [cut expr]
  | .andRaw expr => [plain "(" ++ cut expr ++ plain ") "]
  | s => (s.pieces.filterMap Piece.atom?).map fun a => [.mark a]

/-- The texts of all predicates of a script. -/
def predicateTexts (cut : String → MarkedText Atom) (steps : List Step) : List (MarkedText Atom) :=
  steps.flatMap fun s => s.predicateTexts cut

/-- The text of the predicates together. -/
def whereText (cut : String → MarkedText Atom) (steps : List Step) : MarkedText Atom :=
  (predicateTexts cut steps).foldl (behind " AND ") []

/-- What each predicate of a script means, read by itself. -/
def conditions (cut : String → MarkedText Atom) (steps : List Step) : List (Condition Atom) :=
  (predicateTexts cut steps).filterMap Condition.ofText?

/-- Every raw predicate of a script is cut into atoms in a way that makes it a condition. -/
def Cuts (cut : String → MarkedText Atom) (steps : List Step) : Prop :=
  ∀ expr ∈ steps.flatMap Step.rawPredicates,
    spell Atom.sql (cut expr) = expr ∧ (Condition.ofText? (cut expr)).isSome

instance (cut : String → MarkedText Atom) (steps : List Step) : Decidable (Cuts cut steps) :=
  inferInstanceAs (Decidable (∀ expr ∈ steps.flatMap Step.rawPredicates, _ ∧ _))

/-- No `OR` of a predicate stands next to an `AND`: there is one predicate only, or
those added by `whereTrue` have none outside of parentheses. -/
def OrsEnclosed (cut : String → MarkedText Atom) (steps : List Step) : Prop :=
  (conditions cut steps).length ≤ 1 ∨
    ∀ expr, .whereTrue expr ∈ steps → ∀ d ∈ Condition.ofText? (cut expr), d.isSingle = true

variable {cut : String → MarkedText Atom}

/-! ## The text of the predicates -/

theorem spell_foldl_behind {f : Atom → String} (hf : ∀ a, f a ≠ "") (separator : String)
    (ts : List (MarkedText Atom)) (t : MarkedText Atom) :
    spell f (ts.foldl (behind separator) t) =
      (ts.map (spell f)).foldl (appendPiece separator) (spell f t) := by
  induction ts generalizing t with
  | nil => rfl
  | cons t' ts ih => rw [List.foldl_cons, ih, spell_behind hf, List.map_cons, List.foldl_cons]

theorem predicates_foldl_add (ps : List Piece) (q : Query) :
    (ps.foldl add q).predicates =
      (ps.filterMap Piece.predicateSql?).foldl (appendPiece " AND ") q.predicates := by
  induction ps generalizing q with
  | nil => rfl
  | cons p ps ih =>
    rw [List.foldl_cons, ih]
    cases p <;> rfl

theorem oneOfText_ne_nil (values : List BoundValue) : oneOfText values ≠ [] := by
  rw [oneOfText]
  split <;> simp [plain]

theorem amongText_ne_nil (t : MarkedText BoundValue) : amongText t ≠ [] := by
  simp [amongText, plain]

/-- A predicate that is not raw has some text. -/
theorem Step.predicate_nil_not_mem_pieces {s : Step} (hs : s.rawPredicates = []) :
    .predicate [] ∉ s.pieces := by
  have hr : ∀ d ids, .predicate [] ∉ restrictionPieces d ids := by
    intro d ids
    rw [restrictionPieces]
    split <;> simp [oneOfText_ne_nil, amongText_ne_nil]
  intro hm
  cases s with
  | whereTrue expr | andRaw expr => exact List.cons_ne_nil _ _ hs
  | isIn expr values =>
    rw [pieces] at hm
    split at hm <;> simp [oneOfText_ne_nil] at hm
  | inSubquery expr sub => simp [pieces, amongText_ne_nil] at hm
  | filteredBy f =>
    obtain ⟨r, -, hm⟩ := List.mem_flatMap.1 hm
    exact hr r.1 r.2 hm
  | _ => simp [pieces] at hm

theorem Step.map_spell_predicateTexts {s : Step}
    (h : ∀ expr ∈ s.rawPredicates, spell Atom.sql (cut expr) = expr) :
    (s.predicateTexts cut).map (spell Atom.sql) = s.pieces.filterMap Piece.predicateSql? := by
  have hp : ∀ p : Piece, p ≠ .predicate [] →
      (Piece.atom? p).map (fun a => spell Atom.sql [.mark a]) = Piece.predicateSql? p := by
    intro p hp
    cases p with
    | predicate text =>
      have ht : text ≠ [] := fun h => hp (h ▸ rfl)
      simp [Piece.atom?, Piece.predicateSql?, ht, Atom.sql]
    | _ => rfl
  have ha : s.rawPredicates = [] →
      ((s.pieces.filterMap Piece.atom?).map fun a => [.mark a]).map (spell Atom.sql) =
        s.pieces.filterMap Piece.predicateSql? := by
    intro hs
    rw [List.map_map, List.map_filterMap]
    refine List.filterMap_congr fun p hm => hp p fun he => ?_
    exact predicate_nil_not_mem_pieces hs (he ▸ hm)
  cases s with
  | whereTrue expr =>
    have he := h expr (by simp [rawPredicates])
    simp [predicateTexts, pieces, Piece.predicateSql?, he]
  | andRaw expr =>
    have he := h expr (by simp [rawPredicates])
    simp [predicateTexts, pieces, Piece.predicateSql?, he, String.append_assoc]
  | _ => exact ha rfl

theorem filterMap_pieces {β : Type} (f : Piece → Option β) (steps : List Step) :
    (pieces steps).filterMap f = steps.flatMap fun s => s.pieces.filterMap f := by
  induction steps with
  | nil => rfl
  | cons s steps ih => rw [pieces, List.filterMap_append, ih, List.flatMap_cons]

/-- The predicates of a query are written as its `whereText`. -/
theorem spell_whereText {steps : List Step} (h : Cuts cut steps) :
    spell Atom.sql (whereText cut steps) = (run steps).predicates := by
  rw [run_eq_foldl_add, predicates_foldl_add, whereText, spell_foldl_behind Atom.sql_ne_empty,
    predicateTexts, List.map_flatMap, filterMap_pieces]
  congr 1
  refine List.flatMap_congr fun s hs => s.map_spell_predicateTexts fun expr he => ?_
  exact (h expr (List.mem_flatMap.2 ⟨s, hs, he⟩)).1

/-! ## What the text means -/

/-- Every predicate is a condition, and only those added by `whereTrue` have an `OR`
outside of parentheses. -/
theorem exists_ofText?_eq_some {steps : List Step} (h : Cuts cut steps) {t : MarkedText Atom}
    (ht : t ∈ predicateTexts cut steps) : ∃ d, Condition.ofText? t = some d ∧
      (d.isSingle = true ∨ ∃ expr, .whereTrue expr ∈ steps ∧ t = cut expr) := by
  obtain ⟨s, hs, ht⟩ := List.mem_flatMap.1 ht
  have hr : ∀ expr ∈ s.rawPredicates, ∃ d, Condition.ofText? (cut expr) = some d := fun expr he =>
    Option.isSome_iff_exists.1 (h expr (List.mem_flatMap.2 ⟨s, hs, he⟩)).2
  cases s with
  | whereTrue expr =>
    obtain rfl := List.mem_singleton.1 ht
    obtain ⟨d, hd⟩ := hr expr List.mem_cons_self
    exact ⟨d, hd, .inr ⟨expr, hs, rfl⟩⟩
  | andRaw expr =>
    obtain rfl := List.mem_singleton.1 ht
    obtain ⟨d, hd⟩ := hr expr List.mem_cons_self
    exact ⟨d.grouped, Condition.ofText?_grouped hd, .inl rfl⟩
  | _ =>
    obtain ⟨a, -, rfl⟩ := List.mem_map.1 ht
    exact ⟨.atom a, Condition.ofText?_mark a, .inl rfl⟩

theorem isSome_ofText? {steps : List Step} (h : Cuts cut steps) :
    ∀ t ∈ predicateTexts cut steps, (Condition.ofText? t).isSome := by
  intro t ht
  obtain ⟨d, hd, -⟩ := exists_ofText?_eq_some h ht
  rw [hd]
  rfl

theorem exists_whereTrue_of_not_isSingle {steps : List Step} (h : Cuts cut steps)
    {d : Condition Atom} (hd : d ∈ conditions cut steps) (hs : d.isSingle = false) :
    ∃ expr, .whereTrue expr ∈ steps ∧ Condition.ofText? (cut expr) = some d := by
  obtain ⟨t, ht, htd⟩ := List.mem_filterMap.1 hd
  obtain ⟨e, he, hw⟩ := exists_ofText?_eq_some h ht
  obtain rfl := Option.some.inj (he.symm.trans htd)
  rcases hw with hw | ⟨expr, hm, rfl⟩
  · rw [hs] at hw
    exact absurd hw Bool.false_ne_true
  · exact ⟨expr, hm, htd⟩

theorem exists_not_isSingle {steps : List Step} (h : ¬ OrsEnclosed cut steps) :
    1 < (conditions cut steps).length ∧ ∃ d ∈ conditions cut steps, d.isSingle = false := by
  rw [OrsEnclosed, not_or, Nat.not_le] at h
  refine ⟨h.1, ?_⟩
  have hw := h.2
  simp only [not_forall] at hw
  obtain ⟨expr, hm, d, hd, hs⟩ := hw
  refine ⟨d, List.mem_filterMap.2 ⟨cut expr, List.mem_flatMap.2 ⟨_, hm, ?_⟩, hd⟩, by simpa using hs⟩
  exact List.mem_cons_self

/-- Predicates whose alternatives are enclosed hold all when `AND` stands between them. -/
theorem conditions_joined {steps : List Step} (h : Cuts cut steps) (ho : OrsEnclosed cut steps)
    (σ : Atom → Bool) :
    ((Condition.joined? (conditions cut steps)).all fun d => d.holds σ) =
      (conditions cut steps).all fun d => d.holds σ := by
  cases hc : conditions cut steps with
  | nil => rfl
  | cons d ds =>
    rw [OrsEnclosed, hc] at ho
    rcases ho with hl | hw
    · have hz := Nat.le_zero.1 (Nat.le_of_succ_le_succ hl)
      obtain rfl := List.eq_nil_of_length_eq_zero hz
      exact (Bool.and_true _).symm
    · refine Condition.holds_joined_of_isSingle rfl fun e he => ?_
      by_contra hs
      rw [Bool.not_eq_true] at hs
      obtain ⟨expr, hm, hd⟩ := exists_whereTrue_of_not_isSingle h (hc ▸ he) hs
      rw [hw expr hm e hd] at hs
      exact nomatch hs

/-- **The text of the predicates means their conjunction, save for an `OR` that is
left open.**  Let the raw predicates of a script be cut into atoms such that they
are conditions.  The query then says its predicates with `AND` between them, in a
text that can be read, and that accepts whatever all predicates accept.  If no
`OR` outside of parentheses stands next to another predicate, the text accepts
nothing else.  If one does, and no atom occurs in two predicates, the text also
accepts something that a predicate rejects. -/
theorem predicates_conjoined (cut : String → MarkedText Atom) (steps : List Step)
    (h : Cuts cut steps) :
    spell Atom.sql (whereText cut steps) = (run steps).predicates ∧
      (∀ σ, ∃ b, Condition.accepts? σ (whereText cut steps) = some b ∧
        ((∀ d ∈ conditions cut steps, d.holds σ = true) → b = true)) ∧
      (OrsEnclosed cut steps → ∀ σ, Condition.accepts? σ (whereText cut steps) =
        some ((conditions cut steps).all fun d => d.holds σ)) ∧
      ((conditions cut steps).Pairwise Condition.Apart → ¬ OrsEnclosed cut steps →
        ∃ σ, Condition.accepts? σ (whereText cut steps) = some true ∧
          ∃ d ∈ conditions cut steps, d.holds σ = false) := by
  have ha : ∀ σ, Condition.accepts? σ (whereText cut steps) =
      some ((Condition.joined? (conditions cut steps)).all fun d => d.holds σ) :=
    Condition.accepts?_foldl_behind (isSome_ofText? h)
  refine ⟨spell_whereText h, fun σ => ⟨_, ha σ, fun hd => ?_⟩, fun ho σ => ?_, fun hp ho => ?_⟩
  · cases hj : Condition.joined? (conditions cut steps) with
    | none => rfl
    | some e => exact Condition.holds_joined hj hd
  · rw [ha, conditions_joined h ho]
  · obtain ⟨hl, d, hd, hs⟩ := exists_not_isSingle ho
    obtain ⟨e, he, σ, hσ, hr⟩ := Condition.exists_holds_joined hp hd hs hl
    refine ⟨σ, ?_, hr⟩
    rw [ha, he]
    exact congrArg some hσ

/-- The sites of a partner. -/
def partnerSites : List Step :=
  [.appendField "Site.SiteId", .addTables "Site", .filteredBy (Filter.empty.restrict .partner [7])]

/-- The sites of a partner of which one of two things is true, said by a raw predicate. -/
def eitherSites (add : String → Step) : List Step := partnerSites ++ [add "Site.A OR Site.B"]

/-- The atoms of the raw predicate. -/
def eitherCut (_ : String) : MarkedText Atom :=
  [.mark ⟨plain "Site.A", by decide⟩] ++ plain " OR " ++ [.mark ⟨plain "Site.B", by decide⟩]

theorem predicates_conjoined_eitherSites :
    Cuts eitherCut (eitherSites .andRaw) ∧
      OrsEnclosed eitherCut (eitherSites .andRaw) ∧
      ∀ σ, Condition.accepts? σ (whereText eitherCut (eitherSites .andRaw)) =
        some ((conditions eitherCut (eitherSites .andRaw)).all fun d => d.holds σ) := by
  have h : Cuts eitherCut (eitherSites .andRaw) := by decide
  have ho : OrsEnclosed eitherCut (eitherSites .andRaw) :=
    .inr fun expr he => absurd he (by simp [eitherSites, partnerSites])
  exact ⟨h, ho, (predicates_conjoined eitherCut (eitherSites .andRaw) h).2.2.1 ho⟩

/-- **A predicate added by `whereTrue` can let through what a filter rejects.** -/
theorem accepts_eitherSites :
    Cuts eitherCut (eitherSites .whereTrue) ∧
      (run (eitherSites .whereTrue)).sql =
        "SELECT Site.SiteId FROM Site WHERE Site.PartnerId = ? AND Site.A OR Site.B " ∧
      ∃ σ, Condition.accepts? σ (whereText eitherCut partnerSites) = some false ∧
        Condition.accepts? σ (whereText eitherCut (eitherSites .whereTrue)) = some true := by
  refine ⟨by decide, by decide, fun a => decide (a.text = plain "Site.B"), ?_, ?_⟩
  · decide +kernel
  · decide +kernel

end Query
end ReportQuery
