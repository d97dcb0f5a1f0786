/-
# Raw texts

The raw texts of a script are the texts that its calls take and add to the query
as they are: fields, tables, joins and their conditions, predicates, and so on,
those of the scripts inside it included.  Besides them a query is made of its
values and of the words that join all these, and the words are quiet: they have
no quote, no `?` and no `$` in them.

So a property of texts that goes through `++` and that quiet words and values
have is a property of the whole query as soon as the raw texts have it
(`Piecewise.pieces`, `Piecewise.rendering`).
-/

import ReportQuery.Proofs.Query.Piece

namespace ReportQuery
namespace Query

open MarkedText

mutual

/-- The texts that a call adds to a query as they are. -/
def Step.rawTexts : Step → List String
  | .appendField expr | .addTables expr | .begin expr | .equalTo expr _ | .isIn expr _ => [expr]
  | .whereTrue expr | .andRaw expr | .groupBy expr | .orderBy expr | .setLimit expr => [expr]
  | .leftJoin table condition => table :: condition.toList
  | .leftJoinDerived derived name condition => rawTexts derived ++ name :: condition.toList
  | .inSubquery expr sub => expr :: rawTexts sub
  | .filteredBy _ => []

/-- The raw texts of all calls of a script. -/
def rawTexts : List Step → List String
  | [] => []
  | s :: steps => s.rawTexts ++ rawTexts steps

end

theorem rawTexts_eq_flatMap (steps : List Step) : rawTexts steps = steps.flatMap Step.rawTexts := by
  induction steps with
  | nil => rfl
  | cons s steps ih => rw [rawTexts, ih, List.flatMap_cons]

theorem rawTexts_snoc (steps : List Step) (s : Step) :
    rawTexts (steps ++ [s]) = rawTexts steps ++ s.rawTexts := by
  induction steps with
  | nil => simp [rawTexts]
  | cons t steps ih => rw [List.cons_append, rawTexts, rawTexts, ih, List.append_assoc]

theorem mem_rawTexts_of_sub {s : Step} {sub : List Step} (hs : sub ∈ s.subs) {r : String}
    (hr : r ∈ rawTexts sub) : r ∈ s.rawTexts := by
  cases s with
  | leftJoinDerived derived name condition =>
    obtain rfl := List.mem_singleton.1 hs
    exact List.mem_append_left _ hr
  | inSubquery expr sub' =>
    obtain rfl := List.mem_singleton.1 hs
    exact List.mem_cons_of_mem _ hr
  | _ => exact absurd hs List.not_mem_nil

/-- A word that neither quotes anything nor looks like a placeholder. -/
def Quiet (s : String) : Prop := ∀ c ∈ s.toList, c ≠ '\'' ∧ c ≠ '?' ∧ c ≠ '$'

instance (s : String) : Decidable (Quiet s) :=
  List.decidableBAll (fun c => c ≠ '\'' ∧ c ≠ '?' ∧ c ≠ '$') s.toList

/-- A property that quiet words and values have, and texts made of parts that have it. -/
structure Piecewise (P : MarkedText BoundValue → Prop) : Prop where
  nil : P []
  append : ∀ {t₁ t₂}, P t₁ → P t₂ → P (t₁ ++ t₂)
  mark : ∀ value, P [.mark value]
  quiet : ∀ {s}, Quiet s → P (plain s)

namespace Piecewise

variable {P : MarkedText BoundValue → Prop} (hP : Piecewise P)
include hP

theorem plain_append {s₁ s₂ : String} (h₁ : P (plain s₁)) (h₂ : P (plain s₂)) :
    P (plain (s₁ ++ s₂)) := by
  rw [MarkedText.plain_append]
  exact hP.append h₁ h₂

theorem behind {separator : String} (hs : Quiet separator) {t piece : MarkedText BoundValue}
    (ht : P t) (hp : P piece) : P (behind separator t piece) := by
  rw [MarkedText.behind]
  split
  · exact hp
  · exact hP.append (hP.append ht (hP.quiet hs)) hp

theorem optional {keyword : String} (hk : Quiet keyword) {t : MarkedText BoundValue} (ht : P t) :
    P (optional keyword t) := by
  rw [MarkedText.optional]
  split
  · exact hP.nil
  · exact hP.append (hP.quiet hk) ht

theorem extend (c : Clause) {t piece : MarkedText BoundValue} (ht : P t) (hp : P piece) :
    P (c.extend t piece) := by
  cases c with
  | fields | grouping | ordering | predicates => exact hP.behind (by decide) ht hp
  | tables => exact hP.append ht hp
  | limit => exact hp

theorem clauseOf {ps : List Piece} (h : ∀ p ∈ ps, P p.text) (c : Clause) : P (clauseOf ps c) :=
  clauseOf_induction (motive := fun _ => P) (fun _ => hP.nil) (fun c _ _ => hP.extend c) h c

/-- What the pieces have, the whole query has. -/
theorem rendering {ps : List Piece} (h : ∀ p ∈ ps, P p.text) : P (rendering ps) := by
  have hc := hP.clauseOf h
  refine hP.append (hP.append (hP.append (hP.append (hP.append (hP.append (hP.append (hP.append
    (hP.quiet (by decide)) (hc _)) (hP.quiet (by decide))) (hc _)) ?_) ?_) ?_)
    (hP.quiet (by decide))) (hc _)
  · exact hP.optional (by decide) (hc _)
  · exact hP.optional (by decide) (hc _)
  · exact hP.optional (by decide) (hc _)

theorem listed (values : List BoundValue) : P (listed values) := by
  rw [Query.listed, separated]
  induction values with
  | nil => exact hP.nil
  | cons value values ih =>
    cases values with
    | nil => exact hP.mark value
    | cons value' values =>
      rw [List.map_cons, List.map_cons, List.intercalate_cons_cons]
      exact hP.append (hP.append (hP.mark value) (hP.quiet (by decide))) ih

theorem oneOfText (values : List BoundValue) : P (oneOfText values) := by
  rw [Query.oneOfText]
  split
  · exact hP.append (hP.quiet (by decide)) (hP.listed values)
  · exact hP.append (hP.append (hP.quiet (by decide)) (hP.listed values)) (hP.quiet (by decide))

theorem amongText {t : MarkedText BoundValue} (ht : P t) : P (amongText t) :=
  hP.append (hP.append (hP.quiet (by decide)) ht) (hP.quiet (by decide))

theorem joinText {join : MarkedText BoundValue} {condition : String} (hj : P join)
    (hc : P (plain condition)) : P (joinText join condition) :=
  hP.append hj (hP.plain_append (hP.plain_append (hP.quiet (by decide)) hc) (hP.quiet (by decide)))

theorem restrictionPieces (d : Dimension) (ids : IdSet) :
    ∀ p ∈ restrictionPieces d ids, P p.text := by
  have hl : ∀ values, ∀ p ∈ linkedLocationPieces values, P p.text := by
    intro values p hp
    simp only [linkedLocationPieces, List.mem_cons, List.not_mem_nil, or_false] at hp
    rcases hp with rfl | rfl | rfl
    · exact hP.quiet (by decide)
    · exact hP.quiet (by decide)
    · exact hP.append (hP.quiet (by decide)) (hP.oneOfText values)
  cases d <;> intro p hp <;>
    simp only [Query.restrictionPieces, Dimension.target?, List.mem_singleton,
      List.not_mem_nil] at hp
  case adminLevel =>
    exact hp ▸ hP.append (hP.quiet (by decide)) (hP.amongText (hP.rendering (hl _)))
  all_goals exact hp ▸ hP.append (hP.quiet (by decide)) (hP.oneOfText _)

/-- What the raw texts of a call and the queries inside it have, its pieces have. -/
theorem stepPieces (s : Step) (hr : ∀ r ∈ s.rawTexts, P (plain r))
    (hs : ∀ sub ∈ s.subs, P (Query.rendering (Query.pieces sub))) : ∀ p ∈ s.pieces, P p.text := by
  intro p hp
  cases s with
  | begin expr => exact absurd hp List.not_mem_nil
  | leftJoin table condition =>
    obtain ⟨on, hon, rfl⟩ := List.mem_map.1 hp
    exact hP.joinText (hP.plain_append (hP.quiet (by decide)) (hr _ (by simp [Step.rawTexts])))
      (hr _ (List.mem_cons_of_mem _ hon))
  | leftJoinDerived derived name condition =>
    obtain ⟨on, hon, rfl⟩ := List.mem_map.1 hp
    have hd := hs derived (by simp [Step.subs])
    refine hP.joinText (hP.append (hP.append (hP.quiet (by decide)) hd) (hP.plain_append
      (hP.quiet (by decide)) (hr _ ?_))) (hr _ ?_)
    · simp [Step.rawTexts]
    · exact List.mem_append_right _ (List.mem_cons_of_mem _ hon)
  | isIn expr values =>
    rw [Step.pieces] at hp
    split at hp
    · exact absurd hp List.not_mem_nil
    · obtain rfl := List.mem_singleton.1 hp
      exact hP.append (hr _ (by simp [Step.rawTexts])) (hP.oneOfText values)
  | filteredBy f =>
    obtain ⟨r, -, hp⟩ := List.mem_flatMap.1 hp
    exact hP.restrictionPieces r.1 r.2 p hp
  | equalTo expr value =>
    obtain rfl := List.mem_singleton.1 hp
    exact hP.append (hP.append (hP.plain_append (hr _ (by simp [Step.rawTexts]))
      (hP.quiet (by decide))) (hP.mark value)) (hP.quiet (by decide))
  | inSubquery expr sub =>
    obtain rfl := List.mem_singleton.1 hp
    exact hP.append (hr _ (by simp [Step.rawTexts])) (hP.amongText (hs sub (by simp [Step.subs])))
  | andRaw expr =>
    obtain rfl := List.mem_singleton.1 hp
    exact hP.plain_append (hP.plain_append (hP.quiet (by decide)) (hr _ (by simp [Step.rawTexts])))
      (hP.quiet (by decide))
  | appendField expr | addTables expr | whereTrue expr | groupBy expr | orderBy expr
  | setLimit expr =>
    obtain rfl := List.mem_singleton.1 hp
    exact hr _ (by simp [Step.rawTexts])

/-- **What the raw texts of a script have, its pieces have.** -/
theorem pieces {steps : List Step} (hr : ∀ r ∈ rawTexts steps, P (plain r)) :
    ∀ p ∈ pieces steps, P p.text := by
  induction steps using script_induction with
  | nil => exact fun p hp => absurd hp List.not_mem_nil
  | snoc steps s ih hs =>
    rw [rawTexts_snoc, List.forall_mem_append] at hr
    rw [pieces_snoc, List.forall_mem_append]
    refine ⟨ih hr.1, hP.stepPieces s hr.2 fun sub hsub => ?_⟩
    exact hP.rendering (hs sub hsub fun r h => hr.2 r (mem_rawTexts_of_sub hsub h))

end Piecewise

end Query
end ReportQuery
