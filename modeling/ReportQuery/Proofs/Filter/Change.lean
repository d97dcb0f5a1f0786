/-
# Changes to a filter

A filter is changed by adding identifiers to a dimension, one or several, and by
clearing a dimension.  What is meant are sets of identifiers by dimension: a
change adds to the set of its dimension or makes it empty, and leaves the other
sets as they are (`Change.effect`).

| entry of a dimension | its set | what is seen of it |
| --- | --- | --- |
| none | empty | no restriction |
| without identifiers | empty | no restriction |
| with identifiers | these | the identifiers, ascending |

The entry is what a filter stores, and it may be there without identifiers: read
from JSON it can be, and no change but clearing takes it away.  Each change acts
on the sets as it should (`Change.held_apply`), hence so does a run of changes
(`held_after`), and all that can be seen of a filter is told by its sets, so
what is seen after a run is told by the sets that the run makes
(`after_shows_sets`).
-/

import ReportQuery.Proofs.Filter.Document
import Mathlib.Data.List.Basic
import Mathlib.Data.Set.Insert

namespace ReportQuery

/-- The dimensions are listed in the order in which they are declared. -/
theorem Dimension.ascending_all : Dimension.all.Pairwise fun d e => d.ctorIdx < e.ctorIdx := by
  decide

namespace Filter

/-- A change to a filter. -/
inductive Change where
  | restrict (d : Dimension) (ids : List Int32)
  | addRestriction (d : Dimension) (id : Int32)
  | clearRestriction (d : Dimension)

namespace Change

/-- The dimension that a change is about. -/
def dimension : Change → Dimension
  | .restrict d _ | .addRestriction d _ | .clearRestriction d => d

/-- The filter after a change. -/
def apply : Change → Filter → Filter
  | .restrict d ids, f => f.restrict d ids
  | .addRestriction d id, f => f.addRestriction d id
  | .clearRestriction d, f => f.clearRestriction d

/-- What a change means for sets of identifiers by dimension. -/
def effect : Change → (Dimension → Set Int32) → Dimension → Set Int32
  | .restrict d ids, held => Function.update held d (held d ∪ {id | id ∈ ids})
  | .addRestriction d id, held => Function.update held d (held d ∪ {id})
  | .clearRestriction d, held => Function.update held d ∅

end Change

/-- The filter after some changes, made one after the other. -/
def after (f : Filter) (changes : List Change) : Filter :=
  changes.foldl (fun f change => change.apply f) f

/-- The sets of identifiers after some changes, made one after the other. -/
def setsAfter (held : Dimension → Set Int32) (changes : List Change) : Dimension → Set Int32 :=
  changes.foldl (fun held change => change.effect held) held

/-- The identifiers that a filter has for a dimension. -/
def held (f : Filter) (d : Dimension) : Set Int32 := {id | ∃ s, f.entry d = some s ∧ id ∈ s}

variable {f : Filter} {d : Dimension}

/-! ## What is held after a change -/

theorem mem_held {id : Int32} : id ∈ f.held d ↔ ∃ s, f.entry d = some s ∧ id ∈ s := Iff.rfl

/-- What a filter holds of a dimension is told by the entry of that dimension. -/
theorem held_congr {g : Filter} (h : f.entry d = g.entry d) : f.held d = g.held d := by
  ext id
  rw [mem_held, mem_held, h]

theorem held_setEntry (f : Filter) (d : Dimension) (ids : Option IdSet) :
    (f.setEntry d ids).held = Function.update f.held d {id | ∃ s, ids = some s ∧ id ∈ s} := by
  funext x
  by_cases hx : x = d
  · subst hx
    rw [Function.update_self]
    ext id
    rw [mem_held, entry_setEntry, if_pos rfl]
    rfl
  · rw [Function.update_of_ne hx]
    exact held_congr (by rw [entry_setEntry, if_neg hx])

/-- Nothing is held by an entry that is not there. -/
theorem mem_getD_entry {id : Int32} : id ∈ (f.entry d).getD .empty ↔ id ∈ f.held d := by
  rw [mem_held]
  cases f.entry d with
  | none => simp
  | some s => simp

/-- Adding no identifier is a change too: it leaves the entry and the set alone. -/
theorem held_restrict (f : Filter) (d : Dimension) (ids : List Int32) :
    (f.restrict d ids).held = Function.update f.held d (f.held d ∪ {id | id ∈ ids}) := by
  rw [restrict]
  split
  · next h =>
    obtain rfl := List.isEmpty_iff.1 h
    simp
  · rw [held_setEntry]
    congr 1
    ext id
    have hs : id ∈ ((f.entry d).getD .empty).insertAll ids ↔ id ∈ f.held d ∨ id ∈ ids := by
      rw [IdSet.mem_insertAll, mem_getD_entry]
    simpa using hs

/-- **A change does to the sets of a filter what it means.** -/
theorem Change.held_apply (c : Change) (f : Filter) : (c.apply f).held = c.effect f.held := by
  cases c with
  | restrict d ids => exact held_restrict f d ids
  | addRestriction d id =>
    have hid : {x | x ∈ [id]} = ({id} : Set Int32) := by
      ext x
      simp
    rw [apply, Filter.addRestriction, held_restrict, effect, hid]
  | clearRestriction d =>
    rw [apply, Filter.clearRestriction, held_setEntry, effect]
    simp

/-- **So does a run of changes**, from whatever filter it starts. -/
theorem held_after (f : Filter) (changes : List Change) :
    (f.after changes).held = setsAfter f.held changes := by
  induction changes generalizing f with
  | nil => rfl
  | cons c changes ih =>
    calc ((c.apply f).after changes).held
        = setsAfter (c.apply f).held changes := ih (c.apply f)
      _ = setsAfter (c.effect f.held) changes := by rw [c.held_apply]

/-- A change leaves the entries of other dimensions alone. -/
theorem Change.entry_apply_of_ne {c : Change} (h : d ≠ c.dimension) (f : Filter) :
    (c.apply f).entry d = f.entry d := by
  have hset : ∀ ids, (f.setEntry c.dimension ids).entry d = f.entry d := by
    intro ids
    rw [entry_setEntry, if_neg h]
  have hrestrict : ∀ ids, (f.restrict c.dimension ids).entry d = f.entry d := by
    intro ids
    rw [Filter.restrict]
    split
    · rfl
    · exact hset _
  cases c with
  | restrict x ids => exact hrestrict ids
  | addRestriction x id => exact hrestrict [id]
  | clearRestriction x => exact hset none

/-! ## What is seen of a filter -/

/-- An entry is seen when it has an identifier, and then it is all that is held. -/
theorem restrictions_eq_some_iff {s : IdSet} :
    f.restrictions d = some s ↔ (f.held d).Nonempty ∧ ∀ id, id ∈ s ↔ id ∈ f.held d := by
  have hs : ∀ s : IdSet, s.isEmpty = false ↔ ∃ id, id ∈ s := fun s => by
    rw [IdSet.isEmpty, List.isEmpty_eq_false_iff_exists_mem]
    rfl
  rw [restrictions, Option.filter_eq_some_iff]
  constructor
  · rintro ⟨he, hn⟩
    have hm : ∀ id, id ∈ s ↔ id ∈ f.held d := fun id => by simp [mem_held, he]
    obtain ⟨id, hid⟩ := (hs s).1 (by simpa using hn)
    exact ⟨⟨id, (hm id).1 hid⟩, hm⟩
  · rintro ⟨⟨id, hid⟩, hm⟩
    obtain ⟨t, ht, hit⟩ := mem_held.1 hid
    have hst : s = t := IdSet.ext fun x => by rw [hm, mem_held]; simp [ht]
    subst hst
    exact ⟨ht, by simpa using (hs s).2 ⟨id, hit⟩⟩

theorem restrictions_eq_none_iff : f.restrictions d = none ↔ f.held d = ∅ := by
  constructor
  · intro h
    by_contra hne
    obtain ⟨id, hid⟩ := Set.nonempty_iff_ne_empty.2 hne
    obtain ⟨s, hs, -⟩ := mem_held.1 hid
    have hsome : f.restrictions d = some s :=
      restrictions_eq_some_iff.2 ⟨⟨id, hid⟩, fun x => by simp [mem_held, hs]⟩
    rw [h] at hsome
    cases hsome
  · intro h
    cases hr : f.restrictions d with
    | none => rfl
    | some s =>
      have hn := (restrictions_eq_some_iff.1 hr).1
      rw [h] at hn
      exact absurd hn Set.not_nonempty_empty

theorem isRestricted_iff : f.isRestricted d = true ↔ (f.held d).Nonempty := by
  rw [isRestricted, Option.isSome_iff_ne_none, ne_eq, restrictions_eq_none_iff,
    Set.nonempty_iff_ne_empty]

theorem mem_restrictedDimensions {s : IdSet} :
    (d, s) ∈ f.restrictedDimensions ↔ f.restrictions d = some s := by
  simp [restrictedDimensions]

theorem map_fst_restrictedDimensions (f : Filter) :
    f.restrictedDimensions.map Prod.fst = Dimension.all.filter f.isRestricted := by
  rw [restrictedDimensions, List.map_filterMap, ← List.filterMap_eq_filter]
  refine List.filterMap_congr fun d _ => ?_
  cases hd : f.restrictions d <;> simp [Option.guard, isRestricted, hd]

/-- The restricted dimensions are listed once each, in the order of dimensions. -/
theorem ascending_restrictedDimensions (f : Filter) :
    (f.restrictedDimensions.map Prod.fst).Pairwise fun d e => d.ctorIdx < e.ctorIdx := by
  rw [map_fst_restrictedDimensions]
  exact Dimension.ascending_all.sublist List.filter_sublist

theorem isEmpty_iff : f.isEmpty = true ↔ ∀ d, f.held d = ∅ := by
  have hd : f.isEmpty = true ↔ f.restrictedDimensions.map Prod.fst = [] := by
    rw [isEmpty, List.isEmpty_iff, List.map_eq_nil_iff]
  rw [hd, map_fst_restrictedDimensions, List.filter_eq_nil_iff]
  refine ⟨fun h d => ?_, fun h d _ => ?_⟩
  · have hn := h d (Dimension.mem_all d)
    rwa [isRestricted_iff, Set.not_nonempty_iff_eq_empty] at hn
  · rw [isRestricted_iff, Set.not_nonempty_iff_eq_empty]
    exact h d

/-! ## What is seen after a run of changes -/

/-- **A filter shows the sets that its changes make.**  Start from any filter, be it
the empty one or one that was read and may have entries without identifiers, and
make any changes.  The set of a dimension is what it was at the start, with all
identifiers that were added since, or with those alone that were added since it
was last cleared.  Then the restriction of a dimension is this set in ascending
order, or none if the set is empty; a dimension is restricted if its set has a
member; the restricted dimensions are listed once each, in the order of
dimensions, with their sets; the filter is empty if all sets are; and a change
leaves all other dimensions as they are. -/
theorem after_shows_sets (f : Filter) (changes : List Change) :
    (∀ d, (f.after changes).restrictions d = none ↔ setsAfter f.held changes d = ∅) ∧
      (∀ d, (setsAfter f.held changes d).Nonempty → ∃ s,
        (f.after changes).restrictions d = some s ∧ s.ids.Pairwise (· < ·) ∧
          ∀ id, id ∈ s.ids ↔ id ∈ setsAfter f.held changes d) ∧
      (∀ d, (f.after changes).isRestricted d = true ↔ (setsAfter f.held changes d).Nonempty) ∧
      ((f.after changes).restrictedDimensions.map Prod.fst).Pairwise
        (fun d e => d.ctorIdx < e.ctorIdx) ∧
      (∀ d, d ∈ (f.after changes).restrictedDimensions.map Prod.fst ↔
        (setsAfter f.held changes d).Nonempty) ∧
      (∀ d s, (d, s) ∈ (f.after changes).restrictedDimensions ↔
        (f.after changes).restrictions d = some s) ∧
      ((f.after changes).isEmpty = true ↔ ∀ d, setsAfter f.held changes d = ∅) ∧
      ∀ (change : Change) (d : Dimension), d ≠ change.dimension →
        (f.after (changes ++ [change])).entry d = (f.after changes).entry d ∧
          (f.after (changes ++ [change])).restrictions d = (f.after changes).restrictions d := by
  rw [← held_after]
  refine ⟨fun d => restrictions_eq_none_iff, fun d hd => ?_, fun d => isRestricted_iff,
    ascending_restrictedDimensions _, fun d => ?_, fun d s => mem_restrictedDimensions,
    isEmpty_iff, fun change d hd => ?_⟩
  · have hn : (f.after changes).restrictions d ≠ none := by
      rw [ne_eq, restrictions_eq_none_iff]
      exact hd.ne_empty
    obtain ⟨s, hs⟩ := Option.ne_none_iff_exists'.1 hn
    exact ⟨s, hs, s.ascending, (restrictions_eq_some_iff.1 hs).2⟩
  · rw [map_fst_restrictedDimensions, List.mem_filter, isRestricted_iff]
    exact and_iff_right (Dimension.mem_all d)
  · have he : (f.after (changes ++ [change])).entry d = (f.after changes).entry d := by
      rw [after, List.foldl_append]
      exact Change.entry_apply_of_ne hd _
    exact ⟨he, by rw [restrictions, restrictions, he]⟩

/-- What a filter is read from: two sites, and partners without any. -/
def sitesListed : List (Dimension × List Int32) := [(.site, [2, 1]), (.partner, [])]

/-- Changes to the sites, and to dimensions that have no identifiers before or after. -/
def sitesChanged : List Change :=
  [.restrict .partner [], .restrict .site [3, -1, 3], .clearRestriction .location,
    .addRestriction .activity 5, .clearRestriction .activity]

theorem after_shows_sets_sitesChanged :
    ∃ f, ofJson "\x7b\"restrictions\":\x7b\"Site\":[2,1],\"Partner\":[]\x7d\x7d" = .ok f ∧
      setsAfter f.held sitesChanged .site = {2, 1, 3, -1} ∧
      (∃ s, (f.after sitesChanged).restrictions .site = some s ∧ s.ids.Pairwise (· < ·) ∧
        ∀ id, id ∈ s.ids ↔ id ∈ ({2, 1, 3, -1} : Set Int32)) ∧
      (f.after (sitesChanged ++ [.addRestriction .activity 7])).restrictions .site =
        (f.after sitesChanged).restrictions .site := by
  have ht : "\x7b\"restrictions\":\x7b\"Site\":[2,1],\"Partner\":[]\x7d\x7d".toList =
      Json.compact (documentLexemes sitesListed) := by decide
  have hf := ofJson_documentLexemes (ht ▸ Json.spells_compact (documentLexemes sitesListed))
  have he : (empty.setEntries sitesListed).entry .site = some (.ofList [2, 1]) := rfl
  have hs : setsAfter (empty.setEntries sitesListed).held sitesChanged .site = {2, 1, 3, -1} := by
    ext id
    calc id ∈ setsAfter (empty.setEntries sitesListed).held sitesChanged .site
        ↔ id ∈ (empty.setEntries sitesListed).held .site ∨ id ∈ [3, -1, 3] := Iff.rfl
      _ ↔ id ∈ [2, 1] ∨ id ∈ [3, -1, 3] := by simp [mem_held, he]
      _ ↔ id ∈ ({2, 1, 3, -1} : Set Int32) := by grind
  obtain ⟨-, hsome, -, -, -, -, -, hframe⟩ :=
    after_shows_sets (empty.setEntries sitesListed) sitesChanged
  have hne : (setsAfter (empty.setEntries sitesListed).held sitesChanged .site).Nonempty :=
    hs ▸ Set.insert_nonempty 2 _
  exact ⟨_, hf, hs, hs ▸ hsome .site hne, (hframe (.addRestriction .activity 7) .site (by decide)).2⟩

end Filter
end ReportQuery
