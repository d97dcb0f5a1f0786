/-
# Equal filters

Two filters are equal if they have the same entries, and they show the same if
they restrict the same dimensions to the same identifiers.  The difference is a
blank entry, one without identifiers: it is not shown, yet a filter that has it
is not equal to one that has not.

| what makes a filter | its blank entries |
| --- | --- |
| the empty filter | none |
| a document | for the dimensions whose last list is empty |
| adding no identifier | as before |
| adding identifiers, clearing | as before, without that of the dimension |

So filters are equal if and only if they show the same and have the same blank
entries (`eq_iff_shown`).  No change makes a blank entry, and each change that has
something to do takes that of its dimension away (`Change.blank_apply`); what is
left after a run are the blank entries of the start that the run does not touch
(`blank_after`).  Hence filters that come from the empty one, or from documents
without empty lists, are told apart by what they show; other filters are not.
-/

import ReportQuery.Proofs.Filter.Change

namespace ReportQuery

theorem IdSet.isEmpty_iff {s : IdSet} : s.isEmpty = true ↔ s = .empty := by
  rw [IdSet.isEmpty, List.isEmpty_iff]
  constructor
  · intro h
    exact IdSet.ext fun id => by rw [IdSet.mem_def, IdSet.mem_def, h, IdSet.empty]
  · rintro rfl
    rfl

namespace Filter

/-- A dimension has an entry without identifiers. -/
def Blank (f : Filter) (d : Dimension) : Prop := f.entry d = some .empty

instance (f : Filter) (d : Dimension) : Decidable (f.Blank d) := inferInstanceAs (Decidable (_ = _))

/-- A change has something to do at a dimension, whatever it finds there. -/
def Change.Touches (c : Change) (d : Dimension) : Prop := c.dimension = d ∧ c ≠ .restrict d []

variable {f g : Filter} {d : Dimension}

/-! ## What tells filters apart -/

/-- An entry is shown, or it is blank. -/
theorem entry_eq_some_iff {s : IdSet} :
    f.entry d = some s ↔ f.restrictions d = some s ∨ s = .empty ∧ f.Blank d := by
  rw [restrictions, Option.filter_eq_some_iff, Bool.not_eq_true', Blank]
  by_cases hs : s = .empty
  · subst hs
    exact ⟨fun h => .inr ⟨rfl, h⟩, fun h => h.elim And.left And.right⟩
  · have hn : s.isEmpty = false := by
      rw [← Bool.not_eq_true, IdSet.isEmpty_iff]
      exact hs
    exact ⟨fun h => .inl ⟨h, hn⟩, fun h => h.elim And.left fun h => absurd h.1 hs⟩

theorem entry_eq_iff :
    f.entry d = g.entry d ↔ f.restrictions d = g.restrictions d ∧ (f.Blank d ↔ g.Blank d) := by
  constructor
  · intro h
    rw [restrictions, restrictions, Blank, Blank, h]
    exact ⟨rfl, Iff.rfl⟩
  · rintro ⟨hr, hb⟩
    refine Option.ext fun s => ?_
    rw [entry_eq_some_iff, entry_eq_some_iff, hr, hb]

/-- The list of restricted dimensions tells what each dimension is restricted to. -/
theorem restrictedDimensions_eq_iff :
    f.restrictedDimensions = g.restrictedDimensions ↔
      ∀ d, f.restrictions d = g.restrictions d := by
  constructor
  · intro h d
    refine Option.ext fun s => ?_
    rw [← mem_restrictedDimensions, ← mem_restrictedDimensions, h]
  · intro h
    have hr : f.restrictions = g.restrictions := funext h
    rw [restrictedDimensions, restrictedDimensions, hr]

/-- **Filters are told by what they show and by their blank entries.** -/
theorem eq_iff_shown :
    f = g ↔ f.restrictedDimensions = g.restrictedDimensions ∧ ∀ d, f.Blank d ↔ g.Blank d := by
  rw [restrictedDimensions_eq_iff, ← forall_and]
  constructor
  · rintro rfl d
    exact entry_eq_iff.1 rfl
  · intro h
    exact ext fun d => entry_eq_iff.2 (h d)

theorem restrictedDimensions_empty : empty.restrictedDimensions = [] := rfl

theorem not_blank_empty (d : Dimension) : ¬ empty.Blank d := nofun

theorem eq_empty_iff : f = empty ↔ f.isEmpty = true ∧ ∀ d, ¬ f.Blank d := by
  simp only [eq_iff_shown, restrictedDimensions_empty, isEmpty, List.isEmpty_iff, not_blank_empty,
    iff_false]

/-! ## Where blank entries come from -/

theorem blank_setEntry {ids : Option IdSet} {x : Dimension} :
    (f.setEntry x ids).Blank d ↔ if d = x then ids = some .empty else f.Blank d := by
  rw [Blank, entry_setEntry]
  split <;> rfl

/-- What has got an identifier is not blank any more. -/
theorem blank_restrict {ids : List Int32} {x : Dimension} :
    (f.restrict x ids).Blank d ↔ f.Blank d ∧ ¬ (x = d ∧ ids ≠ []) := by
  cases ids with
  | nil => simp [restrict]
  | cons id ids =>
    have hs : ((f.entry x).getD .empty).insertAll (id :: ids) ≠ .empty := by
      intro h
      have hid : id ∈ ((f.entry x).getD .empty).insertAll (id :: ids) :=
        IdSet.mem_insertAll.2 (.inr List.mem_cons_self)
      rw [h] at hid
      exact IdSet.not_mem_empty hid
    rw [restrict, if_neg (by simp), blank_setEntry]
    by_cases hd : d = x
    · subst hd
      simp [hs]
    · simp [hd, Ne.symm hd]

/-- **A change makes no blank entry, and takes away that of its dimension** if it has
something to do. -/
theorem Change.blank_apply (c : Change) (f : Filter) (d : Dimension) :
    (c.apply f).Blank d ↔ f.Blank d ∧ ¬ c.Touches d := by
  cases c with
  | restrict x ids =>
    rw [apply, blank_restrict, Touches, dimension]
    by_cases hx : x = d
    · subst hx
      simp
    · simp [hx]
  | addRestriction x id => simp [apply, Filter.addRestriction, blank_restrict, Touches, dimension]
  | clearRestriction x =>
    rw [apply, Filter.clearRestriction, blank_setEntry]
    by_cases hx : d = x
    · subst hx
      simp [Touches, dimension]
    · simp [Touches, dimension, hx, Ne.symm hx]

/-- **After a run, the blank entries are those of the start that the run does not touch.** -/
theorem blank_after (f : Filter) (changes : List Change) (d : Dimension) :
    (f.after changes).Blank d ↔ f.Blank d ∧ ∀ c ∈ changes, ¬ c.Touches d := by
  induction changes generalizing f with
  | nil => simp [after]
  | cons c changes ih =>
    calc ((c.apply f).after changes).Blank d
        ↔ (c.apply f).Blank d ∧ ∀ c ∈ changes, ¬ c.Touches d := ih (c.apply f)
      _ ↔ (f.Blank d ∧ ¬ c.Touches d) ∧ ∀ c ∈ changes, ¬ c.Touches d := by rw [c.blank_apply]
      _ ↔ f.Blank d ∧ ∀ x ∈ c :: changes, ¬ x.Touches d := by
        rw [List.forall_mem_cons, and_assoc]

theorem IdSet.ofList_eq_empty_iff {ids : List Int32} : IdSet.ofList ids = .empty ↔ ids = [] := by
  constructor
  · intro h
    rw [List.eq_nil_iff_forall_not_mem]
    intro id hid
    exact IdSet.not_mem_empty (h ▸ IdSet.mem_ofList.2 hid)
  · rintro rfl
    rfl

/-- The last list of a dimension makes a blank entry if it is empty. -/
theorem blank_setEntries_last {before after : List (Dimension × List Int32)} {ids : List Int32}
    (h : d ∉ after.map Prod.fst) :
    (f.setEntries (before ++ (d, ids) :: after)).Blank d ↔ ids = [] := by
  rw [Blank, entry_setEntries_last h, Option.some_inj, IdSet.ofList_eq_empty_iff]

/-- A dimension that is not listed has no entry, so no blank one. -/
theorem not_blank_setEntries {entries : List (Dimension × List Int32)}
    (h : d ∉ entries.map Prod.fst) : ¬ (empty.setEntries entries).Blank d := by
  rw [Blank, entry_setEntries_of_not_mem h]
  exact not_blank_empty d

/-! ## When filters are equal -/

/-- **Filters are equal if they show the same and have the same blank entries.**  Let
two filters, whatever they come from, be changed in any way.  They are equal then if
and only if the lists of their restricted dimensions are equal and they have the same
blank entries; and a filter without restrictions is the empty one if and only if it
has no blank entry.  A blank entry is one that was there at the start and that no
change has touched, since no change makes one; the empty filter has none; and a
document makes one for each dimension whose last list is empty, and no other. -/
theorem after_eq_iff_shown (f g : Filter) (changes changes' : List Change) :
    (f.after changes = g.after changes' ↔
      (f.after changes).restrictedDimensions = (g.after changes').restrictedDimensions ∧
        ∀ d, (f.after changes).Blank d ↔ (g.after changes').Blank d) ∧
      (f.after changes = empty ↔ (f.after changes).isEmpty = true ∧
        ∀ d, ¬ (f.after changes).Blank d) ∧
      (∀ d, (f.after changes).Blank d ↔ f.Blank d ∧ ∀ c ∈ changes, ¬ c.Touches d) ∧
      (∀ d, ¬ empty.Blank d) ∧
      ∀ (entries : List (Dimension × List Int32)) (text : String),
        Json.Spells (documentLexemes entries) text.toList → ∃ s, ofJson text = .ok s ∧
          (∀ d, d ∉ entries.map Prod.fst → ¬ s.Blank d) ∧
          ∀ before d ids after, entries = before ++ (d, ids) :: after →
            d ∉ after.map Prod.fst → (s.Blank d ↔ ids = []) := by
  refine ⟨eq_iff_shown, eq_empty_iff, blank_after f changes, not_blank_empty, ?_⟩
  intro entries text h
  refine ⟨_, ofJson_documentLexemes h, fun d hd => not_blank_setEntries hd, ?_⟩
  rintro before d ids after rfl ha
  exact blank_setEntries_last ha

/-- A document with an empty list of sites. -/
def noSites : List (Dimension × List Int32) := [(.site, [])]

theorem spells_noSites :
    Json.Spells (documentLexemes noSites)
      "\x7b\"restrictions\":\x7b\"Site\":[]\x7d\x7d".toList := by
  have h : "\x7b\"restrictions\":\x7b\"Site\":[]\x7d\x7d".toList =
      Json.compact (documentLexemes noSites) := by decide
  exact h ▸ Json.spells_compact (documentLexemes noSites)

/-- The blank entry for the sites stays when a partner is added, and goes when a site is. -/
theorem after_eq_iff_shown_noSites :
    ∃ f, ofJson "\x7b\"restrictions\":\x7b\"Site\":[]\x7d\x7d" = .ok f ∧
      f.after [.addRestriction .partner 7] ≠ empty.after [.addRestriction .partner 7] ∧
      ¬ (f.after [.addRestriction .site 7]).Blank .site := by
  obtain ⟨-, -, -, -, hread⟩ := after_eq_iff_shown empty empty [] []
  obtain ⟨f, hf, -, hlast⟩ := hread noSites _ spells_noSites
  have hb : f.Blank .site := (hlast [] .site [] [] rfl (by simp)).2 rfl
  obtain ⟨heq, -, hkept, -, -⟩ :=
    after_eq_iff_shown f empty [.addRestriction .partner 7] [.addRestriction .partner 7]
  obtain ⟨-, -, htaken, -, -⟩ := after_eq_iff_shown f empty [.addRestriction .site 7] []
  have hpartner : ∀ c ∈ [Change.addRestriction .partner 7], ¬ c.Touches .site := by
    simp [Change.Touches, Change.dimension]
  refine ⟨f, hf, fun h => ?_, fun h => ?_⟩
  · have he := ((heq.1 h).2 .site).1 ((hkept .site).2 ⟨hb, hpartner⟩)
    exact absurd he (by decide)
  · exact ((htaken .site).1 h).2 _ List.mem_cons_self ⟨rfl, nofun⟩

/-- **A filter that restricts nothing may differ from the empty one.**  Adding no site
to the empty filter leaves it as it is, and reading an empty list of sites gives
another one, which shows the same. -/
theorem ne_empty_of_noSites :
    ∃ f, ofJson "\x7b\"restrictions\":\x7b\"Site\":[]\x7d\x7d" = .ok f ∧
      f.restrictedDimensions = empty.restrictedDimensions ∧ f.isEmpty = true ∧ f ≠ empty ∧
      empty.restrict .site [] = empty := by
  have hb : (empty.setEntries noSites).Blank .site := rfl
  exact ⟨_, ofJson_documentLexemes spells_noSites, rfl, rfl,
    fun h => not_blank_empty .site (h ▸ hb), rfl⟩

end Filter
end ReportQuery
