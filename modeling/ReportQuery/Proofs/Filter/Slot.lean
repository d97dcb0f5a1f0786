/-
# The place of one list in a document

A document with a place for a list of identifiers: the members around the list, the
key in front of it, and what stands around the object that they are in (`Slot`).

| envelope | document |
| --- | --- |
| `list` | the entries as the only element of a list |
| `object before key after` | the entries as the member `restrictions` of an object |

If the document is read with one list in that place, everything else in it is in order,
so it hangs on the list alone what becomes of the document (`Slot.Holds.ofJson_of_accepts`,
`Slot.Holds.ofJson_of_refuses`), and what another list changes is the entry of its dimension.
-/

import ReportQuery.Proofs.Filter.Document

namespace ReportQuery
namespace Filter

open Json

/-! ## Members around the entries -/

section

variable {members before after : List (String × List String)} {key : String} {value : List String}
  {f : Filter}

/-- Behind the entries, only members of other names may stand. -/
theorem stops_of_not_foreign (hw : WellFormed members) (h : ¬ Foreign members) (f : Filter) :
    Stops takeMembers (some f) members := by
  induction members with
  | nil => exact absurd (fun _ h => absurd h List.not_mem_nil) h
  | cons m members ih =>
    obtain ⟨⟨hk, hv⟩, hw⟩ := wellFormed_cons.1 hw
    rcases name_cases m.1 with hnothing | hname | hother
    · exact (stops_member_of_key hk hnothing _).append hw.quoted
    · exact (stops_restrictions hname (.inl rfl)).append hw.quoted
    · have h : ¬ Foreign members := fun hf => h (foreign_cons.2 ⟨hother, hf⟩)
      obtain ⟨s, hs, hne⟩ := hother
      exact (leads_unknown hs hne hv _).stops (ih hw h) hw.quoted

/-- In front of the entries, only members of other names may stand. -/
theorem stops_of_not_foreign_before (hw : WellFormed (before ++ (key, value) :: after))
    (hkey : Denotes key memberName.toList) (h : ¬ Foreign before) :
    Stops takeMembers none (before ++ (key, value) :: after) := by
  induction before with
  | nil => exact absurd (fun _ h => absurd h List.not_mem_nil) h
  | cons m before ih =>
    obtain ⟨⟨hk, hv⟩, hw⟩ := wellFormed_cons.1 hw
    rcases name_cases m.1 with hnothing | hname | hother
    · exact (stops_member_of_key hk hnothing _).append hw.quoted
    · rcases takeRestrictions_of_isValue hv with ⟨f, hf⟩ | hrefused
      · have hsecond : ¬ Foreign (before ++ (key, value) :: after) := fun hf => by
          obtain ⟨s, hs, hne⟩ := hf (key, value) (by simp)
          exact hne (hs.unique hkey)
        exact (leads_restrictions hname hf).stops (stops_of_not_foreign hw hsecond f) hw.quoted
      · exact (stops_restrictions hname (.inr hrefused)).append hw.quoted
    · have h : ¬ Foreign before := fun hf => h (foreign_cons.2 ⟨hother, hf⟩)
      obtain ⟨s, hs, hne⟩ := hother
      exact (leads_unknown hs hne hv _).stops (ih hw h) hw.quoted

theorem leads_object (hb : WellFormed before) (hfb : Foreign before)
    (hkey : Denotes key memberName.toList) (hv : Accepts takeRestrictions value f)
    (ha : WellFormed after) (hfa : Foreign after) :
    Leads takeMembers none (before ++ (key, value) :: after) (some f) :=
  (leads_foreign hb hfb none).append
    ((leads_restrictions hkey hv).append (leads_foreign ha hfa _) ha.quoted)
    (quoted_cons.2 ⟨hkey.exists_cons, ha.quoted⟩)

end

/-! ## What stands around the entries -/

/-- What stands around the object of the entries. -/
inductive Envelope where
  | list
  | object (before : List (String × List String)) (key : String)
    (after : List (String × List String))

namespace Envelope

/-- The lexemes of a document, from those of the object of its entries. -/
def lexemes (entries : List String) : Envelope → List String
  | .list => listLexemes [entries]
  | .object before key after => objectLexemes ((before ++ (key, entries) :: after).map keyed)

/-- The entries are those of a filter, among members that are strings with values. -/
inductive WellFormed : Envelope → Prop
  | list : WellFormed .list
  | object {before after : List (String × List String)} {key : String}
    (hb : Json.WellFormed before) (hk : Denotes key memberName.toList)
    (ha : Json.WellFormed after) : WellFormed (.object before key after)

/-- The members around the entries are not seen. -/
inductive Sound : Envelope → Prop
  | list : Sound .list
  | object {before after : List (String × List String)} {key : String}
    (hb : Json.WellFormed before) (hfb : Foreign before) (hk : Denotes key memberName.toList)
    (ha : Json.WellFormed after) (hfa : Foreign after) : Sound (.object before key after)

end Envelope

section

variable {e : Envelope} {members : List (String × List String)} {f : Filter} {text : String}

theorem spells_element {entries : List String} {cs : List Char}
    (h : Spells (listLexemes [entries]) cs) (hb : Begins ']' entries) :
    ∃ text text', skipSpace cs = '[' :: text ∧ nextElement true text = .ok (.more text') ∧
      Spells (entries ++ ["]"]) text' := by
  obtain ⟨text, hs, ht⟩ := Spells.skipSpace_punctuation (c := '[') h rfl rfl
  have ht : Spells (lead true ++ (entries ++ ["]"])) text := by simpa [separated, lead] using ht
  obtain ⟨text', hn, ht'⟩ := hb.nextElement ht
  exact ⟨text, text', hs, hn, ht'⟩

theorem begins_object (members : List (String × List String)) :
    Begins ']' (objectLexemes (members.map keyed)) :=
  ⟨_, _, '\x7b', _, rfl, rfl, rfl, by decide⟩

theorem closing_bracket (more : List String) : Closing ("]" :: more) :=
  closing_cons (c := ']') rfl (by decide) more

/-- A document is read as the filter of its entries. -/
theorem Envelope.Sound.ofJson_of_accepts (he : e.Sound)
    (h : Accepts takeRestrictions (objectLexemes (members.map keyed)) f)
    (hs : Spells (e.lexemes (objectLexemes (members.map keyed))) text.toList) :
    ofJson text = .ok f := by
  cases he with
  | list =>
    obtain ⟨text₁, text₂, hs₁, hn, ht₂⟩ := spells_element hs (begins_object members)
    obtain ⟨text₃, hr, ht₃⟩ := h _ text₂ (closing_bracket []) ht₂
    obtain ⟨text₄, hs₃, ht₄⟩ := ht₃.skipSpace_punctuation (c := ']') rfl rfl
    have ht : take text.toList = .ok (f, text₄) := by
      rw [take, hs₁]
      simp only [takeElements, hn, hr, hs₃]
    rw [ofJson, ht]
    simp only [ht₄.skipSpace_nil]
  | object hb hfb hk ha hfa => exact ofJson_of_leads (leads_object hb hfb hk h ha hfa) hs

/-- A document is refused with its entries. -/
theorem Envelope.Sound.ofJson_of_refuses (he : e.Sound)
    (h : Refuses takeRestrictions (objectLexemes (members.map keyed)))
    (hs : Spells (e.lexemes (objectLexemes (members.map keyed))) text.toList) :
    ∃ fault, ofJson text = .error fault := by
  cases he with
  | list =>
    obtain ⟨text₁, text₂, hs₁, hn, ht₂⟩ := spells_element hs (begins_object members)
    obtain ⟨fault, hf⟩ := h _ text₂ (closing_bracket []) ht₂
    have ht : take text.toList = .error fault := by
      rw [take, hs₁]
      simp only [takeElements, hn, hf]
    exact ⟨fault, by rw [ofJson, ht]⟩
  | object hb hfb hk ha hfa =>
    refine ofJson_of_stops ((leads_foreign hb hfb none).stops ?_ ?_) hs
    · exact (stops_restrictions hk (.inr h)).append ha.quoted
    · exact quoted_cons.2 ⟨hk.exists_cons, ha.quoted⟩

/-- If a document is read, the members around its entries are not seen. -/
theorem Envelope.WellFormed.sound_of_ofJson (he : e.WellFormed)
    (hv : IsValue (objectLexemes (members.map keyed)))
    (hs : Spells (e.lexemes (objectLexemes (members.map keyed))) text.toList)
    (h : ofJson text = .ok f) : e.Sound := by
  cases he with
  | list => exact .list
  | @object before after key hb hk ha =>
    have hnot {members : List (String × List String)} (hstops : Stops takeMembers none members)
        (hs : Spells (objectLexemes (members.map keyed)) text.toList) : False := by
      obtain ⟨fault, hf⟩ := ofJson_of_stops hstops hs
      cases h.symm.trans hf
    have hw : Json.WellFormed (before ++ (key, objectLexemes (members.map keyed)) :: after) :=
      List.forall_mem_append.2 ⟨hb, wellFormed_cons.2 ⟨⟨hk.isString, hv⟩, ha⟩⟩
    have hfb : Foreign before :=
      by_contra fun hfb => hnot (stops_of_not_foreign_before hw hk hfb) hs
    refine .object hb hfb hk ha (by_contra fun hfa => ?_)
    have hstops : Stops takeMembers none
        ((key, objectLexemes (members.map keyed)) :: after) := by
      rcases takeRestrictions_of_isValue hv with ⟨g, hg⟩ | hrefused
      · exact (leads_restrictions hk hg).stops (stops_of_not_foreign ha hfa g) ha.quoted
      · exact (stops_restrictions hk (.inr hrefused)).append ha.quoted
    exact hnot ((leads_foreign hb hfb none).stops hstops
      (quoted_cons.2 ⟨hk.exists_cons, ha.quoted⟩)) hs

end

/-! ## The place of a list -/

/-- The place of a list of identifiers in a document: the members around it, and its key. -/
structure Slot where
  envelope : Envelope
  before : List (String × List String)
  key : String
  after : List (String × List String)

namespace Slot

/-- The lexemes of a document with a list in the place. -/
def document (slot : Slot) (list : List String) : List String :=
  slot.envelope.lexemes
    (objectLexemes ((slot.before ++ (slot.key, list) :: slot.after).map keyed))

/-- A place in a document for the list of a dimension. -/
structure IsOf (slot : Slot) (d : Dimension) : Prop where
  envelope : slot.envelope.WellFormed
  before : WellFormed slot.before
  key : Denotes slot.key d.name.toList
  after : WellFormed slot.after

/-- What the lists around the place are: all that is in the document but the list is in order. -/
structure Holds (slot : Slot) (before : List (Dimension × List Int32)) (d : Dimension)
    (after : List (Dimension × List Int32)) : Prop where
  envelope : slot.envelope.Sound
  before : List.Forall₂ Lists slot.before before
  key : Denotes slot.key d.name.toList
  after : List.Forall₂ Lists slot.after after

section

variable {slot : Slot} {d : Dimension} {before after : List (Dimension × List Int32)}
  {list : List String} {ids : List Int32} {f : Filter} {text : String}

/-- The document is read with a list that is taken. -/
theorem Holds.ofJson_of_accepts (h : slot.Holds before d after) (hl : Accepts takeIdList list ids)
    (hs : Spells (slot.document list) text.toList) :
    ofJson text = .ok (empty.setEntries (before ++ (d, ids) :: after)) := by
  have hlist : Lists (slot.key, list) (d, ids) := ⟨h.key, hl⟩
  have hentries := List.rel_append h.before (.cons hlist h.after)
  exact h.envelope.ofJson_of_accepts (accepts_takeRestrictions (leads_entries hentries .empty)) hs

/-- The document is refused with a list that is refused. -/
theorem Holds.ofJson_of_refuses (h : slot.Holds before d after) (hl : Refuses takeIdList list)
    (hs : Spells (slot.document list) text.toList) : ∃ fault, ofJson text = .error fault := by
  have hq : Quoted slot.after := quoted_of_lists h.after
  have hstops := (leads_entries h.before .empty).stops
    ((stops_entry_of_value h.key hl _).append hq) (quoted_cons.2 ⟨h.key.exists_cons, hq⟩)
  exact h.envelope.ofJson_of_refuses (refuses_takeRestrictions hstops) hs

/-- If a document is read with one list in the place, all but the list is in order. -/
theorem IsOf.exists_holds (h : slot.IsOf d)
    (hs : Spells (slot.document (idLexemes ids)) text.toList) (hf : ofJson text = .ok f) :
    ∃ before after, slot.Holds before d after := by
  have hlist : Lists (slot.key, idLexemes ids) (d, ids) := ⟨h.key, accepts_idLexemes ids⟩
  have htail : WellFormed ((slot.key, idLexemes ids) :: slot.after) :=
    wellFormed_cons.2 ⟨⟨h.key.isString, isValue_idLexemes ids⟩, h.after⟩
  have hw : WellFormed (slot.before ++ (slot.key, idLexemes ids) :: slot.after) :=
    List.forall_mem_append.2 ⟨h.before, htail⟩
  have hv : IsValue (objectLexemes
      ((slot.before ++ (slot.key, idLexemes ids) :: slot.after).map keyed)) :=
    .object (fun m hm => (hw m hm).1) fun m hm => (hw m hm).2
  have he := h.envelope.sound_of_ofJson hv hs hf
  have hnot (hstops : Stops takeEntries .empty
      (slot.before ++ (slot.key, idLexemes ids) :: slot.after)) : False := by
    obtain ⟨fault, hfault⟩ := he.ofJson_of_refuses (refuses_takeRestrictions hstops) hs
    cases hf.symm.trans hfault
  rcases entries_of_wellFormed h.before with ⟨before, hb⟩ | hstops
  · rcases entries_of_wellFormed h.after with ⟨after, ha⟩ | hstops
    · exact ⟨before, after, he, hb, h.key, ha⟩
    · exact (hnot ((leads_entries hb .empty).stops
        ((leads_entry hlist _).stops (hstops _) h.after.quoted) htail.quoted)).elim
  · exact (hnot ((hstops .empty).append htail.quoted)).elim

end

end Slot

end Filter
end ReportQuery
