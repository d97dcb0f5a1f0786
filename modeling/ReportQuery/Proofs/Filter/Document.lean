/-
# The documents of filters

A document lists identifiers by dimension.  It may list a dimension twice, an
identifier twice, and no identifier at all; its dimensions and identifiers may come
in any order; and there may be any spaces between its lexemes (`documentLexemes`).

| document | filter |
| --- | --- |
| a dimension that is listed | has an entry, with the identifiers of its last list |
| a dimension that is not listed | has no entry |

Reading takes a document apart lexeme by lexeme and gives the filter that it denotes,
whatever the spaces are; and the text of a filter is the compact one of a document
that denotes the filter, so it is read as the filter itself
(`ofJson_denotes`).
-/

import Mathlib.Data.List.Forall2
import ReportQuery.Proofs.Filter.Reading

namespace ReportQuery
namespace Filter

open Json

/-! ## Documents -/

/-- The lexemes of a list of identifiers. -/
def idLexemes (ids : List Int32) : List String :=
  listLexemes (ids.map fun id => [toString id.toInt])

/-- The lexemes of the lists of some dimensions. -/
def entryLexemes (entries : List (Dimension × List Int32)) : List String :=
  objectLexemes (entries.map fun (d, ids) => memberLexemes d.name (idLexemes ids))

/-- The lexemes of a document. -/
def documentLexemes (entries : List (Dimension × List Int32)) : List String :=
  objectLexemes [memberLexemes memberName (entryLexemes entries)]

/-! ## Reading -/

theorem isValue_decimal (n : Int) : IsValue [toString n] := .scalar (isScalar_decimal n)

theorem isValue_idLexemes (ids : List Int32) : IsValue (idLexemes ids) := by
  refine .list fun value hin => ?_
  obtain ⟨id, -, rfl⟩ := List.mem_map.1 hin
  exact isValue_decimal id.toInt

theorem accepts_idLexemes (ids : List Int32) : Accepts takeIdList (idLexemes ids) ids := by
  refine accepts_takeIdList (fun value hin => ?_) ?_
  · obtain ⟨id, -, rfl⟩ := List.mem_map.1 hin
    exact (isValue_decimal id.toInt).begins
  · rw [List.forall₂_map_left_iff, List.forall₂_same]
    exact fun id _ => accepts_takeId (isDecimal_toString id.toInt)

/-- The members that list some dimensions. -/
def entryMembers (entries : List (Dimension × List Int32)) : List (String × List String) :=
  entries.map fun e => (quote e.1.name, idLexemes e.2)

theorem entryLexemes_eq (entries : List (Dimension × List Int32)) :
    entryLexemes entries = objectLexemes ((entryMembers entries).map keyed) := by
  rw [entryMembers, List.map_map]
  rfl

theorem isValue_entryLexemes (entries : List (Dimension × List Int32)) :
    IsValue (entryLexemes entries) := by
  rw [entryLexemes_eq]
  refine .object (fun m hm => ?_) fun m hm => ?_ <;> obtain ⟨e, -, rfl⟩ := List.mem_map.1 hm
  · exact (denotes_quote e.1.name).isString
  · exact isValue_idLexemes e.2

theorem lists_entryMembers (entries : List (Dimension × List Int32)) :
    List.Forall₂ Lists (entryMembers entries) entries := by
  rw [entryMembers, List.forall₂_map_left_iff, List.forall₂_same]
  exact fun e _ => ⟨denotes_quote e.1.name, accepts_idLexemes e.2⟩

theorem accepts_entryLexemes (entries : List (Dimension × List Int32)) :
    Accepts takeRestrictions (entryLexemes entries) (empty.setEntries entries) :=
  entryLexemes_eq entries ▸ accepts_takeRestrictions (leads_entries (lists_entryMembers entries) _)

/-- A document is read as the filter with its lists set one after the other. -/
theorem ofJson_documentLexemes {entries : List (Dimension × List Int32)} {text : String}
    (h : Spells (documentLexemes entries) text.toList) :
    ofJson text = .ok (empty.setEntries entries) :=
  ofJson_of_leads (leads_restrictions (denotes_quote memberName) (accepts_entryLexemes entries)) h

/-! ## Writing -/

/-- The lists that are written for a filter. -/
def lists (f : Filter) : List (Dimension × List Int32) := f.entries.map fun (d, ids) => (d, ids.ids)

theorem toList_idsJson (ids : IdSet) : (idsJson ids).toList = compact (idLexemes ids.ids) := by
  have h : ∀ id : Int32, (toString id.toInt).toList = compact [toString id.toInt] := by simp
  exact toList_list h ids.ids

/-- A filter is written as a document without spaces. -/
theorem toList_json (f : Filter) : f.json.toList = compact (documentLexemes f.lists) := by
  have hi : ∀ e : Dimension × IdSet, (idsJson e.2).toList = compact (idLexemes e.2.ids) :=
    fun e => toList_idsJson e.2
  have he : ∀ _ : Unit, (object (f.entries.map fun (d, ids) => (d.name, idsJson ids))).toList =
      compact (entryLexemes f.lists) := fun _ => by
    rw [entryLexemes, lists, List.map_map]
    exact toList_object hi (fun e => e.1.name) f.entries
  simpa [json, documentLexemes] using toList_object he (fun _ => memberName) [()]

section

variable {f : Filter} {d : Dimension}

theorem mem_lists {ids : List Int32} :
    (d, ids) ∈ f.lists ↔ ∃ s, f.entry d = some s ∧ s.ids = ids := by
  simp [lists, entries]

/-- The dimensions are written in their order. -/
theorem map_fst_lists_sublist (f : Filter) : (f.lists.map Prod.fst).Sublist Dimension.all := by
  have h : f.lists.map Prod.fst = Dimension.all.filter fun d => (f.entry d).isSome := by
    rw [lists, entries, List.map_map, List.map_filterMap, ← List.filterMap_eq_filter]
    congr
    funext d
    cases hd : f.entry d <;> simp [Option.guard, hd]
  rw [h]
  exact List.filter_sublist

theorem setEntries_lists (f : Filter) : empty.setEntries f.lists = f := by
  refine ext fun d => ?_
  cases hd : f.entry d with
  | none =>
    refine entry_setEntries_of_not_mem fun h => ?_
    obtain ⟨e, he, rfl⟩ := List.mem_map.1 h
    obtain ⟨s, hs, -⟩ := mem_lists.1 he
    rw [hd] at hs
    cases hs
  | some s =>
    obtain ⟨before, after, hl⟩ := List.append_of_mem (mem_lists.2 ⟨s, hd, rfl⟩)
    have hn := Dimension.nodup_all.sublist (map_fst_lists_sublist f)
    rw [hl, List.map_append, List.map_cons] at hn
    have ha := (List.nodup_cons.1 (List.nodup_append.1 hn).2.1).1
    rw [hl, entry_setEntries_last ha]
    exact congrArg some (IdSet.ext fun id => IdSet.mem_ofList)

end

/-! ## A document is read as what it denotes -/

/-- **A document is read as the filter that it denotes**, whatever its spaces, and whatever order
and repetitions there are in it: the dimensions with an entry are those that are listed, and the
identifiers of an entry are those of the last list.  **A filter is read back from its text**, a
document without spaces, which has the entries in the order of dimensions, and in each of them the
identifiers in ascending order. -/
theorem ofJson_denotes :
    (∀ (entries : List (Dimension × List Int32)) (text : String),
      Spells (documentLexemes entries) text.toList → ∃ f, ofJson text = .ok f ∧
        (∀ d, f.entry d = none ↔ d ∉ entries.map Prod.fst) ∧
        ∀ before d ids after, entries = before ++ (d, ids) :: after → d ∉ after.map Prod.fst →
          ∃ s, f.entry d = some s ∧ ∀ id, id ∈ s ↔ id ∈ ids) ∧
    ∀ f : Filter, ofJson f.json = .ok f ∧
      ∃ entries, f.json.toList = compact (documentLexemes entries) ∧
        (entries.map Prod.fst).Pairwise (fun d e => d.ctorIdx < e.ctorIdx) ∧
        (∀ e ∈ entries, e.2.Pairwise (· < ·)) ∧
        ∀ d ids, (d, ids) ∈ entries ↔ ∃ s, f.entry d = some s ∧ s.ids = ids := by
  refine ⟨fun entries text h => ⟨_, ofJson_documentLexemes h, fun d => ⟨fun hn hd => ?_, ?_⟩, ?_⟩,
    fun f => ⟨?_, f.lists, f.toList_json, ?_, ?_, fun d ids => mem_lists⟩⟩
  · simpa [hn] using isSome_entry_setEntries (f := empty) hd
  · exact entry_setEntries_of_not_mem
  · rintro before d ids after rfl ha
    exact ⟨_, entry_setEntries_last ha, fun id => IdSet.mem_ofList⟩
  · have h : Spells (documentLexemes f.lists) f.json.toList := by
      rw [toList_json]
      exact spells_compact _
    rw [ofJson_documentLexemes h, setEntries_lists]
  · have h : Dimension.all.Pairwise fun d e => d.ctorIdx < e.ctorIdx := by decide
    exact h.sublist f.map_fst_lists_sublist
  · rintro ⟨d, ids⟩ he
    obtain ⟨s, -, rfl⟩ := mem_lists.1 he
    exact s.ascending

/-- Two lists of sites around an empty list of partners. -/
def sitesTwice : List (Dimension × List Int32) :=
  [(.site, [2, 2]), (.partner, []), (.site, [3, -1, 3])]

/-- The first list of sites does not count, and the list of partners is an entry. -/
theorem ofJson_denotes_sitesTwice :
    let text :=
      " \x7b\"restrictions\":\x7b\"Site\":[2,2],\n\"Partner\":[],\"Site\":[3,-1,3]\x7d\x7d"
    Spells (documentLexemes sitesTwice) text.toList ∧
      ∃ f, ofJson text = .ok f ∧ (∃ s, f.entry .site = some s ∧ ∀ id, id ∈ s ↔ id ∈ [3, -1, 3]) ∧
        ∃ s, f.entry .partner = some s ∧ ∀ id, id ∈ s ↔ id ∈ ([] : List Int32) := by
  intro text
  have h : Spells (documentLexemes sitesTwice) text.toList := by
    let ls := documentLexemes sitesTwice
    have ht : text.toList = ' ' :: (compact (ls.take 12) ++ '\n' :: compact (ls.drop 12)) := by
      decide
    have hs := ((spells_compact (ls.drop 12)).space (c := '\n') rfl).compact_append (ls.take 12)
    rw [List.take_append_drop] at hs
    exact ht ▸ hs.space rfl
  obtain ⟨f, hf, -, hlast⟩ := ofJson_denotes.1 sitesTwice text h
  exact ⟨h, f, hf, hlast [(.site, [2, 2]), (.partner, [])] .site [3, -1, 3] [] rfl (by decide),
    hlast [(.site, [2, 2])] .partner [] [(.site, [3, -1, 3])] rfl (by decide)⟩

end Filter
end ReportQuery
