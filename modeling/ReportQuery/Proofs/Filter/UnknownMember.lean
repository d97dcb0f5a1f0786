/-
# Members of other names are not seen

A filter is an object with a member `restrictions`.  Members of other names may stand
anywhere among its members, with any values; a document is read as if they were not
there (`ofJson_insert_iff`).

| a value that is passed over | |
| --- | --- |
| may hold anything | lists in lists, and members named `restrictions` |
| need not stand for anything | numbers out of range, halves of characters |

The key of such a member has to stand for a name, and the name is what counts, not how
it is spelled: an escape may make it `restrictions` after all.
-/

import ReportQuery.Proofs.Filter.Document

namespace ReportQuery
namespace Filter

open Json

section

variable {before after : List (String × List String)} {key : String} {value : List String}
  {s : List Char} {text text' : String} {f : Filter}

/-- **A member of another name is not seen**: a document that holds it between any two of its
members is read as the same filter as the document without it, or both are refused.  Both may have
any spaces. -/
theorem ofJson_insert_iff (hbefore : WellFormed before) (hafter : WellFormed after)
    (hkey : Denotes key s) (hs : s ≠ memberName.toList) (hvalue : IsValue value)
    (htext : Spells (objectLexemes ((before ++ after).map keyed)) text.toList)
    (htext' : Spells (objectLexemes ((before ++ (key, value) :: after).map keyed)) text'.toList) :
    ofJson text' = .ok f ↔ ofJson text = .ok f := by
  have hquoted : Quoted ((key, value) :: after) :=
    quoted_cons.2 ⟨hkey.exists_cons, hafter.quoted⟩
  rcases members_of_wellFormed hbefore none with ⟨found, hb⟩ | hb
  · have hmember := leads_unknown hkey hs hvalue found
    rcases members_of_wellFormed hafter found with ⟨found', ha⟩ | ha
    · rw [ofJson_of_leads (hb.append ha hafter.quoted) htext,
        ofJson_of_leads (hb.append (hmember.append ha hafter.quoted) hquoted) htext']
    · obtain ⟨fault, hf⟩ := ofJson_of_stops (hb.stops ha hafter.quoted) htext
      obtain ⟨fault', hf'⟩ :=
        ofJson_of_stops (hb.stops (hmember.stops ha hafter.quoted) hquoted) htext'
      simp [hf, hf']
  · obtain ⟨fault, hf⟩ := ofJson_of_stops (hb.append hafter.quoted) htext
    obtain ⟨fault', hf'⟩ := ofJson_of_stops (hb.append hquoted) htext'
    simp [hf, hf']

end

/-- A list that holds a member `restrictions` with half a character, and a number out of range. -/
def noteValue : List String :=
  listLexemes [objectLexemes [keyed ("\"restrictions\"", ["\"\\ud800\""])], ["-0.5E+999"]]

theorem isValue_noteValue : IsValue noteValue := by
  have hhalf : StringText ['\\', 'u', 'd', '8', '0', '0'] :=
    .unicode (List.all_eq_true.1 rfl) .nil
  have hnumber : NumberText "-0.5E+999".toList
      ⟨true, ['0'], ['5'], some (false, ['9', '9', '9'])⟩ :=
    .negative rfl ⟨['.', '5'], ['E', '+', '9', '9', '9'], rfl,
      ⟨⟨by decide, List.all_eq_true.1 rfl⟩, by decide⟩, .some ⟨by decide, List.all_eq_true.1 rfl⟩,
      .plus (.inr rfl) ⟨by decide, List.all_eq_true.1 rfl⟩⟩
  have hkey : IsString "\"restrictions\"" := (denotes_quote memberName).isString
  have hobject : IsValue (objectLexemes ([("\"restrictions\"", ["\"\\ud800\""])].map keyed)) := by
    refine .object (fun m hm => ?_) fun m hm => ?_ <;> obtain rfl := List.mem_singleton.1 hm
    · exact hkey
    · exact .scalar (.string ⟨_, hhalf, rfl⟩)
  refine .list fun value hin => ?_
  rcases List.mem_pair.1 hin with rfl | rfl
  · exact hobject
  · exact .scalar (.number hnumber)

/-- The key of the member is spelled with an escape. -/
theorem ofJson_insert_iff_note :
    let key := "\"n\\u006fte\""
    let sites := (quote memberName, entryLexemes [(.site, [2, 1])])
    let text := "\x7b\"n\\u006fte\" :[\x7b\"restrictions\":\"\\ud800\"\x7d,-0.5E+999]\n," ++
      "\"restrictions\":\x7b\"Site\":[2,1]\x7d\x7d"
    WellFormed [sites] ∧ Denotes key "note".toList ∧ IsValue noteValue ∧
      Spells (objectLexemes [keyed (key, noteValue), keyed sites]) text.toList ∧
      ofJson text = .ok (empty.setEntries [(.site, [2, 1])]) := by
  intro key sites text
  have hw : WellFormed [sites] := by
    rintro m (_ | ⟨_, ⟨⟩⟩)
    exact ⟨(denotes_quote memberName).isString, isValue_entryLexemes [(.site, [2, 1])]⟩
  have hkey : Denotes key "note".toList := by
    have hdigits : hexNumber? '0' '0' '6' 'f' = some 0x6f := by decide
    refine ⟨['n', '\\', 'u', '0', '0', '6', 'f', 't', 'e'], ?_, by decide⟩
    exact .plain (by decide) (by decide) (by decide) (.unicode hdigits (by decide)
      (.plain (by decide) (by decide) (by decide)
        (.plain (by decide) (by decide) (by decide) .nil)))
  have hs : Spells (objectLexemes [keyed (key, noteValue), keyed sites]) text.toList := by
    let ls := objectLexemes [keyed (key, noteValue), keyed sites]
    have ht : text.toList = compact (ls.take 2) ++
        ' ' :: (compact ((ls.drop 2).take 10) ++ '\n' :: compact ((ls.drop 2).drop 10)) := by
      decide
    have hspace := ((spells_compact ((ls.drop 2).drop 10)).space (c := '\n') rfl).compact_append
      ((ls.drop 2).take 10)
    rw [List.take_append_drop] at hspace
    have hspaces := (hspace.space (c := ' ') rfl).compact_append (ls.take 2)
    rw [List.take_append_drop] at hspaces
    exact ht ▸ hspaces
  have hnone : WellFormed [] := fun _ h => nomatch h
  have hsites : Spells (objectLexemes [keyed sites])
      (String.ofList (compact (documentLexemes [(.site, [2, 1])]))).toList := by
    rw [String.toList_ofList]
    exact spells_compact _
  exact ⟨hw, hkey, isValue_noteValue, hs,
    (ofJson_insert_iff hnone hw hkey (by decide) isValue_noteValue hsites hs).2
      (ofJson_documentLexemes hsites)⟩

end Filter
end ReportQuery
