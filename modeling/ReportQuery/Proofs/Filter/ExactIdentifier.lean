/-
# Identifiers are read exactly

The elements of a list of identifiers are runs of digits, signs, points and letters of
an exponent.  In a document that is otherwise in order, they are identifiers only if
each of them is the decimal text of an integer of 32 bits, and then they are read as
those integers (`ofJson_tokens`).

| element | |
| --- | --- |
| `0`, `17`, `-2147483648` | read as it stands |
| `2147483648`, `18446744073709551617` | refused, and not wrapped around |
| `1.0`, `1e3`, `-0` | refused, and not rounded |
| `007`, `+1`, `1-2`, `--1` | refused: they go on where a number ends |

An element of the last kind is not refused by the reader of identifiers but by what
comes next, which finds the rest of the element in place of a comma (`spoils_token`).
-/

import ReportQuery.CommandLine.Command
import ReportQuery.Proofs.Filter.Slot

namespace ReportQuery
namespace Filter

open Json CommandLine.QueryArguments

/-! ## Tokens -/

/-- The characters that numbers are made of. -/
def isNumberCharacter (c : Char) : Bool := c.isDigit || ['-', '+', '.', 'e', 'E'].contains c

/-- A run of the characters that numbers are made of. -/
def IsToken (token : String) : Prop :=
  token.toList ≠ [] ∧ ∀ c ∈ token.toList, isNumberCharacter c = true

/-- The decimal text of an integer of 32 bits. -/
def InRange (token : String) : Prop :=
  ∃ k, IsDecimal token.toList k ∧ -2147483648 ≤ k ∧ k ≤ 2147483647

section

variable {token : String}

theorem inRange_iff : InRange token ↔ ∃ id : Int32, IsDecimal token.toList id.toInt := by
  constructor
  · rintro ⟨k, hk, hl, hu⟩
    refine ⟨Int32.ofInt k, ?_⟩
    rw [Int32.toInt_ofInt_of_le hl (by omega)]
    exact hk
  · rintro ⟨id, hid⟩
    have hl := id.le_toInt
    have hu := id.toInt_lt
    exact ⟨id.toInt, hid, by omega, by omega⟩

theorem isSpace_of_isNumberCharacter {c : Char} (h : isNumberCharacter c = true) :
    isSpace c = false ∧ c ≠ ']' ∧ c ≠ ',' := by
  rw [isNumberCharacter, Bool.or_eq_true, List.contains_iff_mem] at h
  rcases h with h | h
  · refine ⟨isSpace_of_startsNumber (by simp [startsNumber, h]), ?_, ?_⟩ <;> rintro rfl <;>
      exact absurd h (by decide)
  · simp only [List.mem_cons, List.not_mem_nil, or_false] at h
    rcases h with rfl | rfl | rfl | rfl | rfl <;> decide

theorem IsToken.begins (h : IsToken token) : Begins ']' [token] := by
  obtain ⟨c, tail, hl⟩ := List.exists_cons_of_ne_nil h.1
  obtain ⟨hs, hoff, -⟩ := isSpace_of_isNumberCharacter (h.2 c (by simp [hl]))
  exact ⟨token, [], c, tail, rfl, hl, hs, hoff⟩

/-- Behind its first character, the decimal text of an integer has digits only. -/
theorem isDigit_of_isDecimal {text : List Char} {c : Char} {k : Int} (h : IsDecimal (c :: text) k) :
    ∀ x ∈ text, x.isDigit = true := by
  cases h with
  | zero => simp
  | positive _ hd => exact fun x hx => hd x (.tail _ hx)
  | negative _ hd => exact hd

/-- A token that is not the decimal text of an identifier spoils a list: what is taken of it, if
anything, leaves a part of it. -/
theorem spoils_token (h : IsToken token) (hnot : ¬ InRange token) : Spoils [token] := by
  intro more cs hmore hcs id rest htake
  obtain ⟨c, tail, hl⟩ := List.exists_cons_of_ne_nil h.1
  have hc := (isSpace_of_isNumberCharacter (h.2 c (by simp [hl]))).1
  obtain ⟨text, hs, ht⟩ := Spells.skipSpace_cons hcs hl hc
  obtain ⟨c', tail', n, hs', -, hn, hk⟩ := takeId_eq_ok_iff.1 htake
  cases hs.symm.trans hs'
  obtain ⟨taken, htaken, he⟩ := exists_numberText hn
  have hid := (htaken.number_eq_integer_iff.1 hk).1
  have hne : taken ≠ token.toList := by
    rintro rfl
    exact hnot (inRange_iff.2 ⟨id, hid⟩)
  rw [← List.cons_append, ← hl, List.append_eq_append_iff] at he
  rcases he with ⟨beyond, htk, htext⟩ | ⟨left, htk, hrest⟩
  · -- What is taken goes beyond the token only with more digits, which are not there.
    cases beyond with
    | nil => exact absurd (by simpa using htk) hne
    | cons x beyond =>
      rw [htk, hl] at hid
      have hx := isDigit_of_isDecimal hid x (by simp)
      exact absurd hx (by simp [(hmore text ht x _ htext).1])
  · cases left with
    | nil => exact absurd (by simpa using htk.symm) hne
    | cons x left =>
      obtain ⟨hspace, hbracket, hcomma⟩ := isSpace_of_isNumberCharacter (h.2 x (by simp [htk]))
      have hskip : skipSpace rest = x :: (left ++ text) := by
        rw [hrest, List.cons_append]
        exact List.dropWhile_cons_of_neg (by simp [hspace])
      refine ⟨.atNext .expectedListComma (x :: (left ++ text)), ?_⟩
      rw [nextElement, hskip]
      simp [hbracket, hcomma]

end

/-! ## Lists of tokens -/

/-- The lexemes of a list of tokens. -/
def tokenLexemes (tokens : List String) : List String :=
  listLexemes (tokens.map fun token => [token])

section

variable {tokens : List String}

theorem begins_tokens (h : ∀ token ∈ tokens, IsToken token) :
    ∀ value ∈ tokens.map fun token => [token], Begins ']' value := by
  intro value hin
  obtain ⟨token, ht, rfl⟩ := List.mem_map.1 hin
  exact (h token ht).begins

/-- A list of decimal texts is taken as their values. -/
theorem exists_accepts_tokens (h : ∀ token ∈ tokens, IsToken token)
    (hin : ∀ token ∈ tokens, InRange token) :
    ∃ ids, Accepts takeIdList (tokenLexemes tokens) ids ∧
      List.Forall₂ (fun token id => IsDecimal token.toList id.toInt) tokens ids := by
  obtain ⟨ids, hids⟩ := exists_forall₂ fun token ht => inRange_iff.1 (hin token ht)
  refine ⟨ids, accepts_takeIdList (begins_tokens h) ?_, hids⟩
  rw [List.forall₂_map_left_iff]
  exact hids.imp fun token id => accepts_takeId

/-- A list of tokens is refused if one of them is no decimal text of 32 bits. -/
theorem refuses_tokens (h : ∀ token ∈ tokens, IsToken token)
    (hnot : ¬ ∀ token ∈ tokens, InRange token) : Refuses takeIdList (tokenLexemes tokens) := by
  refine refuses_takeIdList (begins_tokens h) (fun value hin => ?_) ?_
  · obtain ⟨token, ht, rfl⟩ := List.mem_map.1 hin
    by_cases hr : InRange token
    · obtain ⟨id, hid⟩ := inRange_iff.1 hr
      exact .inl ⟨id, accepts_takeId hid⟩
    · exact .inr (spoils_token (h token ht) hr)
  · simp only [not_forall] at hnot
    obtain ⟨token, ht, hr⟩ := hnot
    exact ⟨[token], List.mem_map.2 ⟨token, ht, rfl⟩, spoils_token (h token ht) hr⟩

end

/-! ## Documents with a list of tokens -/

section

variable {slot : Slot} {d : Dimension} {before after : List (Dimension × List Int32)}

theorem not_mem_of_holds (h : slot.Holds before d after)
    (hlast : ∀ m ∈ slot.after, ¬ Denotes m.1 d.name.toList) : d ∉ after.map Prod.fst := by
  rw [List.mem_map]
  rintro ⟨e, he, rfl⟩
  obtain ⟨m, hm, hlists⟩ := exists_mem_of_forall₂ h.after he
  exact hlast m hm hlists.1

/-- The values of a list of decimal texts are the identifiers that one of the texts is of. -/
theorem mem_values {tokens : List String} {ids : List Int32}
    (h : List.Forall₂ (fun token id => IsDecimal token.toList id.toInt) tokens ids) {id : Int32} :
    id ∈ ids ↔ ∃ token ∈ tokens, IsDecimal token.toList id.toInt := by
  refine ⟨exists_mem_of_forall₂ h, fun ⟨token, ht, hid⟩ => ?_⟩
  obtain ⟨id', hin, hid'⟩ := exists_mem_of_forall₂ h.flip ht
  rwa [Int32.toInt_inj.1 (hid.unique hid')]

/-- **Identifiers are read exactly or not at all.**  In the place of a list of identifiers in a
document that is otherwise in order, some tokens are read if and only if each of them is the decimal
text of an integer of 32 bits.  The entry of the dimension then has their values and nothing else,
if no later list takes its place, and nothing else in the filter changes; and if they are not read,
the document is reported as no filter. -/
theorem ofJson_tokens {ids : List Int32} {valid text : String} {f : Filter} {tokens : List String}
    (hslot : slot.IsOf d) (hvalid : Spells (slot.document (idLexemes ids)) valid.toList)
    (hf : ofJson valid = .ok f) (htokens : ∀ token ∈ tokens, IsToken token)
    (htext : Spells (slot.document (tokenLexemes tokens)) text.toList) :
    ((∃ g, ofJson text = .ok g) ↔ ∀ token ∈ tokens, InRange token) ∧
      ((∀ token ∈ tokens, InRange token) →
        (∀ m ∈ slot.after, ¬ Denotes m.1 d.name.toList) →
          ∃ s, ofJson text = .ok (f.setEntry d (some s)) ∧
            ∀ id, id ∈ s ↔ ∃ token ∈ tokens, IsDecimal token.toList id.toInt) ∧
      ((¬ ∀ token ∈ tokens, InRange token) → ∃ fault, ofJson text = .error fault ∧
        ∀ q, filtered q (some text) = .error (.invalidFilter text fault)) := by
  obtain ⟨before, after, hholds⟩ := hslot.exists_holds hvalid hf
  have hrefused (hnot : ¬ ∀ token ∈ tokens, InRange token) :
      ∃ fault, ofJson text = .error fault :=
    hholds.ofJson_of_refuses (refuses_tokens htokens hnot) htext
  refine ⟨⟨fun ⟨g, hg⟩ => by_contra fun hnot => ?_, fun hin => ?_⟩, fun hin hlast => ?_,
    fun hnot => ?_⟩
  · obtain ⟨fault, hfault⟩ := hrefused hnot
    cases hg.symm.trans hfault
  · obtain ⟨ids', hids, -⟩ := exists_accepts_tokens htokens hin
    exact ⟨_, hholds.ofJson_of_accepts hids htext⟩
  · obtain ⟨ids', hids, hvalues⟩ := exists_accepts_tokens htokens hin
    have hf' := hholds.ofJson_of_accepts (accepts_idLexemes ids) hvalid
    have hlast := @setEntries_last empty d ids before after (not_mem_of_holds hholds hlast) ids'
    refine ⟨.ofList ids', ?_, fun id => ?_⟩
    · cases hf.symm.trans hf'
      rw [hholds.ofJson_of_accepts hids htext, hlast]
    · rw [IdSet.mem_ofList, mem_values hvalues]
  · obtain ⟨fault, hfault⟩ := hrefused hnot
    refine ⟨fault, hfault, fun q => ?_⟩
    simp only [filtered, hfault]

end

/-- The place of the list of sites behind a list of partners. -/
def siteSlot : Slot where
  envelope := .object [] (quote memberName) []
  before := entryMembers [(.partner, [7])]
  key := quote Dimension.site.name
  after := []

theorem isOf_siteSlot : siteSlot.IsOf .site where
  envelope := .object (fun _ h => nomatch h) (denotes_quote memberName) fun _ h => nomatch h
  before := wellFormed_cons.2 ⟨⟨(denotes_quote _).isString, isValue_idLexemes [7]⟩,
    fun _ h => nomatch h⟩
  key := denotes_quote _
  after := fun _ h => nomatch h

theorem inRange_least : InRange "-2147483648" := by
  refine ⟨-2147483648, ?_, by decide, by decide⟩
  have hl : "-2147483648".toList = ['-', '2', '1', '4', '7', '4', '8', '3', '6', '4', '8'] := by
    decide
  rw [hl]
  exact .negative (by decide) (List.all_eq_true.1 rfl)

theorem inRange_greatest : InRange "2147483647" := by
  refine ⟨2147483647, ?_, by decide, by decide⟩
  have hl : "2147483647".toList = ['2', '1', '4', '7', '4', '8', '3', '6', '4', '7'] := by decide
  rw [hl]
  exact .positive (by decide) (List.all_eq_true.1 rfl)

/-- The least and the greatest identifier are read. -/
theorem ofJson_tokens_bounds :
    let tokens := ["-2147483648", "2147483647"]
    let text := "\x7b\"restrictions\":\x7b\"Partner\":[7]," ++
      "\"Site\":[-2147483648,2147483647]\x7d\x7d"
    (∀ token ∈ tokens, IsToken token) ∧ (∀ token ∈ tokens, InRange token) ∧
      Spells (siteSlot.document (tokenLexemes tokens)) text.toList ∧
      ∃ s, ofJson text =
          .ok ((empty.setEntries [(.partner, [7]), (.site, [1])]).setEntry .site (some s)) ∧
        ∀ id, id ∈ s ↔ ∃ token ∈ tokens, IsDecimal token.toList id.toInt := by
  intro tokens text
  have htokens : ∀ token ∈ tokens, IsToken token := by
    intro token hin
    rcases List.mem_pair.1 hin with rfl | rfl <;>
      exact ⟨by decide, List.all_eq_true.1 (by decide)⟩
  have hin : ∀ token ∈ tokens, InRange token := by
    intro token hin
    rcases List.mem_pair.1 hin with rfl | rfl
    · exact inRange_least
    · exact inRange_greatest
  have htext : Spells (siteSlot.document (tokenLexemes tokens)) text.toList := by
    have ht : text.toList = compact (siteSlot.document (tokenLexemes tokens)) := by decide
    exact ht ▸ spells_compact _
  have hvalid : Spells (documentLexemes [(.partner, [7]), (.site, [1])])
      (String.ofList (compact (documentLexemes [(.partner, [7]), (.site, [1])]))).toList := by
    rw [String.toList_ofList]
    exact spells_compact _
  have h := ofJson_tokens isOf_siteSlot hvalid (ofJson_documentLexemes hvalid) htokens htext
  exact ⟨htokens, hin, htext, h.2.1 hin fun _ h => nomatch h⟩

/-- An integer that does not fit is not wrapped around. -/
example : ofJson "\x7b\"restrictions\":\x7b\"Site\":[4294967297]\x7d\x7d" =
    .error ⟨.wrongValue (.integer 4294967297) "i32", 3⟩ := by decide +kernel

end Filter
end ReportQuery
