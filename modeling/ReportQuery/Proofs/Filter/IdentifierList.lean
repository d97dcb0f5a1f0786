/-
# What the readers of identifiers take

Of all the values of JSON, a reader of an identifier takes the decimal texts of the
integers of 32 bits (`takeId_of_isValue`), and a reader of a list takes the lists of such
texts (`takeIdList_of_isValue`).

| value | what is done with it |
| --- | --- |
| `17`, `-3`, `0` | taken |
| `2147483648`, `1.0`, `1e3`, `-0` | read to its end and refused |
| any other value | refused at its first character |
| `007`, `+1`, `1-2` | no value: refused where the number ends or should begin |

A list is refused at the first element that is, or behind the first one that goes on
where the number ends (`Spoils`).
-/

import ReportQuery.Proofs.Json.Reader

namespace ReportQuery
namespace Filter

open Json

/-! ## Identifiers -/

theorem exists_fault {α : Type} {x : Except Fault α} (h : ∀ a, x ≠ .ok a) :
    ∃ fault, x = .error fault := by
  cases x with
  | error fault => exact ⟨fault, rfl⟩
  | ok a => exact absurd rfl (h a)

section

variable {cs rest : List Char}

/-- An identifier is taken where a number begins that is an integer of 32 bits. -/
theorem takeId_eq_ok_iff {id : Int32} : takeId cs = .ok (id, rest) ↔
    ∃ c tail n, skipSpace cs = c :: tail ∧ startsNumber c = true ∧
      takeSignedNumeral .endInValue (c :: tail) = .ok (n, rest) ∧
      n.number rest = .ok (.integer id.toInt) := by
  constructor
  · intro h
    rw [takeId] at h
    split at h
    · cases h
    next c tail hs =>
    split at h
    · next hc =>
      split at h
      · cases h
      next n rest' hn =>
      split at h
      · cases h
      · cases h
      next k hk =>
      split at h
      · next hin =>
        cases h
        have hid : (Int32.ofInt k).toInt = k := Int32.toInt_ofInt_of_le hin.1 (by omega)
        exact ⟨c, tail, n, hs, hc, hn, by rw [hid]; exact hk⟩
      · cases h
    · cases h
  · rintro ⟨c, tail, n, hs, hc, hn, hk⟩
    have hl := id.le_toInt
    have hu := id.toInt_lt
    rw [takeId, hs]
    simp only [hc, if_true, hn, hk]
    rw [if_pos (by omega), Int32.ofInt_toInt]

end

section

variable {l : String} {id : Int32}

/-- The decimal text of an identifier is taken as the identifier. -/
theorem accepts_takeId (h : IsDecimal l.toList id.toInt) : Accepts takeId [l] id := by
  intro more cs hmore hcs
  obtain ⟨n, hn, -⟩ := isDecimal_iff.1 h
  obtain ⟨c, tail, hl, hc⟩ := hn.exists_cons
  obtain ⟨text, hs, ht⟩ := Spells.skipSpace_cons hcs hl (isSpace_of_startsNumber hc)
  have htake := hn.takeSignedNumeral .endInValue (hmore text ht)
  have hge := id.le_toInt
  have hlt := id.toInt_lt
  have hleast : Int64.minValue.toInt = -9223372036854775808 := by decide
  have hsize : (UInt64.size : Int) = 18446744073709551616 := rfl
  have hk : n.number text = .ok (.integer id.toInt) :=
    hn.number_eq_integer_iff.2 ⟨h, by omega, by omega⟩
  rw [hl, List.cons_append] at htake
  exact ⟨text, takeId_eq_ok_iff.2 ⟨c, _, n, hs, hc, htake, hk⟩, ht⟩

/-- A number that is not the decimal text of an identifier is refused. -/
theorem refuses_takeId {n : Numeral} (hn : NumberText l.toList n)
    (h : ∀ id : Int32, ¬ IsDecimal l.toList id.toInt) : Refuses takeId [l] := by
  intro more cs hmore hcs
  obtain ⟨c, tail, hl, hc⟩ := hn.exists_cons
  obtain ⟨text, hs, ht⟩ := Spells.skipSpace_cons hcs hl (isSpace_of_startsNumber hc)
  have htake := hn.takeSignedNumeral .endInValue (hmore text ht)
  rw [hl, List.cons_append] at htake
  refine exists_fault fun a ha => ?_
  obtain ⟨c', tail', n', hs', -, htake', hk⟩ := takeId_eq_ok_iff.1 ha
  cases hs.symm.trans hs'
  cases htake.symm.trans htake'
  exact h _ (hn.number_eq_integer_iff.1 hk).1

/-- A value that is no number is refused at its first character. -/
theorem refuses_takeId_of_not_number {more : List String} {c : Char} {tail : List Char}
    (hl : l.toList = c :: tail) (hc : isSpace c = false) (hn : startsNumber c = false) :
    Refuses takeId (l :: more) := by
  intro more' cs _ hcs
  obtain ⟨text, hs, -⟩ := Spells.skipSpace_cons hcs hl hc
  refine ⟨wrongType "i32" (c :: (tail ++ text)), ?_⟩
  rw [takeId, hs]
  simp only [hn, Bool.false_eq_true, if_false]

theorem takeId_of_isValue {value : List String} (h : IsValue value) :
    (∃ id, Accepts takeId value id) ∨ Refuses takeId value := by
  cases h with
  | @scalar l h =>
    cases h with
    | word h =>
      refine .inr ?_
      rcases List.mem_cons.1 h with rfl | h
      · exact refuses_takeId_of_not_number (c := 'n') rfl rfl rfl
      rcases List.mem_pair.1 h with rfl | rfl
      · exact refuses_takeId_of_not_number (c := 't') rfl rfl rfl
      · exact refuses_takeId_of_not_number (c := 'f') rfl rfl rfl
    | number hn =>
      by_cases hid : ∃ id : Int32, IsDecimal l.toList id.toInt
      · obtain ⟨id, hid⟩ := hid
        exact .inl ⟨id, accepts_takeId hid⟩
      · exact .inr (refuses_takeId hn fun id h => hid ⟨id, h⟩)
    | string h =>
      obtain ⟨tail, hl⟩ := h.exists_cons
      exact .inr (refuses_takeId_of_not_number hl rfl rfl)
  | list => exact .inr (refuses_takeId_of_not_number (c := '[') rfl rfl rfl)
  | object => exact .inr (refuses_takeId_of_not_number (c := '\x7b') rfl rfl rfl)

end

/-! ## What one step of a reader does -/

section

variable {first : Bool} {cs rest : List Char}

theorem takeIds_of_done (h : nextElement first cs = .ok (.done rest)) :
    takeIds first cs = .ok ([], rest) := by
  rw [takeIds]
  split
  · next hn => cases h.symm.trans hn
  · next hn =>
    cases h.symm.trans hn
    rfl
  · next hn => cases h.symm.trans hn

theorem takeIds_of_fault {fault : Fault} (h : nextElement first cs = .error fault) :
    takeIds first cs = .error fault := by
  rw [takeIds]
  split
  · next hn =>
    cases h.symm.trans hn
    rfl
  · next hn => cases h.symm.trans hn
  · next hn => cases h.symm.trans hn

theorem takeIds_of_more (h : nextElement first cs = .ok (.more rest)) :
    takeIds first cs = takeId rest >>= fun i =>
      (takeIds false i.2).map fun p => (i.1 :: p.1, p.2) := by
  rw [takeIds]
  split
  · next hn => cases h.symm.trans hn
  · next hn => cases h.symm.trans hn
  · next hn =>
    cases h.symm.trans hn
    split <;> next hi => simp only [bind, Except.bind, hi]

end

/-! ## Lists of identifiers -/

/-- A value that no list of identifiers holds: it is refused, or else what it leaves is. -/
def Spoils (value : List String) : Prop :=
  ∀ more cs, Closing more → Spells (value ++ more) cs → ∀ id rest, takeId cs = .ok (id, rest) →
    ∃ fault, nextElement false rest = .error fault

theorem spoils_of_refuses {value : List String} (h : Refuses takeId value) : Spoils value := by
  intro more cs hmore hcs id rest hi
  obtain ⟨fault, hf⟩ := h more cs hmore hcs
  cases hf.symm.trans hi

section

variable {values : List (List String)} {ids : List Int32}

theorem accepts_takeIds (hb : ∀ value ∈ values, Begins ']' value)
    (h : List.Forall₂ (Accepts takeId) values ids) (first : Bool) :
    Accepts (takeIds first) (separated first values ++ ["]"]) ids := by
  intro more cs hmore hcs
  induction h generalizing first cs with
  | nil =>
    obtain ⟨text, hn, ht⟩ := Spells.nextElement_done hcs first
    exact ⟨text, takeIds_of_done hn, ht⟩
  | @cons value id values ids hi _ ih =>
    have hcs : Spells (lead first ++ (value ++ (separated false values ++ "]" :: more))) cs := by
      simpa [separated] using hcs
    obtain ⟨text, hn, ht⟩ := (hb value List.mem_cons_self).nextElement hcs
    obtain ⟨text₁, hi, ht₁⟩ := hi _ text (@closing_separated .list "]" rfl values more) ht
    obtain ⟨text₂, hr, ht₂⟩ := ih (fun v hv => hb v (.tail _ hv)) false text₁ (by simpa using ht₁)
    refine ⟨text₂, ?_, ht₂⟩
    rw [takeIds_of_more hn, hi]
    simp only [bind, Except.bind, hr]
    rfl

/-- A list is refused at the first value that spoils it. -/
theorem refuses_takeIds (hb : ∀ value ∈ values, Begins ']' value)
    (h : ∀ value ∈ values, (∃ id, Accepts takeId value id) ∨ Spoils value)
    (hs : ∃ value ∈ values, Spoils value) (first : Bool) :
    Refuses (takeIds first) (separated first values ++ ["]"]) := by
  intro more cs hmore hcs
  induction values generalizing first cs with
  | nil => simp at hs
  | cons value values ih =>
    have hcs : Spells (lead first ++ (value ++ (separated false values ++ "]" :: more))) cs := by
      simpa [separated] using hcs
    have hclosing := @closing_separated .list "]" rfl values more
    obtain ⟨text, hn, ht⟩ := (hb value List.mem_cons_self).nextElement hcs
    by_cases hspoils : Spoils value
    · rw [takeIds_of_more hn]
      cases hi : takeId text with
      | error fault => exact ⟨fault, rfl⟩
      | ok i =>
        obtain ⟨fault, hf⟩ := hspoils _ text hclosing ht i.1 i.2 hi
        refine ⟨fault, ?_⟩
        simp only [bind, Except.bind, takeIds_of_fault hf]
        rfl
    · obtain ⟨id, hid⟩ := (h value List.mem_cons_self).resolve_right hspoils
      obtain ⟨text₁, hi, ht₁⟩ := hid _ text hclosing ht
      have hrest : ∃ v ∈ values, Spoils v := by
        obtain ⟨v, hv, hv'⟩ := hs
        exact ⟨v, (List.mem_cons.1 hv).resolve_left (by rintro rfl; exact hspoils hv'), hv'⟩
      obtain ⟨fault, hf⟩ := ih (fun v hv => hb v (.tail _ hv)) (fun v hv => h v (.tail _ hv)) hrest
        false text₁ (by simpa using ht₁)
      refine ⟨fault, ?_⟩
      rw [takeIds_of_more hn, hi]
      simp only [bind, Except.bind, hf]
      rfl

theorem accepts_takeIdList (hb : ∀ value ∈ values, Begins ']' value)
    (h : List.Forall₂ (Accepts takeId) values ids) :
    Accepts takeIdList (listLexemes values) ids := by
  intro more cs hmore hcs
  obtain ⟨text, hs, ht⟩ := Spells.skipSpace_punctuation (c := '[') hcs rfl rfl
  rw [takeIdList, hs]
  exact accepts_takeIds hb h true more text hmore ht

theorem refuses_takeIdList (hb : ∀ value ∈ values, Begins ']' value)
    (h : ∀ value ∈ values, (∃ id, Accepts takeId value id) ∨ Spoils value)
    (hs : ∃ value ∈ values, Spoils value) : Refuses takeIdList (listLexemes values) := by
  intro more cs hmore hcs
  obtain ⟨text, hs', ht⟩ := Spells.skipSpace_punctuation (c := '[') hcs rfl rfl
  rw [takeIdList, hs']
  exact refuses_takeIds hb h hs true more text hmore ht

theorem refuses_takeIdList_of_ne {l : String} {more : List String} {c : Char} {tail : List Char}
    (hl : l.toList = c :: tail) (hc : isSpace c = false) (hne : c ≠ '[') :
    Refuses takeIdList (l :: more) := by
  intro more' cs _ hcs
  obtain ⟨text, hs, -⟩ := Spells.skipSpace_cons hcs hl hc
  refine ⟨wrongType "a sequence" (c :: (tail ++ text)), ?_⟩
  rw [takeIdList, hs]
  split
  · next h => exact absurd (List.cons.inj h).1 hne
  · rfl

theorem exists_forall₂ {α β : Type} {R : α → β → Prop} {xs : List α} (h : ∀ x ∈ xs, ∃ y, R x y) :
    ∃ ys, List.Forall₂ R xs ys := by
  induction xs with
  | nil => exact ⟨[], .nil⟩
  | cons x xs ih =>
    obtain ⟨y, hy⟩ := h x List.mem_cons_self
    obtain ⟨ys, hys⟩ := ih fun x hx => h x (.tail _ hx)
    exact ⟨y :: ys, .cons hy hys⟩

theorem exists_mem_of_forall₂ {α β : Type} {R : α → β → Prop} {xs : List α} {ys : List β}
    (h : List.Forall₂ R xs ys) {y : β} (hy : y ∈ ys) : ∃ x ∈ xs, R x y := by
  induction h with
  | nil => cases hy
  | cons hxy _ ih =>
    rcases List.mem_cons.1 hy with rfl | hy
    · exact ⟨_, List.mem_cons_self, hxy⟩
    · obtain ⟨x, hx, hxy⟩ := ih hy
      exact ⟨x, .tail _ hx, hxy⟩

/-- **A list of identifiers is taken, and any other value is refused.** -/
theorem takeIdList_of_isValue {value : List String} (h : IsValue value) :
    (∃ ids, Accepts takeIdList value ids) ∨ Refuses takeIdList value := by
  cases h with
  | scalar h =>
    obtain ⟨c, tail, hl, hc, hne, -⟩ := h.exists_cons
    exact .inr (refuses_takeIdList_of_ne hl hc hne)
  | object => exact .inr (refuses_takeIdList_of_ne (c := '\x7b') rfl rfl (by decide))
  | @list values hv =>
    have hb : ∀ value ∈ values, Begins ']' value := fun value hin => (hv value hin).begins
    by_cases hall : ∀ value ∈ values, ∃ id, Accepts takeId value id
    · obtain ⟨ids, hids⟩ := exists_forall₂ hall
      exact .inl ⟨ids, accepts_takeIdList hb hids⟩
    · have heach : ∀ value ∈ values, (∃ id, Accepts takeId value id) ∨ Spoils value :=
        fun value hin => (takeId_of_isValue (hv value hin)).imp_right spoils_of_refuses
      simp only [not_forall] at hall
      obtain ⟨value, hin, hnot⟩ := hall
      exact .inr (refuses_takeIdList hb heach ⟨value, hin, (heach value hin).resolve_left hnot⟩)

end

end Filter
end ReportQuery
