/-
# The elements of a list of scalars

A text that holds a list of scalars is a list of just these scalars, however it is
read: no other values make up the same text (`ListText.unique`).  Two scalars that
stand where one text begins are the same one, since a scalar is passed over up to its
end, and behind it come a comma or the end of the list.

The compact text of a value has no control character (`IsValue.noControl`), whatever
the strings in it stand for: so it is a single line.
-/

import ReportQuery.Proofs.Json.Value

namespace ReportQuery
namespace Json

/-! ## Elements -/

/-- A text that is a list of some values, written with any spaces. -/
def ListText (text : String) (values : List (List String)) : Prop :=
  (∀ value ∈ values, IsValue value) ∧ Spells (listLexemes values) text.toList

/-- A scalar and a value where one text begins: the value is the scalar, and the same text is left
behind them. -/
theorem IsScalar.eq_of_spells {l : String} (h : IsScalar l) {value more more' : List String}
    (hv : IsValue value) (hm : Closing more) (hm' : Closing more') {cs : List Char}
    (hcs : Spells (l :: more) cs) (hcs' : Spells (value ++ more') cs) :
    value = [l] ∧ ∃ text, Spells more text ∧ Spells more' text := by
  obtain ⟨c, tail, hl, hc, hlist, -, hobject⟩ := h.exists_cons
  obtain ⟨text, hs, ht⟩ := hcs.skipSpace_cons hl hc
  cases hv with
  | @scalar l' h' =>
    obtain ⟨c', tail', hl', hc', -⟩ := h'.exists_cons
    obtain ⟨text', hs', ht'⟩ := Spells.skipSpace_cons hcs' hl' hc'
    obtain ⟨rfl, he⟩ := List.cons.inj (hs.symm.trans hs')
    -- Both are passed over from the same place, so what they leave is the same too.
    have hskip := h.skipScalar hl (hm text ht)
    rw [he, h'.skipScalar hl' (hm' text' ht')] at hskip
    obtain rfl := Except.ok.inj hskip
    obtain rfl := List.append_cancel_right he
    obtain rfl := String.toList_inj.1 (hl.trans hl'.symm)
    exact ⟨rfl, text', ht, ht'⟩
  | list =>
    obtain ⟨_, hs', -⟩ := Spells.skipSpace_punctuation hcs' (c := '[') rfl rfl
    exact absurd (List.cons.inj (hs.symm.trans hs')).1 hlist
  | object =>
    obtain ⟨_, hs', -⟩ := Spells.skipSpace_punctuation hcs' (c := '\x7b') rfl rfl
    exact absurd (List.cons.inj (hs.symm.trans hs')).1 hobject

theorem closing_separated_list (values : List (List String)) :
    Closing (separated false values ++ ["]"]) :=
  closing_separated .list rfl values []

/-- A list that goes on is left from its next value on. -/
theorem nextElement_separated {first : Bool} {value : List String} (hv : IsValue value)
    {values : List (List String)} {cs : List Char}
    (h : Spells (separated first (value :: values) ++ ["]"]) cs) :
    ∃ text, nextElement first cs = .ok (.more text) ∧
      Spells (value ++ (separated false values ++ ["]"])) text :=
  hv.begins.nextElement (by simpa [separated] using h)

/-- A list that goes on does not end at the same place. -/
theorem not_spells_done {first : Bool} {value : List String} (hv : IsValue value)
    {values : List (List String)} {cs : List Char} (hdone : Spells ["]"] cs) :
    ¬ Spells (separated first (value :: values) ++ ["]"]) cs := by
  intro hmore
  obtain ⟨_, he, -⟩ := hdone.nextElement_done first
  obtain ⟨_, he', -⟩ := nextElement_separated hv hmore
  cases he.symm.trans he'

theorem eq_of_spells_separated {scalars : List String} (hs : ∀ l ∈ scalars, IsScalar l)
    {values : List (List String)} (hv : ∀ value ∈ values, IsValue value) {first : Bool}
    {cs : List Char} (h : Spells (separated first (scalars.map ([·])) ++ ["]"]) cs)
    (h' : Spells (separated first values ++ ["]"]) cs) : values = scalars.map ([·]) := by
  induction scalars generalizing values first cs with
  | nil =>
    cases values with
    | nil => rfl
    | cons value values => exact absurd h' (not_spells_done (hv value List.mem_cons_self) h)
  | cons l scalars ih =>
    have hl : IsScalar l := hs l List.mem_cons_self
    cases values with
    | nil => exact absurd h (not_spells_done (.scalar hl) h')
    | cons value values =>
      have hvalue : IsValue value := hv value List.mem_cons_self
      obtain ⟨text, he, ht⟩ := nextElement_separated (.scalar hl) h
      obtain ⟨text', he', ht'⟩ := nextElement_separated hvalue h'
      cases he.symm.trans he'
      obtain ⟨rfl, rest, hr, hr'⟩ := hl.eq_of_spells hvalue (closing_separated_list _)
        (closing_separated_list _) ht ht'
      rw [ih (fun l h => hs l (.tail _ h)) (fun v h => hv v (.tail _ h)) hr hr', List.map_cons]

/-- **A list of scalars has no other elements than these**, as whatever values it is read. -/
theorem ListText.unique {text : String} {scalars : List String} (hs : ∀ l ∈ scalars, IsScalar l)
    (h : ListText text (scalars.map ([·]))) {values : List (List String)}
    (h' : ListText text values) : values = scalars.map ([·]) := by
  obtain ⟨cs, hcs, ht⟩ := h.2.skipSpace_punctuation (c := '[') rfl rfl
  obtain ⟨cs', hcs', ht'⟩ := h'.2.skipSpace_punctuation (c := '[') rfl rfl
  obtain ⟨-, rfl⟩ := List.cons.inj (hcs.symm.trans hcs')
  exact eq_of_spells_separated hs h'.1 ht ht'

/-- A text without control characters. -/
def NoControl (text : List Char) : Prop := ∀ c ∈ text, isControl c = false

theorem noControl_nil : NoControl [] := fun _ h => absurd h List.not_mem_nil

theorem noControl_cons {c : Char} (hc : isControl c = false) {cs : List Char} (h : NoControl cs) :
    NoControl (c :: cs) :=
  List.forall_mem_cons.2 ⟨hc, h⟩

theorem NoControl.append {cs cs' : List Char} (h : NoControl cs) (h' : NoControl cs') :
    NoControl (cs ++ cs') :=
  List.forall_mem_append.2 ⟨h, h'⟩

/-- Of a text that is given this is seen by looking at each character. -/
theorem noControl_of_all {text : List Char} (h : (text.all fun c => !isControl c) = true) :
    NoControl text :=
  fun c hc => by simpa using List.all_eq_true.1 h c hc

theorem isControl_of_le {c d : Char} (hd : isControl d = false) (h : d ≤ c) :
    isControl c = false := by
  have hle : d.toNat ≤ c.toNat := h
  simp only [isControl, decide_eq_false_iff_not] at hd ⊢
  omega

theorem isControl_of_isDigit {c : Char} (h : c.isDigit = true) : isControl c = false := by
  simp only [Char.isDigit, Bool.and_eq_true, decide_eq_true_eq] at h
  exact isControl_of_le (d := '0') rfl h.1

theorem isControl_of_isHexDigit {c : Char} (h : isHexDigit c = true) : isControl c = false := by
  simp only [isHexDigit, Bool.or_eq_true, Bool.and_eq_true, decide_eq_true_eq] at h
  rcases h with (h | h) | h
  · exact isControl_of_le (d := '0') rfl h.1
  · exact isControl_of_le (d := 'a') rfl h.1
  · exact isControl_of_le (d := 'A') rfl h.1

theorem StringText.noControl {text : List Char} (h : StringText text) : NoControl text := by
  induction h with
  | nil => exact noControl_nil
  | plain _ _ hc _ ih => exact noControl_cons (Bool.eq_false_iff.2 hc) ih
  | @escape c _ hc _ ih =>
    have hescapes : NoControl (escapes.map Prod.fst) := noControl_of_all rfl
    exact noControl_cons rfl (noControl_cons (hescapes c hc) ih)
  | unicode hx _ ih =>
    have hdigits : NoControl [_, _, _, _] := fun x h => isControl_of_isHexDigit (hx x h)
    exact noControl_cons rfl (noControl_cons rfl (hdigits.append ih))

theorem Digits.noControl {ds : List Char} (h : Digits ds) : NoControl ds :=
  fun c hc => isControl_of_isDigit (h.2 c hc)

theorem FractionText.noControl {text ds : List Char} (h : FractionText text ds) :
    NoControl text := by
  cases h with
  | none => exact noControl_nil
  | some h => exact noControl_cons rfl h.noControl

theorem ExponentText.noControl {text : List Char} {exponent : Option (Bool × List Char)}
    (h : ExponentText text exponent) : NoControl text := by
  have hmark {mark : Char} (hm : mark = 'e' ∨ mark = 'E') : isControl mark = false := by
    rcases hm with rfl | rfl <;> rfl
  cases h with
  | none => exact noControl_nil
  | bare hm h => exact noControl_cons (hmark hm) h.noControl
  | plus hm h => exact noControl_cons (hmark hm) (noControl_cons rfl h.noControl)
  | minus hm h => exact noControl_cons (hmark hm) (noControl_cons rfl h.noControl)

theorem UnsignedText.noControl {text : List Char} {n : Numeral} (h : UnsignedText text n) :
    NoControl text := by
  obtain ⟨_, _, rfl, hw, hf, he⟩ := h
  exact hw.1.noControl.append (hf.noControl.append he.noControl)

theorem NumberText.noControl {text : List Char} {n : Numeral} (h : NumberText text n) :
    NoControl text := by
  cases h with
  | positive _ h => exact h.noControl
  | negative _ h => exact noControl_cons rfl h.noControl

theorem IsString.noControl {l : String} (h : IsString l) : NoControl l.toList := by
  obtain ⟨text, ht, hl⟩ := h
  rw [hl]
  exact noControl_cons rfl (ht.noControl.append (noControl_of_all rfl))

theorem IsScalar.noControl {l : String} (h : IsScalar l) : NoControl l.toList := by
  cases h with
  | word h =>
    have hwords : ∀ l ∈ ["null", "true", "false"], (l.toList.all fun c => !isControl c) = true := by
      decide
    exact noControl_of_all (hwords l h)
  | number h => exact h.noControl
  | string h => exact h.noControl

theorem NoControl.append_compact {lexemes lexemes' : List String} (h : NoControl (compact lexemes))
    (h' : NoControl (compact lexemes')) : NoControl (compact (lexemes ++ lexemes')) := by
  rw [compact_append]
  exact h.append h'

theorem noControl_separated (first : Bool) {values : List (List String)}
    (h : ∀ value ∈ values, NoControl (compact value)) :
    NoControl (compact (separated first values)) := by
  have hlead (first : Bool) : NoControl (compact (lead first)) := by
    cases first
    · exact noControl_of_all rfl
    · exact noControl_nil
  induction values generalizing first with
  | nil => exact noControl_nil
  | cons value values ih =>
    have hvalue := h value List.mem_cons_self
    exact ((hlead first).append_compact hvalue).append_compact
      (ih false fun v hv => h v (.tail _ hv))

/-- **A value is written without control characters.** -/
theorem IsValue.noControl {value : List String} (h : IsValue value) :
    NoControl (compact value) := by
  induction h with
  | scalar h => simpa using h.noControl
  | list _ ih =>
    have hclose : NoControl (compact ["]"]) := noControl_of_all rfl
    exact noControl_cons rfl ((noControl_separated true ih).append_compact hclose)
  | @object members hk _ ih =>
    have hmembers : ∀ item ∈ members.map keyed, NoControl (compact item) := by
      intro item hin
      obtain ⟨m, hm, rfl⟩ := List.mem_map.1 hin
      exact (hk m hm).noControl.append (noControl_cons rfl (ih m hm))
    have hclose : NoControl (compact ["\x7d"]) := noControl_of_all rfl
    exact noControl_cons rfl ((noControl_separated true hmembers).append_compact hclose)

end Json
end ReportQuery
