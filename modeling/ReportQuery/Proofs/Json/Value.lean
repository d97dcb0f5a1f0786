/-
# The values of JSON

Which lexemes make up a value: a scalar, or the lexemes of the values of a list or an
object, which may be nested to any depth (`IsValue`).  The keys of an object are
strings, of which nothing else is asked.

A value that is not wanted is passed over inside any open frames (`IsValue.passes`):
exactly its lexemes are used up, and what is left is a text of the lexemes behind it.

| place | lexemes | place |
| --- | --- | --- |
| before a value | the value | behind it |
| before a member | a key, a colon and a value | behind it |
| behind a value of a frame | the other values and the end of the frame | behind the frame |

A number has no end of its own, so what comes behind a value may not go on with one
(`Closing`).
-/

import ReportQuery.Proofs.Json.Spelling

namespace ReportQuery
namespace Json

/-! ## The grammar -/

/-- The lexeme of a value that opens no frame. -/
inductive IsScalar : String → Prop
  | word {l : String} (h : l ∈ ["null", "true", "false"]) : IsScalar l
  | number {l : String} {n : Numeral} (h : NumberText l.toList n) : IsScalar l
  | string {l : String} (h : IsString l) : IsScalar l

theorem isScalar_decimal (n : Int) : IsScalar (toString n) := .number (numberText_decimal n)

/-- The lexemes of a member, from its key and the lexemes of its value. -/
def keyed (m : String × List String) : List String := m.1 :: ":" :: m.2

/-- The lexemes of a value. -/
inductive IsValue : List String → Prop
  | scalar {l : String} (h : IsScalar l) : IsValue [l]
  | list {values : List (List String)} (h : ∀ value ∈ values, IsValue value) :
    IsValue (listLexemes values)
  | object {members : List (String × List String)} (hk : ∀ m ∈ members, IsString m.1)
    (hv : ∀ m ∈ members, IsValue m.2) : IsValue (objectLexemes (members.map keyed))

/-- Members whose keys are strings, with values. -/
def WellFormed (members : List (String × List String)) : Prop :=
  ∀ m ∈ members, IsString m.1 ∧ IsValue m.2

theorem wellFormed_cons {m : String × List String} {members : List (String × List String)} :
    WellFormed (m :: members) ↔ (IsString m.1 ∧ IsValue m.2) ∧ WellFormed members :=
  List.forall_mem_cons

/-- Lexemes that no number can go on with. -/
def Closing (lexemes : List String) : Prop := ∀ text, Spells lexemes text → EndsNumber text

theorem closing_nil : Closing [] := by
  intro text h
  cases h with
  | done => exact fun _ _ h => nomatch h
  | space hc => exact endsNumber_of_isSpace hc _

theorem closing_cons {l : String} {c : Char} {tail : List Char} (hl : l.toList = c :: tail)
    (hc : c.isDigit = false ∧ c ≠ '.' ∧ c ≠ 'e' ∧ c ≠ 'E') (lexemes : List String) :
    Closing (l :: lexemes) :=
  fun _ h => h.endsNumber hl hc

/-! ## How a value begins -/

/-- Lexemes that begin with a character, which is neither a space nor the one that is kept off. -/
def Begins (off : Char) (lexemes : List String) : Prop :=
  ∃ l more c tail, lexemes = l :: more ∧ l.toList = c :: tail ∧ isSpace c = false ∧ c ≠ off

theorem IsString.exists_cons {l : String} (h : IsString l) : ∃ tail, l.toList = '"' :: tail :=
  let ⟨_, _, hl⟩ := h
  ⟨_, hl⟩

/-- A scalar begins with a character that is neither a space nor a bracket or a brace. -/
theorem IsScalar.exists_cons {l : String} (h : IsScalar l) :
    ∃ c tail, l.toList = c :: tail ∧ isSpace c = false ∧ c ≠ '[' ∧ c ≠ ']' ∧ c ≠ '\x7b' := by
  cases h with
  | word h =>
    rcases List.mem_cons.1 h with rfl | h
    · exact ⟨'n', _, rfl, rfl, by decide⟩
    rcases List.mem_pair.1 h with rfl | rfl
    · exact ⟨'t', _, rfl, rfl, by decide⟩
    · exact ⟨'f', _, rfl, rfl, by decide⟩
  | number h =>
    obtain ⟨c, tail, hl, hc⟩ := h.exists_cons
    refine ⟨c, tail, hl, isSpace_of_startsNumber hc, ?_, ?_, ?_⟩ <;> rintro rfl <;>
      exact absurd hc (by decide)
  | string h =>
    obtain ⟨tail, hl⟩ := h.exists_cons
    exact ⟨'"', tail, hl, rfl, by decide⟩

theorem IsValue.begins {value : List String} (h : IsValue value) : Begins ']' value := by
  cases h with
  | @scalar l h =>
    obtain ⟨c, tail, hl, hc, -, hoff, -⟩ := h.exists_cons
    exact ⟨l, [], c, tail, rfl, hl, hc, hoff⟩
  | list => exact ⟨_, _, '[', _, rfl, rfl, rfl, by decide⟩
  | object => exact ⟨_, _, '\x7b', _, rfl, rfl, rfl, by decide⟩

theorem begins_keyed {m : String × List String} (h : IsString m.1) : Begins '\x7d' (keyed m) := by
  obtain ⟨tail, hl⟩ := h.exists_cons
  exact ⟨m.1, _, '"', tail, rfl, hl, rfl, by decide⟩

theorem Begins.skipSpace {off : Char} {lexemes more : List String} {cs : List Char}
    (hb : Begins off lexemes) (h : Spells (lexemes ++ more) cs) :
    ∃ c rest, skipSpace cs = c :: rest ∧ c ≠ off := by
  obtain ⟨l, _, c, tail, rfl, hl, hc, hoff⟩ := hb
  obtain ⟨text, hs, -⟩ := Spells.skipSpace_cons h hl hc
  exact ⟨c, _, hs, hoff⟩

/-- A value of a list is left from its first character on. -/
theorem Begins.nextElement {value more : List String} {first : Bool} {cs : List Char}
    (hb : Begins ']' value) (h : Spells (lead first ++ (value ++ more)) cs) :
    ∃ text, nextElement first cs = .ok (.more text) ∧ Spells (value ++ more) text := by
  obtain ⟨l, _, c, tail, rfl, hl, hc, hoff⟩ := hb
  exact Spells.nextElement_more h hl hc hoff

/-! ## What one step passes over -/

namespace Frame

/-- The character that opens a frame. -/
def opening : Frame → Char
  | .list => '['
  | .object => '\x7b'

/-- What a frame holds. -/
def item : Frame → Place
  | .list => .value
  | .object => .member

end Frame

section

variable {frame : Frame} {frames : List Frame} {c : Char} {cs rest tail : List Char}

theorem skip_scalar (hs : skipSpace cs = c :: rest) (hl : c ≠ '[') (ho : c ≠ '\x7b')
    (h : skipScalar c rest = .ok tail) : skip .value frames cs = skip .after frames tail := by
  rw [skip]
  split
  · next hs' => cases hs.symm.trans hs'
  · next hs' =>
    cases hs.symm.trans hs'
    rw [if_neg hl, if_neg ho]
    split
    · next h' => cases h.symm.trans h'
    · next h' => cases h.symm.trans h'; rfl

theorem skip_opening (hs : skipSpace cs = frame.opening :: rest) (hr : skipSpace rest = c :: tail) :
    skip .value frames cs =
      skip (if c = frame.close then .after else frame.item) (frame :: frames) rest := by
  rw [skip]
  split
  · next hs' => cases hs.symm.trans hs'
  · next hs' =>
    cases hs.symm.trans hs'
    cases frame with
    | list =>
      rw [if_pos (show Frame.list.opening = '[' from rfl), hr]
      by_cases hc : c = ']' <;> simp [Frame.close, Frame.item, hc]
    | object =>
      rw [if_neg (by decide), if_pos (show Frame.object.opening = '\x7b' from rfl), hr]
      by_cases hc : c = '\x7d' <;> simp [Frame.close, Frame.item, hc]

theorem skip_comma (hs : skipSpace cs = ',' :: rest) :
    skip .after (frame :: frames) cs = skip frame.item (frame :: frames) rest := by
  rw [skip]
  split
  · next hs' => cases hs.symm.trans hs'
  · next hs' =>
    cases hs.symm.trans hs'
    cases frame <;> rfl

theorem skip_close (hs : skipSpace cs = frame.close :: rest) :
    skip .after (frame :: frames) cs = skip .after frames rest := by
  rw [skip]
  split
  · next hs' => cases hs.symm.trans hs'
  · next hs' =>
    cases hs.symm.trans hs'
    cases frame <;> rfl

theorem skip_member (h : skipKey cs = .ok rest) :
    skip .member frames cs = skip .value frames rest := by
  rw [skip.eq_def .member]
  simp only
  split
  · next h' => cases h.symm.trans h'
  · next h' => cases h.symm.trans h'; rfl

end

/-! ## Passing over lexemes -/

/-- From one place inside open frames to another one, exactly some lexemes are passed over. -/
def Passes (place : Place) (frames : List Frame) (lexemes : List String) (place' : Place)
    (frames' : List Frame) : Prop :=
  ∀ more cs, Closing more → Spells (lexemes ++ more) cs →
    ∃ text, skip place frames cs = skip place' frames' text ∧ Spells more text

theorem IsString.skipString {l : String} (h : IsString l) {tail : List Char}
    (hl : l.toList = '"' :: tail) (rest : List Char) : skipString (tail ++ rest) = .ok rest := by
  obtain ⟨text, ht, hl'⟩ := h
  obtain rfl := (List.cons.inj (hl.symm.trans hl')).2
  simpa using ht.skipString rest

/-- A scalar is passed over up to its end, in front of what no number goes on with. -/
theorem IsScalar.skipScalar {l : String} (h : IsScalar l) {c : Char} {tail : List Char}
    (hl : l.toList = c :: tail) {text : List Char} (ht : EndsNumber text) :
    skipScalar c (tail ++ text) = .ok text := by
  cases h with
  | word h =>
    -- The word says what its first character is, and with it which word is passed over.
    rcases List.mem_cons.1 h with rfl | h
    · obtain ⟨rfl, rfl⟩ := List.cons.inj (hl.symm.trans (show _ = ['n', 'u', 'l', 'l'] from rfl))
      rfl
    rcases List.mem_pair.1 h with rfl | rfl
    · obtain ⟨rfl, rfl⟩ := List.cons.inj (hl.symm.trans (show _ = ['t', 'r', 'u', 'e'] from rfl))
      rfl
    · obtain ⟨rfl, rfl⟩ :=
        List.cons.inj (hl.symm.trans (show _ = ['f', 'a', 'l', 's', 'e'] from rfl))
      rfl
  | number h =>
    obtain ⟨c', tail', hl', hc⟩ := h.exists_cons
    obtain ⟨rfl, rfl⟩ := List.cons.inj (hl.symm.trans hl')
    have hother : c ≠ '"' ∧ c ≠ 'n' ∧ c ≠ 't' ∧ c ≠ 'f' := by
      refine ⟨?_, ?_, ?_, ?_⟩ <;> rintro rfl <;> exact absurd hc (by decide)
    obtain ⟨hq, hn, ht', hf⟩ := hother
    rw [Json.skipScalar, if_neg hq, if_neg hn, if_neg ht', if_neg hf, if_pos hc,
      ← List.cons_append, ← hl, h.takeSignedNumeral _ ht]
    rfl
  | string h =>
    obtain ⟨tail', hl'⟩ := h.exists_cons
    obtain ⟨rfl, rfl⟩ := List.cons.inj (hl.symm.trans hl')
    exact h.skipString hl text

theorem IsScalar.passes {l : String} (h : IsScalar l) (frames : List Frame) :
    Passes .value frames [l] .after frames := by
  intro more cs hmore hcs
  obtain ⟨c, tail, hl, hc, hlist, -, hobject⟩ := h.exists_cons
  obtain ⟨text, hs, ht⟩ := Spells.skipSpace_cons hcs hl hc
  exact ⟨text, skip_scalar hs hlist hobject (h.skipScalar hl (hmore text ht)), ht⟩

theorem passes_keyed {m : String × List String} {frames : List Frame} (hk : IsString m.1)
    (hv : Passes .value frames m.2 .after frames) :
    Passes .member frames (keyed m) .after frames := by
  intro more cs hmore hcs
  obtain ⟨tail, hl⟩ := hk.exists_cons
  obtain ⟨text, hs, ht⟩ := Spells.skipSpace_cons hcs hl rfl
  obtain ⟨text₁, hc, ht₁⟩ := Spells.takeColon ht
  have hkey : skipKey cs = .ok text₁ := by
    rw [skipKey, hs]
    simp only [if_true, hk.skipString hl, hc]
  obtain ⟨text₂, hskip, ht₂⟩ := hv more text₁ hmore ht₁
  exact ⟨text₂, (skip_member hkey).trans hskip, ht₂⟩

/-- Behind a value of a frame come a comma or the end of the frame. -/
theorem closing_separated (frame : Frame) {close : String} (hc : close.toList = [frame.close])
    (items : List (List String)) (more : List String) :
    Closing (separated false items ++ close :: more) := by
  cases items with
  | nil => exact closing_cons hc (by cases frame <;> decide) _
  | cons => exact closing_cons (c := ',') rfl (by decide) _

section

variable {frame : Frame} {frames : List Frame} {close : String} {items : List (List String)}

/-- The other values of a frame are passed over with its end. -/
theorem passes_separated (hc : close.toList = [frame.close])
    (h : ∀ item ∈ items, Passes frame.item (frame :: frames) item .after (frame :: frames)) :
    Passes .after (frame :: frames) (separated false items ++ [close]) .after frames := by
  intro more cs hmore hcs
  induction items generalizing cs with
  | nil =>
    obtain ⟨text, hs, ht⟩ :=
      Spells.skipSpace_punctuation hcs hc (by cases frame <;> rfl)
    exact ⟨text, skip_close hs, ht⟩
  | cons item items ih =>
    have hcs : Spells ("," :: (item ++ (separated false items ++ close :: more))) cs := by
      simpa [separated, lead] using hcs
    obtain ⟨text, hs, ht⟩ := hcs.skipSpace_punctuation (c := ',') rfl rfl
    obtain ⟨text₁, hitem, ht₁⟩ :=
      h item List.mem_cons_self _ _ (closing_separated frame hc items more) ht
    obtain ⟨text₂, hitems, ht₂⟩ := ih (fun i hi => h i (.tail _ hi)) text₁ (by simpa using ht₁)
    exact ⟨text₂, ((skip_comma hs).trans hitem).trans hitems, ht₂⟩

variable (frame) in
/-- A frame is passed over with all that it holds. -/
theorem passes_frame {opening : String} (ho : opening.toList = [frame.opening])
    (hc : close.toList = [frame.close]) (hb : ∀ item ∈ items, Begins frame.close item)
    (h : ∀ item ∈ items, Passes frame.item (frame :: frames) item .after (frame :: frames)) :
    Passes .value frames (opening :: (separated true items ++ [close])) .after frames := by
  intro more cs hmore hcs
  obtain ⟨text, hs, ht⟩ := Spells.skipSpace_punctuation hcs ho (by cases frame <;> rfl)
  cases items with
  | nil =>
    obtain ⟨text₁, hs₁, ht₁⟩ := Spells.skipSpace_punctuation ht hc (by cases frame <;> rfl)
    exact ⟨text₁, by rw [skip_opening hs hs₁, if_pos rfl, skip_close hs₁], ht₁⟩
  | cons item items =>
    have ht : Spells (item ++ (separated false items ++ close :: more)) text := by
      simpa [separated, lead] using ht
    obtain ⟨c, rest, hs₁, hne⟩ := (hb item List.mem_cons_self).skipSpace ht
    obtain ⟨text₁, hitem, ht₁⟩ :=
      h item List.mem_cons_self _ _ (closing_separated frame hc items more) ht
    obtain ⟨text₂, hitems, ht₂⟩ :=
      passes_separated hc (fun i hi => h i (.tail _ hi)) more text₁ hmore (by simpa using ht₁)
    exact ⟨text₂, by rw [skip_opening hs hs₁, if_neg hne, hitem, hitems], ht₂⟩

end

/-- **A value is passed over up to its end**, however deep it is nested and whatever it holds. -/
theorem IsValue.passes {value : List String} (h : IsValue value) (frames : List Frame) :
    Passes .value frames value .after frames := by
  induction h generalizing frames with
  | scalar h => exact h.passes frames
  | @list values hv ih =>
    exact passes_frame .list rfl rfl (fun value hin => (hv value hin).begins)
      fun value hin => ih value hin _
  | @object members hk hv ih =>
    refine passes_frame .object rfl rfl (fun item hin => ?_) fun item hin => ?_
    · obtain ⟨m, hm, rfl⟩ := List.mem_map.1 hin
      exact begins_keyed (hk m hm)
    · obtain ⟨m, hm, rfl⟩ := List.mem_map.1 hin
      exact passes_keyed (hk m hm) (ih m hm _)

/-- What is behind a value is left when the value has been passed over. -/
theorem IsValue.skipValue {value more : List String} {cs : List Char} (h : IsValue value)
    (hmore : Closing more) (hcs : Spells (value ++ more) cs) :
    ∃ text, skipValue cs = .ok text ∧ Spells more text := by
  obtain ⟨text, hs, ht⟩ := h.passes [] more cs hmore hcs
  exact ⟨text, by rw [Json.skipValue, hs, skip], ht⟩

end Json
end ReportQuery
